import HtmlToHaml.Options

/-!
# Arguments of the command line

Arguments are flags, which may be joined behind one hyphen, and at most two names of files. After
two hyphens everything is a name. The first argument that is wrong decides the message, and a flag
that asks for help or for the version ends the reading at once.
-/

namespace HtmlToHaml.Cli

/-- A flag. -/
inductive Flag where
  /-- Script markers become script. -/
  | erb
  /-- The source is XHTML. -/
  | xhtml
  /-- Attributes stand in parentheses. -/
  | htmlAttributes
  /-- Attributes have keyword keys. -/
  | ruby19Attributes
  /-- The tree is printed instead of Haml. -/
  | dumpTree
  /-- More of the log is printed. -/
  | verbose
  /-- How the program is used. -/
  | help
  /-- Which version of the program this is. -/
  | version
  deriving DecidableEq, Repr

/-- All flags with their long names. -/
def longFlags : List (String × Flag) :=
  [("erb", .erb), ("xhtml", .xhtml), ("html-attributes", .htmlAttributes),
    ("ruby19-attributes", .ruby19Attributes), ("dump-tree", .dumpTree), ("verbose", .verbose),
    ("help", .help), ("version", .version)]

/-- The flags with a short name. -/
def shortFlags : List (Char × Flag) :=
  [('e', .erb), ('x', .xhtml), ('v', .verbose), ('h', .help), ('V', .version)]

/-- A flag as messages show it; one that may be repeated has dots. -/
def Flag.shown : Flag → String
  | .erb => "--erb"
  | .xhtml => "--xhtml"
  | .htmlAttributes => "--html-attributes"
  | .ruby19Attributes => "--ruby19-attributes"
  | .dumpTree => "--dump-tree"
  | .verbose => "--verbose..."
  | .help => "--help"
  | .version => "--version"

/-- What the command line asks for. -/
structure Settings where
  /-- The flags that are on. -/
  flags : List Flag := []
  /-- How often more of the log was asked for. -/
  verbosity : Nat := 0
  /-- The name of the source. -/
  input : Option String := none
  /-- The name of the file to write. -/
  output : Option String := none
  deriving DecidableEq, Repr

/-- Why nothing is converted. -/
inductive Stop where
  /-- An argument that means nothing. -/
  | unexpectedArgument (argument : String)
  /-- A flag that stands twice. -/
  | repeatedFlag (flag : Flag)
  /-- A value for a flag, which takes none. -/
  | unexpectedValue (value : String) (flag : Flag)
  /-- The use of the program was asked for. -/
  | help
  /-- The version of the program was asked for. -/
  | version
  deriving DecidableEq, Repr

namespace Settings

/-- The settings with a flag on. -/
def takeFlag (settings : Settings) : Flag → Except Stop Settings
  | .help => .error .help
  | .version => .error .version
  | .verbose => .ok { settings with verbosity := settings.verbosity + 1 }
  | flag =>
    if settings.flags.contains flag then .error (.repeatedFlag flag)
    else .ok { settings with flags := flag :: settings.flags }

/-- The settings after the name of a file: the source comes first, the file to write second. -/
def takeName (settings : Settings) (name : String) : Except Stop Settings :=
  if settings.input.isNone then .ok { settings with input := some name }
  else if settings.output.isNone then .ok { settings with output := some name }
  else .error (.unexpectedArgument name)

/-- The settings after a flag with a long name, behind which a value may stand. -/
def takeLong (settings : Settings) (name : List Char) (value : Option (List Char)) :
    Except Stop Settings :=
  match longFlags.lookup (String.ofList name) with
  | none => .error (.unexpectedArgument ("--" ++ String.ofList name))
  | some flag =>
    match value with
    | some value => .error (.unexpectedValue (String.ofList value) flag)
    | none => settings.takeFlag flag

/-- The settings after flags with short names. -/
def takeShort (settings : Settings) (names : List Char) : Except Stop Settings :=
  names.foldlM (fun settings c =>
    match shortFlags.lookup c with
    | none => .error (.unexpectedArgument (String.ofList ['-', c]))
    | some flag => settings.takeFlag flag) settings

/-- The settings after one argument in front of two hyphens. -/
def take (settings : Settings) (argument : String) : Except Stop Settings :=
  match argument.toList with
  | '-' :: '-' :: s =>
    let name := s.takeWhile (· != '=')
    settings.takeLong name ((s.dropWhile (· != '=')).tail?)
  | '-' :: c :: s => settings.takeShort (c :: s)
  | _ => settings.takeName argument

/-- The settings after a row of arguments. -/
def takeAll (settings : Settings) : List String → Except Stop Settings
  | [] => .ok settings
  | argument :: rest =>
    if argument = "--" then rest.foldlM takeName settings
    else do (← settings.take argument).takeAll rest

/-- What a row of arguments asks for. -/
def ofArguments (arguments : List String) : Except Stop Settings :=
  takeAll {} arguments

/-- Whether a flag is on. -/
def has (settings : Settings) (flag : Flag) : Bool :=
  settings.flags.contains flag

/-- The options of the conversion. -/
def options (settings : Settings) : Options :=
  ((((({} : Options).withErb (settings.has .erb)).withXhtml (settings.has .xhtml)).withRuby19Style
    (settings.has .ruby19Attributes)).withHtmlStyle (settings.has .htmlAttributes))

end Settings

/-- The name of the program. -/
def programName : String := "hamlize"

/-- The version of the program. -/
def versionLine : String := programName ++ " 0.1.0"

/-- How the program is used. -/
def helpLines : List String :=
  ["Convert HTML and ERB templates to Haml",
    "",
    "Usage: hamlize [OPTIONS] [INPUT] [OUTPUT]",
    "",
    "Arguments:",
    "  [INPUT]   Input file, or - for stdin [default: -]",
    "  [OUTPUT]  Output file (defaults to stdout)",
    "",
    "Options:",
    "  -e, --erb                Render loud/silent/block ERB markers as Haml script",
    "  -x, --xhtml              Parse the input as XHTML",
    "      --html-attributes    Use (name=\"value\") attributes",
    "      --ruby19-attributes  Use \x7bname: \"value\"\x7d attributes",
    "      --dump-tree          Print the parsed tree as JSON instead of converting",
    "  -v, --verbose...         Increase log verbosity (-v, -vv, -vvv)",
    "  -h, --help               Print help",
    "  -V, --version            Print version",
    "",
    "EXAMPLES:",
    "    hamlize page.html page.haml       Convert a file",
    "    cat page.html | hamlize           Read stdin, write stdout",
    "    hamlize -e view.html.erb          Render ERB markers as script lines",
    "    hamlize --dump-tree page.html     Show the parsed tree as JSON"]

namespace Stop

/-- What is printed for an answer that needs no conversion. -/
def answer : Stop → List String
  | .help => helpLines
  | .version => [versionLine]
  | _ => []

/-- What is wrong with the arguments. -/
def complaint : Stop → Option String
  | .unexpectedArgument argument => some ("unexpected argument '" ++ argument ++ "' found")
  | .repeatedFlag flag =>
    some ("the argument '" ++ flag.shown ++ "' cannot be used multiple times")
  | .unexpectedValue value flag =>
    some ("unexpected value '" ++ value ++ "' for '" ++ flag.shown ++
      "' found; no more were expected")
  | .help | .version => none

end Stop

end HtmlToHaml.Cli
