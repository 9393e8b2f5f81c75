import HtmlToHaml.Cli.Arguments
import HtmlToHaml.Cli.Files
import HtmlToHaml.Convert
import HtmlToHaml.DocTree.Record

/-!
# A run of the program

A run reads one source, converts it and writes one text. What it asks of its surroundings is a
`Host`, so the same run can be carried out in a real place and in a described one, a `World`.
-/

namespace HtmlToHaml.Cli

/-- What a run asks of its surroundings. -/
structure Host (m : Type → Type) where
  /-- Reads all of the standard input. -/
  readStdin : m (Except FileFault (List UInt8))
  /-- Reads a file. -/
  readFile : String → m (Except FileFault (List UInt8))
  /-- Writes a file. -/
  writeFile : String → List Char → m (Except FileFault Unit)
  /-- Prints text. -/
  print : List Char → m (Except FileFault Unit)
  /-- Prints a line of messages. -/
  report : String → m Unit

/-- The text that a source becomes: the tree in JSON, or Haml. -/
def Settings.convert (settings : Settings) (bytes : List UInt8) : Told :=
  let options := settings.options
  if settings.has .dumpTree then
    match Encoding.decode bytes with
    | .error failure => (.error failure, [])
    | .ok source =>
      let (tree, told) := Markup.parse source options
      let text := do
        let snapshot ← (← tree).snapshot options.maxDepth
        pure (snapshot.toJson.pretty ++ ['\n'])
      (text, told)
  else convertBytesTold bytes options

/-- The lines of the log that are printed. -/
def Settings.logLines (settings : Settings) (told : List Log.Event) : List String :=
  (told.filter (·.level.rank ≤ settings.verbosity)).map Log.Event.line

section

variable {m : Type → Type} [Monad m] (host : Host m)

/-- Ends a run with a message. -/
def fail (code : UInt32) (message : String) : m UInt32 := do
  host.report ("error: " ++ message)
  pure code

/-- Reads the source, which is the standard input unless a file is named. -/
def readSource (name : String) : m (Except String (List UInt8)) := do
  let content ← if name = "-" then host.readStdin else host.readFile name
  pure (content.mapError fun fault => name ++ ": " ++ fault.message)

/-- Writes the text, to the standard output unless a file is named. -/
def writeText (name : String) (text : List Char) : m (Except String Unit) := do
  let written ← if name = "-" then host.print text else host.writeFile name text
  pure (written.mapError FileFault.message)

/-- Carries out a conversion, and gives the exit code. -/
def convertAll (settings : Settings) : m UInt32 := do
  match ← readSource host (settings.input.getD "-") with
  | .error message => fail host 1 message
  | .ok bytes =>
    let (text, told) := settings.convert bytes
    (settings.logLines told).forM host.report
    match text with
    | .error failure => fail host 1 failure.message
    | .ok text =>
      match ← writeText host (settings.output.getD "-") text with
      | .error message => fail host 1 message
      | .ok () => pure 0

/-- Carries out what a row of arguments asks for, and gives the exit code. -/
def run (arguments : List String) : m UInt32 := do
  match Settings.ofArguments arguments with
  | .ok settings => convertAll host settings
  | .error stop =>
    stop.answer.forM fun line => do let _ ← host.print (line.toList ++ ['\n'])
    match stop.complaint with
    | some message => fail host 2 message
    | none => pure 0

end

/-- A described place for a run. -/
structure World where
  /-- What the standard input holds. -/
  stdin : List UInt8 := []
  /-- The files. -/
  files : Files := []
  /-- What was printed. -/
  stdout : List Char := []
  /-- The lines of messages. -/
  stderr : List String := []
  /-- What is true of the place besides its files. -/
  conditions : Conditions := {}
  /-- Why the standard input cannot be read, if so. -/
  stdinFault : Option FileFault := none
  /-- After how many characters printing breaks off, and why, if it does. -/
  stdoutRoom : Option (Nat × FileFault) := none

namespace World

/-- What reading the standard input comes to. -/
def readStdin (world : World) : Except FileFault (List UInt8) :=
  world.stdinFault.elim (.ok world.stdin) .error

/-- What reading a file comes to. -/
def readFile (world : World) (name : String) : Except FileFault (List UInt8) :=
  world.files.readUnder world.conditions name

/-- What writing a file comes to, and the place afterwards. A file that can be opened is emptied
before anything is written. -/
def writeFile (world : World) (name : String) (text : List Char) : Except FileFault Unit × World :=
  match world.files.target world.conditions name with
  | .error fault => (.error fault, world)
  | .ok path =>
    let (written, answer) := cutOff (world.conditions.room path) (String.ofList text).toUTF8.toList
    (answer, { world with files := world.files.put world.conditions path written })

/-- What printing comes to, and the place afterwards. -/
def print (world : World) (text : List Char) : Except FileFault Unit × World :=
  let (printed, answer) := cutOff world.stdoutRoom text
  (answer, { world with stdout := world.stdout ++ printed })

/-- The host that a described place is. -/
def host : Host (StateM World) where
  readStdin := do return (← get).readStdin
  readFile name := do return (← get).readFile name
  writeFile name text := modifyGet fun world => world.writeFile name text
  print text := modifyGet fun world => world.print text
  report line := modify fun world => { world with stderr := world.stderr ++ [line] }

end World

/-- A run in a described place: the exit code, and the place afterwards. -/
def World.run (world : World) (arguments : List String) : UInt32 × World :=
  (Cli.run World.host arguments).run world

end HtmlToHaml.Cli
