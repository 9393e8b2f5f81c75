/-!
# Files by name

The directories, files and links of a place, what a name leads to from the working directory or from
the root, and why a file cannot be read or written.
-/

namespace HtmlToHaml.Cli

/-- Why a file cannot be read or written. -/
inductive FileFault where
  /-- There is nothing of this name. -/
  | missing
  /-- The file may not be used. -/
  | denied
  /-- Something in front of the name is no directory. -/
  | notDirectory
  /-- The name is that of a directory. -/
  | directory
  /-- Something else, in the words of the system. -/
  | other (text : String)
  deriving DecidableEq, Repr

/-- The fault in words. -/
def FileFault.message : FileFault → String
  | .missing => "No such file or directory (os error 2)"
  | .denied => "Permission denied (os error 13)"
  | .notDirectory => "Not a directory (os error 20)"
  | .directory => "Is a directory (os error 21)"
  | .other text => text

/-- Files with their names. A name with a slash in front is one from the root, and any other one
from the working directory. -/
abbrev Files := List (String × List UInt8)

/-- Whether a text names something in the directory that holds it: it has no slash, and it is
neither empty nor the dots of a directory that has been passed. -/
def isName (part : List Char) : Bool :=
  part != [] && part != ['.'] && part != ['.', '.'] && !part.contains '/'

/-- The way from the root to something, name by name. -/
abbrev Path := List {part : List Char // isName part = true}

/-- A directory below the root to work in. -/
def workDirectory : Path :=
  [⟨['w', 'o', 'r', 'k'], rfl⟩]

/-- What is true of a place besides its files. -/
structure Conditions where
  /-- The way to the working directory, which is there. -/
  workingDirectory : Path := workDirectory
  /-- Whether there is a directory that no name of a file shows. -/
  emptyDirectory : Path → Bool := fun _ => false
  /-- Where a link leads in the end, or why it leads nowhere, if there is one. -/
  link : Path → Option (Except FileFault Path) := fun _ => none
  /-- Why nothing may be looked up in a directory, if so. -/
  closed : Path → Option FileFault := fun _ => none
  /-- Why a file may not be read, if so. -/
  unreadable : Path → Option FileFault := fun _ => none
  /-- Why a file may not be written or made, if so. -/
  unwritable : Path → Option FileFault := fun _ => none
  /-- After how many bytes writing a file breaks off, and why, if it does. -/
  room : Path → Option (Nat × FileFault) := fun _ => none

/-- The parts of a name between its slashes. -/
def parts (name : String) : List (List Char) :=
  name.toList.splitOn '/'

/-- Where a name begins: at the root if there is a slash in front, and else at the working
directory. -/
def start (conditions : Conditions) (name : String) : Path :=
  if (parts name).head? = some [] then [] else conditions.workingDirectory

/-- The way to a file of a name. -/
def pathOf (conditions : Conditions) (name : String) : Path :=
  start conditions name ++
    (parts name).filterMap fun part => if h : isName part = true then some ⟨part, h⟩ else none

/-- The name from the root of the file at the end of a way. -/
def nameOf (path : Path) : String :=
  String.ofList ('/' :: ['/'].intercalate (path.map Subtype.val))

/-- What can be found at the end of a way. -/
inductive Found where
  /-- A directory. -/
  | directory
  /-- A file. -/
  | file (content : List UInt8)
  /-- Nothing. -/
  | nothing
  deriving DecidableEq, Repr

/-- What is written before writing breaks off, and the fault that breaks it off. -/
def cutOff {α : Type} (limit : Option (Nat × FileFault)) (content : List α) :
    List α × Except FileFault Unit :=
  match limit with
  | none => (content, .ok ())
  | some (room, fault) =>
    if content.length ≤ room then (content, .ok ()) else (content.take room, .error fault)

namespace Files

/-- The content of the file at the end of a way. -/
def content? (files : Files) (conditions : Conditions) (path : Path) : Option (List UInt8) :=
  (files.find? fun file => pathOf conditions file.1 == path).map Prod.snd

/-- Whether a way leads to a directory: the working directory and all above it are directories, and
so is all above a file. -/
def isDirectory (files : Files) (conditions : Conditions) (path : Path) : Bool :=
  path.isPrefixOf conditions.workingDirectory || conditions.emptyDirectory path ||
    files.any fun file => path.isPrefixOf (pathOf conditions file.1) &&
      path.length < (pathOf conditions file.1).length

/-- What is at the end of a way. -/
def find (files : Files) (conditions : Conditions) (path : Path) : Found :=
  if files.isDirectory conditions path then .directory
  else (files.content? conditions path).elim .nothing .file

/-- One part further on a way. Two dots lead back by one name, and nowhere from the root. -/
def step (files : Files) (conditions : Conditions) (place : Path) (part : List Char) :
    Except FileFault Path :=
  match files.find conditions place with
  | .nothing => .error .missing
  | .file _ => .error .notDirectory
  | .directory =>
    if part = [] then .ok place
    else
      match conditions.closed place with
      | some fault => .error fault
      | none =>
        if h : isName part = true then
          let next := place ++ [⟨part, h⟩]
          (conditions.link next).getD (.ok next)
        else if part = ['.', '.'] then .ok place.dropLast
        else .ok place

/-- Where the parts of a name lead. -/
def walk (files : Files) (conditions : Conditions) (place : Path) (parts : List (List Char)) :
    Except FileFault Path :=
  parts.foldlM (files.step conditions) place

/-- What can be read at a place. -/
def contentAt (files : Files) (conditions : Conditions) (path : Path) :
    Except FileFault (List UInt8) :=
  match conditions.unreadable path with
  | some fault => .error fault
  | none =>
    match files.find conditions path with
    | .directory => .error .directory
    | .file content => .ok content
    | .nothing => .error .missing

/-- The content of a file. -/
def readUnder (files : Files) (conditions : Conditions) (name : String) :
    Except FileFault (List UInt8) :=
  if name = "" then .error .missing
  else
    (files.walk conditions (start conditions name) (parts name)).bind (files.contentAt conditions)

/-- The content of a file where nothing is forbidden. -/
def read (files : Files) (name : String) : Except FileFault (List UInt8) :=
  files.readUnder {} name

/-- The way to the file that is written at a place, where it is or can be made. -/
def writableAt (files : Files) (conditions : Conditions) (path : Path) : Except FileFault Path :=
  match conditions.unwritable path with
  | some fault => .error fault
  | none =>
    match files.find conditions path with
    | .directory => .error .directory
    | .file _ => .ok path
    | .nothing => if files.isDirectory conditions path.dropLast then .ok path else .error .missing

/-- The way to the file that is written under a name. A slash behind a name is for directories only,
which are not written. -/
def target (files : Files) (conditions : Conditions) (name : String) : Except FileFault Path :=
  if name = "" then .error .missing
  else if (parts name).getLast? = some [] then
    let named := ((parts name).reverse.dropWhile (·.isEmpty)).reverse
    (files.walk conditions (start conditions name) named).bind fun _ => .error .directory
  else
    (files.walk conditions (start conditions name) (parts name)).bind (files.writableAt conditions)

/-- The files with a content for the file at the end of a way. -/
def put (files : Files) (conditions : Conditions) (path : Path) (content : List UInt8) : Files :=
  if (files.content? conditions path).isSome then
    files.map fun file => if pathOf conditions file.1 = path then (file.1, content) else file
  else files ++ [(nameOf path, content)]

end Files

end HtmlToHaml.Cli
