import HtmlToHaml.Cli.Session

/-!
# The program

The command line program that converts a file or the standard input.
-/

namespace HtmlToHaml.Cli

/-- The fault that an error of the system stands for. -/
def FileFault.ofError : IO.Error → FileFault
  | .noFileOrDirectory _ _ _ => .missing
  | .permissionDenied _ _ _ => .denied
  | .inappropriateType _ code details =>
    if code = 20 then .notDirectory else if code = 21 then .directory else .other details
  | error => .other (toString error)

/-- The answer of an action, or the fault that stopped it. -/
def attempt {α : Type} (action : IO α) : IO (Except FileFault α) := do
  try return .ok (← action)
  catch error => return .error (.ofError error)

/-- All that is left in a stream. -/
partial def readAll (stream : IO.FS.Stream) (bytes : ByteArray) : IO ByteArray := do
  let chunk ← stream.read 65536
  if chunk.isEmpty then return bytes
  else readAll stream (bytes ++ chunk)

/-- The place the program runs in. -/
def systemHost : Host IO where
  readStdin := attempt do return (← readAll (← IO.getStdin) .empty).toList
  readFile name := attempt do return (← IO.FS.readBinFile name).toList
  writeFile name text := attempt (IO.FS.writeFile name (String.ofList text))
  print text := attempt do
    let stdout ← IO.getStdout
    stdout.putStr (String.ofList text)
    stdout.flush
  report line := IO.eprintln line

end HtmlToHaml.Cli

/-- Runs the program. -/
def main (arguments : List String) : IO UInt32 :=
  HtmlToHaml.Cli.run HtmlToHaml.Cli.systemHost arguments
