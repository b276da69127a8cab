import ClosureTemplate.Cli.Run

namespace ClosureTemplate

def environmentNames : List String :=
  ["NO_COLOR", "FORCE_COLOR", "CLICOLOR_FORCE", "NO_GRAPHICS", "TERM"]

def entryOfBytes (bytes : ByteArray) : Files.Entry :=
  match String.fromUTF8? bytes with
  | some text => .file (.ok text.toList)
  | none => .file (.error .notUtf8)

def entryOfError : IO.Error → Files.Entry
  | .inappropriateType _ code _ => if code = 21 then .directory else .absent .notADirectory
  | .permissionDenied .. => .file (.error .denied)
  | _ => .absent .notFound

def observe (path : String) : IO Files.Entry := do
  try
    return entryOfBytes (← IO.FS.readBinFile path)
  catch fault =>
    return entryOfError fault

def surroundings (words : List String) : IO Files.Host := do
  let workingDirectory := (← IO.currentDir).toString
  let mut environment : List (String × String) := []
  for name in environmentNames do
    if let some value ← IO.getEnv name then
      environment := (name, value) :: environment
  let mut entries : List (String × Files.Entry) := []
  for path in Cli.paths workingDirectory words do
    entries := (path, ← observe path) :: entries
  return {
    workingDirectory
    env? := fun name => environment.lookup name
    look := fun path => (entries.lookup path).getD (.absent .notFound)
    isTerminal := ← (← IO.getStdout).isTty }

end ClosureTemplate

def main (words : List String) : IO UInt32 := do
  let outcome := ClosureTemplate.Cli.run (← ClosureTemplate.surroundings words) words
  for line in outcome.out do
    IO.println (String.ofList line)
  for line in outcome.err do
    IO.eprintln (String.ofList line)
  return outcome.exitCode.toUInt32
