import JsonSchema.Command.Run

/-!
The command line.

All files that a command may ask for are read before it is carried out: the file of variables, and
every file that a word names.
-/

namespace JsonSchema.Main

open Command

def readDefect : IO.Error → ReadDefect
  | .noFileOrDirectory .. => .missing
  | .inappropriateType .. => .isADirectory
  | e => .other (toString e)

def find (path : FilePath) : IO (Except ReadDefect (List UInt8)) := do
  try
    return .ok (← IO.FS.readBinFile path.text).toList
  catch e => return .error (readDefect e)

def findAll (paths : List FilePath) : IO Files := do
  let found ← paths.mapM fun p => do return (p, ← find p)
  return fun path => ((found.find? fun f => f.1 == path).map (·.2)).getD (.error .missing)

/-- The variables of the environment, as the system lists them. -/
def environment : IO EnvFile.Variables := do
  match ← find (.ofText "/proc/self/environ") with
  | .error _ => return []
  | .ok bytes =>
    let entries := (String.fromUTF8? ⟨bytes.toArray⟩).getD ""
    return (entries.splitOn "\x00").filterMap fun entry =>
      match entry.toList.span (· != '=') with
      | (name, '=' :: value) => some (String.ofList name, some (String.ofList value))
      | _ => none

def usageLines : List String := [
  "Usage: schemavalidator [-l LEVEL] validate SCHEMA DOCUMENT [-f table|json] [-r]",
  "       schemavalidator [-l LEVEL] version"]

def finish : Ending → IO UInt32
  | .usage u => do
    usageLines.forM IO.eprintln
    return u.status.toUInt32
  | .finished status output reports => do
    reports.forM IO.eprintln
    output.forM IO.println
    return status.toUInt32
  | .broken fault => do
    IO.eprintln ("Error: " ++ fault.text)
    return 1

end JsonSchema.Main

open JsonSchema in
def main (words : List String) : IO UInt32 := do
  let paths := Settings.filePath :: words.map FilePath.ofText
  Main.finish (Command.run (← Main.environment) (← Main.findAll paths) words)
