import AspectForms.Command.Footprint

/-!
The command line.  The files that a request looks at are read first, the request runs on them in memory, and
then the files that it has changed are written.  No other program is started, so a formatter counts as
missing.
-/

namespace AspectForms.CommandLine

/-- The variables that matter. -/
def variableNames : List String :=
  ["ASPECTGEN_LOG_LEVEL", "ASPECTGEN_LOG_FORMAT", "ASPECTGEN_LOG_TARGET_FILTER",
    "ASPECTGEN_LOG_INCLUDE_LOCATION", "ASPECTGEN_PRETTIER_BIN", Logging.Config.overridingVariable]

def readEnvironment : IO Environment := do
  variableNames.filterMapM fun name => do return (← IO.getEnv name).map (name, ·)

/-- An empty disk with the working directory of the process. -/
def emptyDisk : IO Disk := do
  let here := (← IO.currentDir).toString
  let names := (Path.components here).filterMap fun
    | .normal name => some name
    | _ => none
  let disk : Disk := { tree := .directory [], working := [] }
  return { (FileSystem.makeDirectories disk here).1 with working := names }

/-- The disk with the real file at a path; what cannot be read as a file counts as a directory. -/
def snapshot (disk : Disk) (path : String) : IO Disk := do
  try
    let bytes ← IO.FS.readBinFile path
    return disk.provide path (.ofBytes bytes.toList)
  catch
    | .noFileOrDirectory .. => return disk
    | _ => return (FileSystem.makeDirectories disk path).1

def writeBack (file : String × Contents) : IO Unit := do
  let path := "/" ++ file.1
  IO.FS.createDirAll ((Path.parent? path).getD "/")
  match file.2 with
  | .text text => IO.FS.writeFile path text
  | .bytes bytes => IO.FS.writeBinFile path ⟨bytes.toArray⟩

/-- How the program is used. -/
def usage : List String :=
  "Usage: aspectgen <request> <options>" :: Arguments.requests.map fun r =>
    "  " ++ r.word ++ Text.join "" (r.specs.map fun s => " --" ++ s.name)

end AspectForms.CommandLine

open AspectForms AspectForms.CommandLine in
/-- Run the program. -/
def main (args : List String) : IO UInt32 := do
  match Command.ofArguments args with
  | .error .help =>
    usage.forM IO.println
    return 0
  | .error .invalid =>
    usage.forM IO.eprintln
    return UInt32.ofNat Arguments.Refusal.invalid.status
  | .ok command =>
    let environment ← readEnvironment
    let before ← command.inputs.foldlM snapshot (← emptyDisk)
    let before ← (command.outputs before).foldlM snapshot before
    let ending := runArguments ⟨environment, fun _ => .missing⟩ before args
    ({ before with working := [] }.changes { ending.disk with working := [] }).forM writeBack
    IO.print ending.output
    ending.complaints.forM IO.eprintln
    return UInt32.ofNat ending.status
