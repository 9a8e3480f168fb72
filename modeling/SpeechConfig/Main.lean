/-
# The program

Takes the arguments, the variables and the files that a run looks at, runs the command
on them, writes back what it changed, and prints what it says.
-/
import SpeechConfig.CommandLine.Run
import SpeechConfig.Shell.Run

namespace SpeechConfig.CommandLine

def variableNames : List String :=
  ["XDG_CONFIG_HOME", "HOME", "LEXIS_VARIANT", "LEXIS_COMPILE_MODE", "LEXIS_COMPILER_OUTPUT",
    "LEXIS_WORK_DIR"]

/-- The files that decide what a run does. -/
def Arguments.inputs (a : Arguments) (env : Environment) : List Path :=
  let settings := a.settings.getD (Settings.defaultPath env)
  match a.command with
  | .generate request => [settings, request]
  | .printDefaultSettings => []

/-- The files and directories that a run works on, once its settings are known. -/
def Arguments.workplaces (a : Arguments) (env : Environment) (fs : FileSystem) : List Path :=
  match a.resolve env fs with
  | .ok s => [s.workDirectory, s.compilerScript]
  | .error _ => []

/-- The place that a path of plain parts leads to. -/
def placeOf (fs : FileSystem) (p : Path) : Location :=
  (FileSystem.segments p).foldl
    (fun here part =>
      if part = "" ∨ part = "." then here else if part = ".." then here.tail else part :: here)
    (FileSystem.startOf p fs.workDir)

/-- Adds what stands at a place, and everything below it. -/
partial def load (fs : FileSystem) (place : Location) : IO FileSystem := do
  let path := (← IO.currentDir) / Shell.placeText place
  if ← path.isDir then
    let mut fs := fs.put place .directory
    for entry in ← path.readDir do
      fs ← load fs (entry.fileName :: place)
    return fs
  else if ← path.pathExists then
    return fs.put place (.file (← IO.FS.readBinFile path))
  else return fs

/-- Adds what paths lead to, and the directories on the way there. -/
def loadAll (fs : FileSystem) (paths : List Path) : IO FileSystem :=
  paths.foldlM (fun fs p => do
    let place := placeOf fs p
    let mut fs := fs
    for up in (FileSystem.onTheWay place.tail).reverse do
      if ← ((← IO.currentDir) / Shell.placeText up).isDir then
        fs := fs.put up .directory
    load fs place) fs

/-- Writes one place as it is after a run. -/
def store (place : Location) (node : Node) : IO Unit := do
  let path := (← IO.currentDir) / Shell.placeText place
  match node with
  | .directory => IO.FS.createDirAll path
  | .file content => IO.FS.writeBinFile path content
  | .link target => IO.eprintln ("lexis: no link to " ++ target.text ++ " is made")

/-- Removes one place that a run took away. -/
def discard (place : Location) : IO Unit := do
  let path := (← IO.currentDir) / Shell.placeText place
  if ← path.isDir then IO.FS.removeDirAll path
  else if ← path.pathExists then IO.FS.removeFile path

/-- Makes the files what they are after a run, outer places first. -/
def storeChanges (before after : FileSystem) : IO Unit := do
  for (place, _) in before.below [] do
    if (after.node? place).isNone then discard place
  let changed := (after.below []).filter fun entry => before.node? entry.1 ≠ some entry.2
  for (place, node) in changed.mergeSort fun a b => a.1.length ≤ b.1.length do
    store place node

end SpeechConfig.CommandLine

open SpeechConfig SpeechConfig.CommandLine in
def main (arguments : List String) : IO UInt32 := do
  let values ← variableNames.mapM fun name => do return (name, ← IO.getEnv name)
  let env : Environment := fun name => (values.lookup name).join
  let here := (FileSystem.segments ⟨(← IO.currentDir).toString⟩).filter fun part => part != ""
  let mut files := FileSystem.bare here.reverse
  if let .done a := read arguments then
    files ← loadAll files (a.inputs env)
    files ← loadAll files (a.workplaces env files)
  let e := run arguments Shell.programs env files
  storeChanges files e.files
  IO.print e.stdout
  IO.eprint e.stderr
  return e.status.toUInt32
