/-
# Programs

Where the programs are that a command names: a path is taken as it is, and a plain name is
looked up in the directories of the search path.
-/
import SpeechConfig.Shell.Condition

namespace SpeechConfig.Shell

def usualSearchPath : String :=
  "/usr/local/sbin:/usr/local/bin:/usr/sbin:/usr/bin:/sbin:/bin"

/-- Whether a path leads to a file that may be started. -/
def leadsToProgram (path : String) : Act Bool := do
  match ← nodeAt? true path with
  | some (_, .directory) => return false
  | some (l, n) => isExecutable l n
  | none => return false

/-- The paths of the programs with a name, in the order of the search path. -/
def programPaths (name : String) (searchPath : Option String) : Act (List String) := do
  let places := splitAll ':' (searchPath.getD usualSearchPath)
  let paths := places.map fun place => (if place.isEmpty then "." else place) ++ "/" ++ name
  paths.filterM leadsToProgram

def programPath? (name : String) : Act (Option String) := do
  if name.toList.contains '/' then return if ← leadsToProgram name then some name else none
  else if name.isEmpty then return none
  else return (← programPaths name (← Act.textOf "PATH")).head?

def rememberProgram (name path : String) (hits : Nat) : Act Unit :=
  Act.update fun p =>
    let count := (p.hashed.lookup name).map Prod.snd |>.getD 0
    { p with hashed := p.hashed.filter (fun e => e.1 != name) ++ [(name, path, count + hits)] }

/-- Why a path cannot be started, with the status for it. -/
def startFault (path : String) : Act (String × Nat) := do
  match (← Act.files).walk .follow (pathOf path) with
  | .ok (.present _ .directory) => return ("Is a directory", 126)
  | .ok (.present _ _) => return ("Permission denied", 126)
  | .ok (.absent _ _) => return ("No such file or directory", 127)
  | .error .notFound => return ("No such file or directory", 127)
  | .error .notDirectory => return ("Not a directory", 126)
  | .error e => return (e.reason, 126)

end SpeechConfig.Shell
