/-
# Running programs

What starting a program comes to.  Commands inside commands are run by the executor of the
next depth, so every run ends.

The shell is one choice of the programs that a script compiler starts.  It stands on the file
system and on texts only, and everything else takes the programs as a parameter: the
theorems hold whatever programs there are, and only the program itself is put together
with these.
-/
import SpeechConfig.Shell.Compound
import SpeechConfig.Shell.Surroundings

namespace SpeechConfig.Shell

/-- How deep commands may be run inside each other. -/
def depthLimit : Nat := 20000

/-- Runs a command, unless the shell only reads commands: it then drops also those that it
has read already. -/
def runUnlessReading (x : Executor) (c : Command) : Act Unit := do
  if ← Act.hasOption "noexec" then return () else runCommand x c

/-- The executor of a depth; where it ends, a shell breaks down. -/
def executor : Nat → Executor
  | 0 =>
    { run := fun _ => throw (.killed 11)
      text := fun _ _ _ => throw (.killed 11)
      settle := fun _ => return ()
      pieces := fun _ _ => throw (.killed 11)
      launch := fun _ => throw (.killed 11) }
  | n + 1 =>
    { run := fun c => runUnlessReading (executor n) c
      text := fun origin line text => runText (executor n) origin line text
      settle := fun which => settleJobs (executor n) which 1000
      pieces := fun m pieces => expandPieces (executor n) m pieces
      launch := fun argv => launchProgram (executor n) argv }

def startingVariables : List (String × String) :=
  [("HOME", "/root"), ("PATH", usualSearchPath)]

def startingSession (fs : FileSystem) : Session :=
  { process :=
      { number := 4242
        main := 4242
        parent := 4241
        bindings := startingVariables.map fun e => (e.1, { value := .text e.2, exported := true })
        streams := [(0, 0), (1, 1), (2, 2)]
        place := fs.workDir
        here := placeText fs.workDir }
    world :=
      { files := fs
        opened := #[{ target := .nothing }, { target := .buffer 0 }, { target := .buffer 1 }]
        buffers := #[{}, {}] } }

def startingFault (program : String) : Act FileSystem.Fault := do
  match (← Act.files).walk .follow (pathOf program) with
  | .ok (.present _ _) => return .permissionDenied
  | .ok (.absent _ _) => return .notFound
  | .error e => return e

def startingPath (program : String) : Act (Except FileSystem.Fault String) := do
  match ← programPath? program with
  | some path => return .ok path
  | none =>
    if program.toList.contains '/' then return .error (← startingFault program)
    else if program.isEmpty then return .error .notFound
    else if program = "." || program = ".." then return .error .permissionDenied
    else if FileSystem.longestName < program.length then return .error .nameTooLong
    else return .error .notFound

/-- Runs a program with its argument to its end, and waits for what it left in the
background. -/
def runToTheEnd (x : Executor) (path program argument : String) : Act Ending := do
  let complain (message : String) : Act Unit := Act.warn (program ++ ": " ++ message)
  let result ← Act.attempt (runProgramAt x complain 5 path [program, argument])
  x.settle .all
  match result with
  | .ok status => return .exit (status % 256)
  | .error (.killed n) => return .signal n
  | .error stop => return .exit (statusOf stop 1 % 256)

def programs : Programs := fun program argument fs =>
  let (added, inside) := surround fs
  let program := Octets.ofText program
  let argument := Octets.ofText argument
  let session := startingSession inside
  match (startingPath program).run session with
  | (.error _, _) => .error .notFound
  | (.ok (.error fault), _) => .error fault
  | (.ok (.ok path), s) =>
    let (ending, s) := (runToTheEnd (executor depthLimit) path program argument).run s
    let ending := match ending with
      | .ok ending => ending
      | .error stop => .exit (statusOf stop 1)
    let textOf (i : Nat) : List UInt8 :=
      Octets.numbers (String.ofList ((s.world.buffers[i]?.map Buffer.content).getD []))
    .ok
      { files := { bereave added s.world.files with workDir := fs.workDir }
        stdout := textOf 0
        stderr := textOf 1
        ending := ending }

end SpeechConfig.Shell
