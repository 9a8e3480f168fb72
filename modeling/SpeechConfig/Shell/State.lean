/-
# Shells at work

What a shell keeps while it runs: its variables, functions, options and streams.  Beside
the shells stands the world they share: the files, what is open, and the jobs that wait.
-/
import SpeechConfig.Compiler.Process
import SpeechConfig.Shell.Syntax.Source

namespace SpeechConfig.Shell

/-! ## Variables -/

/-- The value of a variable: none yet, a text, a list of texts by their numbers, or a table
of texts by their keys. -/
inductive Value where
  | missing
  | text (s : String)
  | list (entries : List (Nat × String))
  | table (entries : List (String × String))
deriving DecidableEq, Repr, Inhabited

/-- A variable with what was declared of it. -/
structure Variable where
  value : Value := .missing
  exported : Bool := false
  readonly : Bool := false
  integer : Bool := false
  upper : Bool := false
  lower : Bool := false
  refers : Bool := false
deriving DecidableEq, Repr, Inhabited

/-- A call of a function or of a sourced file: the variables it hides, and what comes back
when it ends. -/
structure Frame where
  name : String
  source : String
  line : Nat
  hidden : List (String × Option Variable) := []
  isFunction : Bool
  parameters : List String
deriving Inhabited

/-! ## Open files -/

/-- What a stream is connected to. -/
inductive Target where
  | nothing
  | zeros
  | full
  | file (place : Location)
  | directory (place : Location)
  | buffer (index : Nat)
deriving DecidableEq, Repr, Inhabited

/-- An open file: where reading or writing goes on, and what it was opened for. -/
structure OpenFile where
  target : Target
  offset : Nat := 0
  extend : Bool := false
  readable : Bool := true
  writable : Bool := true
deriving Inhabited

/-- Text on its way from a writer to a reader.  `pending` holds what was written since the
last reading, last part first, each part with the moment it was written at. -/
structure Buffer where
  unread : List Char := []
  pending : List (Nat × String) := []
  size : Nat := 0
  limit : Option Nat := none
deriving Inhabited

namespace Buffer

/-- The pending text in the order of its moments. -/
def pendingText (b : Buffer) : String :=
  let parts := b.pending.reverse
  let ordered := if parts.zip parts.tail |>.all fun p => p.1.1 ≤ p.2.1 then parts
    else parts.mergeSort fun a b => a.1 ≤ b.1
  String.join (ordered.map Prod.snd)

/-- Everything that is left to be read. -/
def content (b : Buffer) : List Char :=
  if b.pending.isEmpty then b.unread
  else if b.unread.isEmpty then b.pendingText.toList
  else b.unread ++ b.pendingText.toList

end Buffer

/-! ## Shells -/

/-- What a shell keeps for itself. -/
structure Process where
  dialect : Dialect := .bash
  name : String := "bash"
  label : String := "bash"
  number : Nat
  main : Nat
  parent : Nat
  bindings : List (String × Variable) := []
  frames : List Frame := []
  functions : List (String × Command) := []
  homes : List (String × String × Nat) := []
  aliases : List (String × String) := []
  parameters : List String := []
  options : List String := []
  switches : List String := []
  traps : List (String × String) := []
  streams : List (Nat × Nat) := []
  status : Nat := 0
  pipeStatus : List Nat := [0]
  lastJob : Option Nat := none
  lastArgument : String := ""
  line : Nat := 0
  loops : Nat := 0
  tolerant : Bool := false
  place : Location
  here : String
  stack : List String := []
  mask : Nat := 18
  optionOffset : Nat := 0
  running : Command := .sequence []
  substituted : Option Nat := none
  inTrap : List String := []
  isSubshell : Bool := false
  depth : Nat := 0
  openDocuments : List Nat := []
  random : Nat := 1
  helpers : List (Nat × Option Command) := []
  traceDepth : Nat := 1
  hashed : List (String × String × Nat) := []
  command : String := ""
  lineShift : Int := 0
deriving Inhabited

/-- What became of a job: it waits to be run, or it ended with a status. -/
inductive JobState where
  | waiting
  | ended (status : Nat)
deriving DecidableEq, Repr, Inhabited

def JobState.isWaiting : JobState → Bool
  | .waiting => true
  | .ended _ => false

/-- A command in the background. -/
structure Job where
  number : Nat
  owner : Nat
  process : Process
  body : Command
  state : JobState
  start : Nat
  finish : Nat
  collected : Bool
deriving Inhabited

/-- What all shells share. -/
structure World where
  files : FileSystem
  modes : List (Location × Nat) := []
  times : List (Location × Int) := []
  opened : Array OpenFile := #[]
  buffers : Array Buffer := #[]
  jobs : List Job := []
  signals : List (Nat × Nat) := []
  nextNumber : Nat := 4300
  clock : Nat := 1000000
  deadline : Option Nat := none

structure Session where
  process : Process
  world : World

/-- Why commands end before their end is reached. -/
inductive Stop where
  | exit (status : Nat)
  | killed (signal : Nat)
  | leaveLoop (levels : Nat)
  | nextRound (levels : Nat)
  | leaveCall (status : Nat)
  | abandon
  | deadline
deriving DecidableEq, Repr, Inhabited

/-- What a shell does. -/
abbrev Act (α : Type) := ExceptT Stop (StateM Session) α

namespace Act

def process : Act Process := do
  return (← get).process

def update (f : Process → Process) : Act Unit :=
  modify fun s => { s with process := f s.process }

def world : Act World := do
  return (← get).world

def updateWorld (f : World → World) : Act Unit :=
  modify fun s => { s with world := f s.world }

def setStatus (n : Nat) : Act Unit :=
  update fun p => { p with status := n }

def status : Act Nat := do
  return (← process).status

/-- Whether the shell speaks the large language. -/
def isBash : Act Bool := do
  return (← process).dialect == .bash

def hasOption (name : String) : Act Bool := do
  return (← process).options.contains name

def hasSwitch (name : String) : Act Bool := do
  return (← process).switches.contains name

/-- The files as the shell sees them. -/
def files : Act FileSystem := do
  let s ← get
  return { s.world.files with workDir := s.process.place }

def setFiles (fs : FileSystem) : Act Unit :=
  updateWorld fun w => { w with files := fs }

/-- The permissions of what stands at a place. -/
def modeOf (l : Location) (n : Node) : Act Nat := do
  match (← world).modes.lookup l with
  | some m => return m
  | none => return match n with
    | .directory => if l = ["tmp"] then 1023 else if l = ["root"] then 448 else 493
    | .file _ => if l.drop 1 = ["bin", "usr"] then 493 else if l.drop 1 = ["dev"] then 438 else 420
    | .link _ => 511

def setMode (l : Location) (mode : Nat) : Act Unit :=
  updateWorld fun w => { w with modes := (l, mode) :: w.modes.filter fun e => e.1 != l }

/-- When a place was last written to, in millionths of a second. -/
def timeOf (l : Location) : Act Int := do
  return ((← world).times.lookup l).getD 0

/-- Sets the time when a place was last written to. -/
def setTime (l : Location) (time : Int) : Act Unit :=
  updateWorld fun w => { w with times := (l, time) :: w.times.filter fun e => e.1 != l }

/-- Puts a node at a place, over what is there. -/
def putNode (l : Location) (n : Node) : Act Unit := do
  let w ← world
  let isNew := (w.files.node? l).isNone
  setFiles (w.files.put l n)
  setTime l w.clock
  if isNew then
    let mask := (← process).mask
    match n with
    | .directory => if mask ≠ 18 then setMode l (511 - (511 &&& mask))
    | .file _ => if mask ≠ 18 then setMode l (438 - (438 &&& mask))
    | .link _ => pure ()

/-- Takes away a node and all that is below it. -/
def dropNode (l : Location) : Act Unit :=
  updateWorld fun w =>
    { w with
      files := w.files.eraseTree l
      modes := w.modes.filter fun e => !l.isSuffixOf e.1
      times := w.times.filter fun e => !l.isSuffixOf e.1 }

/-- Runs a part and tells how it came out, whether or not it ended early. -/
def attempt {α : Type} (part : Act α) : Act (Except Stop α) := fun s =>
  match part s with
  | (.ok a, s) => (.ok (.ok a), s)
  | (.error e, s) => (.ok (.error e), s)

/-- Runs a part and then another, even if the first ended early. -/
def ensuring {α : Type} (part : Act α) (after : Act Unit) : Act α := do
  let result ← attempt part
  after
  match result with
  | .ok a => return a
  | .error e => throw e

/-- Runs a part and then undoes what was done for it.  The large language leaves things as
they are when the whole shell ends, so what is set for its end still sees them. -/
def undoing {α : Type} (part : Act α) (undo : Act Unit) : Act α := do
  let result ← attempt part
  match result with
  | .ok a =>
    undo
    return a
  | .error e =>
    let endsShell := match e with
      | .exit _ | .killed _ | .deadline => true
      | _ => false
    if !(endsShell && (← isBash)) then undo
    throw e

/-- Lets time pass, in millionths of a second; what may not last longer ends. -/
def pass (time : Nat) : Act Unit := do
  let w ← world
  let later := w.clock + time
  match w.deadline with
  | some limit =>
    if limit < later then
      updateWorld fun w => { w with clock := max w.clock limit }
      throw .deadline
    else updateWorld fun w => { w with clock := later }
  | none => updateWorld fun w => { w with clock := later }

def freshNumber : Act Nat := do
  let w ← world
  updateWorld fun w => { w with nextNumber := w.nextNumber + 1 }
  return w.nextNumber

end Act

def pathOf (s : String) : Path := ⟨Octets.toText s⟩

/-- The path of a place from the root, as octets. -/
def placeText (l : Location) : String :=
  "/" ++ "/".intercalate (l.reverse.map Octets.ofText)

end SpeechConfig.Shell
