/-
# Signals and jobs

What is set for signals, sending them, and waiting for commands in the background.
-/
import SpeechConfig.Shell.Builtin.Flow
import SpeechConfig.Shell.Signal
import SpeechConfig.Shell.Syntax.Printed

namespace SpeechConfig.Shell

/-! ## Traps -/

/-- The names of what traps can be set for and what is no signal. -/
def trapEvents : List String := ["EXIT", "DEBUG", "ERR", "RETURN"]

def trapName? (isBash : Bool) (s : String) : Option String :=
  if s = "0" then some "EXIT"
  else
    let name := uppered s
    let short := if name.startsWith "SIG" then dropText 3 name else name
    if short = "EXIT" || (isBash && trapEvents.contains short) then some short
    else (signalOf? s).bind signalName?

/-- The place of a trap in a list of traps. -/
def trapRank (name : String) : Nat :=
  if name = "EXIT" then 0
  else if name = "DEBUG" then 65
  else if name = "ERR" then 66
  else if name = "RETURN" then 67
  else (signalNamed? name).getD 64

/-- The lines that would set traps again. -/
def shownTraps (names : List String) : Act String := do
  let p ← Act.process
  let isBash ← Act.isBash
  let chosen := if names.isEmpty then p.traps else p.traps.filter fun t => names.contains t.1
  let sorted := chosen.mergeSort fun a b => trapRank a.1 ≤ trapRank b.1
  return String.join (sorted.map fun (name, action) =>
    "trap -- " ++ singleQuoted action ++ " " ++
      (if isBash && !trapEvents.contains name then "SIG" ++ name else name) ++ "\n")

/-- The list of all signals in five columns. -/
def signalTable : String :=
  let numbers := ((List.range 65).drop 1).filter fun n => (signalName? n).isSome
  let cells := numbers.map fun n => padded 2 false (Nat.repr n) ++ ") SIG" ++ (signalName? n).getD ""
  let rec rows : Nat → List String → String
    | 0, _ => ""
    | n + 1, cells =>
      if cells.isEmpty then ""
      else "\t".intercalate (cells.take 5) ++ (if cells.length < 5 then "\t" else "") ++ "\n" ++ rows n (cells.drop 5)
  rows cells.length cells

/-- Sets what is to be done on signals and at other moments. -/
def runTrap (command : String) (args : List String) : Act Nat := do
  let isBash ← Act.isBash
  withFlags command (if isBash then "lp" else "") "" args fun f => do
    if f.has 'l' then emit command signalTable
    else if f.has 'p' || f.operands.isEmpty then
      emit command (← shownTraps (f.operands.filterMap (trapName? isBash)))
    else
      let change (action : Option String) (specs : List String) : Act Nat := do
        let mut status := 0
        for spec in specs do
          match trapName? isBash spec with
          | none =>
            if isBash then blame command (spec ++ ": invalid signal specification")
            else blame command (spec ++ ": bad trap")
            status := 1
          | some name =>
            Act.update fun p =>
              let others := p.traps.filter fun t => t.1 != name
              { p with traps := match action with
                | some a => (name, a) :: others
                | none => others }
        return status
      match f.operands with
      | [] => return 0
      | [only] =>
        if (trapName? isBash only).isSome || only.isEmpty then change none [only]
        else if isBash then showUsage command
        else change none [only]
      | action :: specs =>
        if action = "-" then change none specs
        else if (numberIn? 10 action.toList).isSome && (trapName? isBash action).isSome then
          change none (action :: specs)
        else change (some action) specs

/-- Carries out what is set for an event, if something is set; the status stays. -/
def runTrapFor (x : Executor) (name : String) : Act Unit := do
  let p ← Act.process
  match p.traps.lookup name with
  | none => pure ()
  | some action =>
    if !action.isEmpty && !p.inTrap.contains name then
      Act.update fun p => { p with inTrap := name :: p.inTrap }
      let line := if name = "ERR" || name = "DEBUG" || name = "RETURN" then p.line else 1
      Act.ensuring (x.text (lowered name ++ " trap") line action) do
        Act.update fun q =>
          { q with status := p.status, inTrap := p.inTrap, line := p.line, pipeStatus := p.pipeStatus }

/-! ## Sending signals -/

/-- What a signal does to the shell that gets it. -/
def receive (x : Executor) (signal : Nat) : Act Unit := do
  let p ← Act.process
  let name := (signalName? signal).getD ""
  match p.traps.lookup name with
  | some action =>
    if signal = 9 then throw (.killed 9)
    else if !action.isEmpty && signal ≠ 19 then runTrapFor x name
  | none =>
    match effectOf signal with
    | .ends => throw (.killed signal)
    | _ => pure ()

/-- Takes in the signals that were sent to the shell meanwhile. -/
def receiveAll (x : Executor) : Act Unit := do
  let s ← get
  if !s.world.signals.isEmpty then
    let number := s.process.number
    let mine := s.world.signals.filter fun e => e.1 == number
    if !mine.isEmpty then
      Act.updateWorld fun w => { w with signals := w.signals.filter fun e => e.1 != number }
      for (_, signal) in mine.reverse do
        receive x signal

/-- Sends a signal to a process; false if there is none. -/
def sendSignal (x : Executor) (number signal : Nat) : Act Bool := do
  let s ← get
  if number = s.process.number then
    if signal ≠ 0 then receive x signal
    return true
  else if number = s.process.main || number = s.process.parent then
    if signal ≠ 0 then
      Act.updateWorld fun w => { w with signals := (number, signal) :: w.signals }
    return true
  else match s.world.jobs.find? fun j => j.process.number == number with
    | some j =>
      match j.state with
      | .ended _ => return false
      | .waiting =>
        let ignores := j.process.traps.any fun t =>
          t.2.isEmpty && some t.1 == signalName? signal
        if signal ≠ 0 && effectOf signal == .ends && !ignores then
          Act.updateWorld fun w =>
            { w with jobs := w.jobs.map fun k =>
                if k.process.number = number then { k with state := .ended (128 + signal) } else k }
        return true
    | none => return false

/-- The job that a word such as `%1` names. -/
def jobOf? (s : String) : Act (Option Job) := do
  let p ← Act.process
  let mine := (← Act.world).jobs.filter fun j => j.owner == p.number && !j.collected
  let last := mine.getLast?
  match s.toList with
  | ['%'] | ['%', '%'] | ['%', '+'] => return last
  | ['%', '-'] => return (mine.reverse.drop 1).head?.or last
  | '%' :: cs =>
    match numberIn? 10 cs with
    | some n => return mine.find? fun j => j.number == n
    | none => return mine.find? fun j => (j.body.shown false 0).startsWith (String.ofList cs)
  | _ => return none

def runKill (x : Executor) (command : String) (args : List String) : Act Nat := do
  let isBash ← Act.isBash
  let send (signal : Nat) (targets : List String) : Act Nat := do
    if targets.isEmpty then
      if isBash then showUsage command
      else
        Act.warn "Usage: kill [-s sigspec | -signum | -sigspec] [pid | job]... or\nkill -l [exitstatus]"
        return 2
    else
      let mut done := 0
      for t in targets do
        if t.startsWith "%" then
          match ← jobOf? t with
          | some j => if ← sendSignal x j.process.number signal then done := done + 1
          | none => blame command (t ++ ": no such job")
        else match integerOf? t with
          | none =>
            if isBash then blame command (t ++ ": arguments must be process or job IDs")
            else
              blame command ("Illegal number: " ++ t)
              throw (.exit 2)
          | some n =>
            if ← sendSignal x n.natAbs signal then done := done + 1
            else if isBash then blame command ("(" ++ t ++ ") - No such process")
            else blame command "No such process"
      return if done = targets.length then 0 else if isBash && done > 0 then 0 else 1
  let badSignal (s : String) : Act Nat := do
    if isBash then blamed command (s ++ ": invalid signal specification")
    else
      blame command ("Illegal option " ++ s)
      throw (.exit 2)
  let named (s : String) (targets : List String) : Act Nat := do
    match (if s = "EXIT" || s = "0" then some 0 else signalOf? s) with
    | some n => send n targets
    | none => badSignal s
  let list (names : List String) : Act Nat := do
    if names.isEmpty then
      if isBash then emit command signalTable
      else emit command ("0\n" ++ String.join (((List.range 65).drop 1).filterMap fun n =>
        (signalName? n).map (· ++ "\n")))
    else
      let mut status := 0
      for s in names do
        match numberIn? 10 s.toList with
        | some n =>
          let n := if n > 128 then n - 128 else n
          match signalName? n with
          | some name => let _ ← emit command (name ++ "\n")
          | none =>
            let _ ← badSignal s
            status := 1
        | none =>
          match signalNamed? s with
          | some n => let _ ← emit command (Nat.repr n ++ "\n")
          | none =>
            let _ ← badSignal s
            status := 1
      return status
  match args with
  | [] => send 15 []
  | "-l" :: rest | "-L" :: rest => list rest
  | "-s" :: s :: rest | "-n" :: s :: rest =>
    named s (match rest with
      | "--" :: more => more
      | rest => rest)
  | ["-s"] | ["-n"] =>
    blame command (args.headD "" ++ ": option requires an argument")
    if isBash then return 1 else return 2
  | "--" :: rest => send 15 rest
  | a :: rest =>
    match a.toList with
    | '-' :: c :: cs => named (String.ofList (c :: cs)) (match rest with
      | "--" :: more => more
      | rest => rest)
    | _ => send 15 args

/-! ## Waiting -/

/-- A job that has come to its end, by its number among processes. -/
def jobStatus? (number : Nat) : Act (Option Nat) := do
  return ((← Act.world).jobs.find? fun j => j.process.number == number).bind fun j =>
    match j.state with
    | .ended n => some n
    | .waiting => none

/-- Notes that the shell has seen the end of jobs. -/
def collect (numbers : List Nat) : Act Unit :=
  Act.updateWorld fun w =>
    { w with
      jobs := w.jobs.map fun j => if numbers.contains j.process.number then { j with collected := true } else j
      clock := (w.jobs.filter fun j => numbers.contains j.process.number).foldl
        (fun t j => max t j.finish) w.clock }

def runWait (x : Executor) (command : String) (args : List String) : Act Nat := do
  let isBash ← Act.isBash
  withFlags command (if isBash then "fn" else "") (if isBash then "p" else "") args fun f => do
    let p ← Act.process
    let own := (← Act.world).jobs.filter fun j => j.owner == p.number
    let named ← f.operands.filterMapM fun s => do
      if s.startsWith "%" then return (← jobOf? s).map fun j => j.process.number
      else return numberIn? 10 s.toList
    x.settle (.these (if f.operands.isEmpty then own.map fun j => j.process.number else named))
    let mine := (← Act.world).jobs.filter fun j => j.owner == p.number
    if f.has 'n' then
      let left := mine.filter fun j => !j.collected
      match (left.mergeSort fun a b => a.finish ≤ b.finish).head? with
      | none => return 127
      | some j =>
        collect [j.process.number]
        if let some name := f.value? 'p' then Act.setText name (Nat.repr j.process.number)
        return (← jobStatus? j.process.number).getD 0
    else if f.operands.isEmpty then
      collect (mine.map fun j => j.process.number)
      return 0
    else
      let mut status := 0
      for s in f.operands do
        if s.startsWith "%" then
          match ← jobOf? s with
          | some j =>
            collect [j.process.number]
            status := (← jobStatus? j.process.number).getD 0
          | none =>
            if isBash then blame command (s ++ ": no such job") else blame command ("No such job: " ++ s)
            status := if isBash then 127 else 2
        else match numberIn? 10 s.toList with
          | none =>
            if isBash then blame command ("\x60" ++ s ++ "': not a pid or valid job spec")
            else
              blame command ("Illegal number: " ++ s)
              throw (.exit 2)
            status := 1
          | some n =>
            if mine.any fun j => j.process.number == n then
              collect [n]
              status := (← jobStatus? n).getD 0
            else
              if isBash then blame command ("pid " ++ s ++ " is not a child of this shell")
              status := 127
      return status

def runJobs (command : String) (args : List String) : Act Nat :=
  withFlags command "lnprs" "" args fun f => do
    let p ← Act.process
    let mine := (← Act.world).jobs.filter fun j => j.owner == p.number && !j.collected
    let lastNumber := (mine.getLast?.map Job.number).getD 0
    let formerNumber := ((mine.reverse.drop 1).head?.map Job.number).getD 0
    let lines := mine.filterMap fun j =>
      if (f.has 'r' && !j.state.isWaiting) || (f.has 's') then none
      else if f.has 'p' then some (Nat.repr j.process.number ++ "\n")
      else
        let mark := if j.number = lastNumber then "+" else if j.number = formerNumber then "-" else " "
        let state := match j.state with
          | .waiting => "Running"
          | .ended 0 => "Done"
          | .ended n => if n > 128 then signalReport (n - 128) else "Exit " ++ Nat.repr n
        let pid := if f.has 'l' then Nat.repr j.process.number ++ " " else ""
        some ("[" ++ Nat.repr j.number ++ "]" ++ mark ++ "  " ++ pid ++ padded 24 true state ++
          j.body.shown false 0 ++ (if j.state.isWaiting then " &" else "") ++ "\n")
    let ended := mine.filterMap fun j => if j.state.isWaiting then none else some j.process.number
    let status ← emit command (String.join lines)
    collect ended
    return status

end SpeechConfig.Shell
