/-
# Compound commands

Pipelines, lists, loops, choices and commands in the background.
-/
import SpeechConfig.Shell.Simple

namespace SpeechConfig.Shell

/-! ## Failure -/

/-- Carries out what is set for a command that failed where nobody asks for its status. -/
def checkFailure (x : Executor) : Act Unit := do
  let p ← Act.process
  if p.status ≠ 0 && !p.tolerant then
    if p.dialect = .bash then runTrapFor x "ERR"
    if p.options.contains "errexit" then throw (.exit p.status)

/-- Runs a part whose failure is taken as an answer. -/
def asAnswer {α : Type} (part : Act α) : Act α := do
  let before := (← Act.process).tolerant
  Act.update fun p => { p with tolerant := true }
  Act.ensuring part (Act.update fun p => { p with tolerant := before })

/-! ## Pipelines -/

/-- How much a writer may have written before its reader is asked whether it wants more. -/
def pipeLimits : List Nat := [131072, 4194304, 67108864]

/-- Runs a part in a process of its own where traps for failures hold only if asked for. -/
def stageApart (x : Executor) (part : Act Unit) : Act Nat := do
  let p ← Act.process
  let failing := if p.options.contains "errtrace" then p.traps.filter fun t => t.1 == "ERR" else []
  let debugging := if p.options.contains "functrace" then p.traps.filter fun t => t.1 == "DEBUG" else []
  apart x do
    Act.update fun p => { p with traps := failing ++ debugging ++ p.traps }
    part

/-- Runs the stages of a pipeline one after another, each reading what the one before it
wrote.  The second part of the result says that a writer was stopped though its reader
had read everything and was not stopped itself, and the third that the first stage was
stopped. -/
def runStages (x : Executor) (limit : Nat) :
    Option (Nat × Nat) → List Command → Act (List Nat × Bool × Bool)
  | _, [] => return ([], false, false)
  | input, [last] => do
    let connected : Act Unit := do
      if let some (_, opened) := input then Act.connect 0 opened
      x.run last
    let status ← do
      if (← Act.isBash) && (← Act.hasSwitch "lastpipe") then
        let before := (← Act.process).streams
        Act.undoing connected (Act.update fun p => { p with streams := before })
        Act.status
      else stageApart x connected
    return ([status], false, false)
  | input, c :: rest => do
    let buffer ← Act.newBuffer { limit := some limit }
    let opened ← Act.register { target := .buffer buffer }
    let status ← stageApart x do
      if let some (_, opened) := input then Act.connect 0 opened
      Act.connect 1 opened
      x.run c
    x.settle (.holding buffer)
    let stopped := status = 141 && ((← Act.world).buffers[buffer]?.map Buffer.size).any fun n => limit < n
    let (statuses, starved, readerStopped) ← runStages x limit (some (buffer, opened)) rest
    let left := (← Act.bufferText buffer).length
    Act.updateBuffer buffer fun _ => {}
    let status := if left > pipeRoom && status = 0 then 141 else status
    return (status :: statuses, starved || (stopped && left = 0 && !readerStopped), stopped)

/-- Runs the stages of a pipeline with ever larger limits, until no reader is left with too
little. -/
def runStagesWithin (x : Executor) (stages : List Command) : List Nat → Act (List Nat)
  | [] => return []
  | [limit] => return (← runStages x limit none stages).1
  | limit :: more => do
    let before ← get
    let (statuses, starved, _) ← runStages x limit none stages
    if starved then
      set before
      runStagesWithin x stages more
    else return statuses

def runPipeline (x : Executor) (negated timed : Bool) (stages : List Command) : Act Unit := do
  let part : Act Unit := do
    match stages with
    | [] => conclude 0
    | [c] => if negated then asAnswer (x.run c) else x.run c
    | stages =>
      let helpers := (← Act.process).helpers
      let statuses ← runStagesWithin x stages pipeLimits
      let last := statuses.getLast?.getD 0
      let status := if ← Act.hasOption "pipefail" then (statuses.reverse.find? (· ≠ 0)).getD 0 else last
      Act.update fun p => { p with status := status, pipeStatus := statuses }
      finishHelpers x helpers
  part
  if timed then
    Act.put 2 (if (← Act.isBash) then "\nreal\t0m0.001s\nuser\t0m0.000s\nsys\t0m0.000s\n"
      else "real 0.00\nuser 0.00\nsys 0.00\n")
  if negated then
    Act.update fun p => { p with status := if p.status = 0 then 1 else 0 }
  else if stages.length ≠ 1 then checkFailure x

/-! ## The background -/

/-- Starts a command in the background; it is run when somebody waits for it. -/
def startJob (x : Executor) (body : Command) : Act Unit := do
  let _ := x
  let number ← Act.freshNumber
  let p ← Act.process
  let w ← Act.world
  let nothing ← Act.register { target := .nothing }
  let mine := w.jobs.filter fun j => j.owner == p.number && !j.collected
  let job : Job :=
    { number := (mine.map Job.number).foldl max 0 + 1
      owner := p.number
      process :=
        { p with
          number := number
          parent := p.number
          traps := p.traps.filter fun t => t.2.isEmpty
          streams := (0, nothing) :: p.streams.filter fun e => e.1 != 0
          isSubshell := true
          tolerant := false
          depth := p.depth + 1
          loops := 0
          helpers := [] }
      body := body
      state := .waiting
      start := w.clock + 500
      finish := w.clock + 500
      collected := false }
  Act.updateWorld fun w => { w with jobs := w.jobs ++ [job] }
  Act.update fun p => { p with lastJob := some number, status := 0 }

/-- Runs a command that waits in the background.  It must be over by a deadline, if there
is one; false if it would not be. -/
def runJob (x : Executor) (j : Job) (deadline : Option Nat) : Act Bool := do
  let outer ← Act.process
  let w ← Act.world
  let limit := match deadline, w.deadline with
    | some a, some b => some (min a b)
    | a, b => a.or b
  Act.updateWorld fun v => { v with clock := j.start, deadline := limit }
  Act.update fun _ => j.process
  let stop ← toTheEnd x (x.run j.body)
  let inner ← Act.process
  let finish := (← Act.world).clock
  let status := match stop with
    | some (.killed n) => 128 + n
    | some (.exit n) => n
    | some .deadline => 143
    | _ => inner.status
  Act.update fun _ => outer
  Act.updateWorld fun v =>
    { v with
      clock := w.clock
      deadline := w.deadline
      jobs := v.jobs.map fun k =>
        if k.process.number = j.process.number then { k with state := .ended (status % 256), finish := finish } else k }
  return stop != some .deadline

/-- Whether a process has a stream that leads to a buffer. -/
def holdsBuffer (w : World) (p : Process) (buffer : Nat) : Bool :=
  p.streams.any fun e => match w.opened[e.2]?.map OpenFile.target with
    | some (.buffer b) => b == buffer
    | _ => false

/-- Runs commands that wait in the background, as many as may be started meanwhile. -/
def settleJobs (x : Executor) (which : Settling) : Nat → Act Unit
  | 0 => return ()
  | n + 1 => do
    let w ← Act.world
    let waiting := w.jobs.filter fun j => match j.state with
      | .waiting => (match which with
        | .all | .due => true
        | .holding buffer => holdsBuffer w j.process buffer
        | .these numbers => numbers.contains j.process.number)
      | .ended _ => false
    if which = .due then
      for j in waiting do
        let before ← get
        if !(← runJob x j (some w.clock)) then set before
    else
      match waiting with
      | [] => return ()
      | j :: _ =>
        let _ ← runJob x j none
        settleJobs x which n

/-! ## Loops -/

/-- The most rounds of a loop. -/
def roundLimit : Nat := 100000000

/-- What a loop does after a part of it. -/
inductive LoopStep where
  | goOn
  | stop
deriving DecidableEq

def inLoop (part : Act Unit) : Act LoopStep := do
  match ← Act.attempt part with
  | .ok () => return .goOn
  | .error (.leaveLoop n) =>
    Act.setStatus 0
    if n ≤ 1 then return .stop else throw (.leaveLoop (n - 1))
  | .error (.nextRound n) =>
    Act.setStatus 0
    if n ≤ 1 then return .goOn else throw (.nextRound (n - 1))
  | .error e => throw e

/-- Runs a loop as one that can be left. -/
def asLoop (part : Act Unit) : Act Unit := do
  Act.update fun p => { p with loops := p.loops + 1 }
  Act.ensuring part (Act.update fun p => { p with loops := p.loops - 1 })

/-- Runs a body as long as a test says so. -/
def runRepeated (x : Executor) (stopWhen : Bool) (test body : Command) : Nat → Nat → Act Unit
  | 0, status => Act.setStatus status
  | n + 1, status => do
    match ← Act.attempt (asAnswer (x.run test)) with
    | .error (.leaveLoop k) =>
      Act.setStatus 0
      if k > 1 then throw (.leaveLoop (k - 1))
    | .error (.nextRound k) =>
      if k > 1 then throw (.nextRound (k - 1)) else runRepeated x stopWhen test body n 0
    | .error e => throw e
    | .ok () =>
      if ((← Act.status) == 0) == stopWhen then Act.setStatus status
      else
        match ← inLoop (x.run body) with
        | .stop => pure ()
        | .goOn => runRepeated x stopWhen test body n (← Act.status)

/-- Runs a body for each of some words; the header is what the trace shows of every round. -/
def runEach (x : Executor) (line : Nat) (c : Command) (name : String) (header : Option String) (body : Command) :
    List String → Act Unit
  | [] => return ()
  | w :: rest => do
    enterLine line
    announce x c
    if let some header := header then trace x (return header)
    if !(← assignOne name none false w) then
      Act.complain (← Act.readonlyMessage name)
      if ← Act.isBash then Act.setStatus 1 else throw (.exit 2)
    else
      match ← inLoop (x.run body) with
      | .stop => pure ()
      | .goOn => runEach x line c name header body rest

def loopWords (x : Executor) (words : Option (List Word)) : Act (List String) := do
  match words with
  | some ws => fieldsOfWords x ws
  | none => return (← Act.process).parameters

/-- Whether a loop may count with a name; if not, that is reported. -/
def acceptsLoopName (name : String) : Act Bool := do
  if isName name then return true
  else
    Act.fail 1 ("\x60" ++ name ++ "': not a valid identifier")
    return false

def runFor (x : Executor) (c : Command) (line : Nat) (name : String) (words : Option (List Word)) (body : Command) :
    Act Unit := do
  enterLine line
  if ← acceptsLoopName name then
    Act.update fun p => { p with substituted := none }
    let list ← loopWords x words
    Act.setStatus 0
    let header := "for " ++ name ++ " in " ++ (match words with
      | some ws => " ".intercalate (ws.map Word.source)
      | none => "\"$@\"")
    asLoop (runEach x line c name (if ← Act.isBash then some header else none) body list)

/-- The numbered words of a menu, in columns where they fit. -/
def menuText (words : List String) : String :=
  let count := words.length
  let digits := (Nat.repr count).length
  let widest := (words.map String.length).foldl max 0 + digits + 2
  let columns := max 1 (min count (80 / (widest + 2)))
  let columns := if count ≤ 1 || widest = 0 then 1 else columns
  let rows := (count + columns - 1) / columns
  let rows := if rows = 1 then count else rows
  let entry (i : Nat) : String := padded digits false (Nat.repr (i + 1)) ++ ") " ++ words.getD i ""
  String.join ((List.range rows).map fun row =>
    let places := (List.range columns).map (fun column => row + column * rows) |>.filter (· < count)
    let cells := places.map entry
    let padded := (cells.dropLast.map fun cell => padded (widest + 2) true cell) ++ cells.getLast?.toList
    String.join padded ++ "\n")

/-- Lets the reader of a menu choose, again and again. -/
def runMenuRounds (x : Executor) (name : String) (words : List String) (body : Command) :
    Nat → Bool → Act Unit
  | 0, _ => return ()
  | n + 1, showsMenu => do
    if showsMenu then Act.put 2 (menuText words)
    Act.put 2 ((← Act.textOf "PS3").getD "#? ")
    match ← Act.readUntil 0 '\n' none with
    | .ok (some (line, true)) =>
      Act.setText "REPLY" line
      if line.isEmpty then runMenuRounds x name words body n true
      else
        let chosen := match numberIn? 10 ((line.toList.dropWhile isBlank).reverse.dropWhile isBlank).reverse with
          | some 0 => ""
          | some k => words.getD (k - 1) ""
          | none => ""
        Act.setText name chosen
        match ← inLoop (x.run body) with
        | .stop => pure ()
        | .goOn => runMenuRounds x name words body n false
    | _ =>
      Act.put 1 "\n"
      Act.setStatus 1

def runMenu (x : Executor) (line : Nat) (name : String) (words : Option (List Word)) (body : Command) : Act Unit := do
  enterLine line
  if ← acceptsLoopName name then
    let list ← loopWords x words
    Act.setStatus 0
    if !list.isEmpty then asLoop (runMenuRounds x name list body roundLimit true)

/-- Works out one of the expressions of a counted loop; none if it has a fault. -/
def loopExpression (x : Executor) (expression : List Piece) (usual : Int) : Act (Option Int) := do
  let text ← textOfPieces x true expression
  if text.toList.all isSpace then return some usual
  else
    trace x (return "(( " ++ String.ofList (text.toList.dropWhile isSpace) ++ " ))")
    match ← (calculate text).run with
    | .ok n => return some n
    | .error e =>
      Act.fail 1 ("((: " ++ e.message)
      return none

def runCountedRounds (x : Executor) (line : Nat) (test next : List Piece) (body : Command) : Nat → Nat → Act Unit
  | 0, _ => return ()
  | n + 1, status => do
    enterLine line
    match ← loopExpression x test 1 with
    | none => pure ()
    | some 0 => Act.setStatus status
    | some _ =>
      match ← inLoop (x.run body) with
      | .stop => pure ()
      | .goOn =>
        let status ← Act.status
        enterLine line
        match ← loopExpression x next 1 with
        | none => pure ()
        | some _ => runCountedRounds x line test next body n status

/-! ## Choices -/

/-- Whether a pattern of a branch matches a text. -/
def matchesBranch (x : Executor) (subject : List Char) : List Word → Act Bool
  | [] => return false
  | w :: rest => do
    let g := Glob.ofMarks (← globStyle) (← marksOfWord x w)
    if Glob.accepts g subject then return true else matchesBranch x subject rest

/-- Runs the branches that a text chooses; `falls` says that the next one is run whatever
its patterns. -/
def runBranches (x : Executor) (subject : List Char) : Bool → List Branch → Act Unit
  | _, [] => return ()
  | falls, .mk patterns body ending :: rest => do
    let chosen ← if falls then pure true else matchesBranch x subject patterns
    if !chosen then runBranches x subject false rest
    else
      Act.setStatus 0
      x.run body
      match ending with
      | .stop => pure ()
      | .fallThrough => runBranches x subject true rest
      | .goOn => runBranches x subject false rest

/-! ## All commands -/

/-- Runs a command with the executor of the next depth. -/
def runCommand (x : Executor) (c : Command) : Act Unit := do
  match c with
  | .simple line assignments words redirects =>
    runSimple x c line assignments words redirects
    checkFailure x
  | .pipeline negated timed stages => runPipeline x negated timed stages
  | .both first second =>
    asAnswer (x.run first)
    if (← Act.status) = 0 then x.run second
  | .either first second =>
    asAnswer (x.run first)
    if (← Act.status) ≠ 0 then x.run second
  | .sequence commands =>
    for command in commands do
      x.run command
  | .background body => startJob x body
  | .redirected line body redirects =>
    if !(← Act.isBash) then enterLine line
    let helpers := (← Act.process).helpers
    match ← withRedirections x redirects (x.run body) with
    | some () => finishHelpers x helpers
    | none =>
      finishHelpers x helpers
      Act.setStatus (if ← Act.isBash then 1 else 2)
      checkFailure x
  | .subshell line body =>
    if !(← Act.isBash) then enterLine line
    conclude (← stageApart x (x.run body))
    receiveAll x
    checkFailure x
  | .group body => x.run body
  | .choose test whenTrue whenFalse =>
    asAnswer (x.run test)
    if (← Act.status) = 0 then x.run whenTrue
    else
      match whenFalse with
      | some body => x.run body
      | none => Act.setStatus 0
  | .repeated stopWhen test body => asLoop (runRepeated x stopWhen test body roundLimit 0)
  | .forEach line name words body => runFor x c line name words body
  | .menu line name words body => runMenu x line name words body
  | .counted line start test next body =>
    enterLine line
    match ← loopExpression x start 1 with
    | none => pure ()
    | some _ =>
      Act.setStatus 0
      asLoop (runCountedRounds x line test next body roundLimit 0)
    if (← Act.status) ≠ 0 then checkFailure x
  | .branches line subject list =>
    enterLine line
    announce x c
    let text ← textOfWord x subject
    if ← Act.isBash then trace x (return "case " ++ subject.source ++ " in")
    Act.update fun p => { p with substituted := none }
    Act.setStatus 0
    runBranches x text.toList false list
  | .arithmetic line source expression =>
    enterLine line
    announce x c
    let text ← textOfPieces x true expression
    trace x (return "(( " ++ (if text.isEmpty then source else text) ++ " ))")
    if text.toList.all isSpace then conclude 1
    else match ← (calculate text).run with
      | .ok n => conclude (if n = 0 then 1 else 0)
      | .error e =>
        Act.complain ("((: " ++ e.message)
        conclude 1
    checkFailure x
  | .conditional line condition =>
    enterLine line
    announce x c
    let helpers := (← Act.process).helpers
    conclude (← conditionStatus x (fun s => trace x (return "[[ " ++ s ++ " ]]")) condition)
    finishHelpers x helpers
    checkFailure x
  | .define line name body =>
    defineFunction line name body

end SpeechConfig.Shell
