/-
# Calls

Calling functions, running texts and the files of other scripts in the present shell, and
giving the shell up for a program.
-/
import SpeechConfig.Shell.Builtin.Jobs
import SpeechConfig.Shell.Launch

namespace SpeechConfig.Shell

/-! ## Functions -/

/-- The name under which reports speak of the text that is being read. -/
def presentHome : Act String := do
  let p ← Act.process
  match p.frames with
  | f :: _ => return f.source
  | [] => return if p.options.contains "command" then "environment" else p.label

def defineFunction (line : Nat) (name : String) (body : Command) : Act Unit := do
  let home ← presentHome
  Act.update fun p =>
    { p with
      functions := (name, body) :: p.functions.filter fun f => f.1 != name
      homes := (name, home, line) :: p.homes.filter fun f => f.1 != name
      status := 0 }

/-- Whether what is set for an event holds inside calls as well. -/
def holdsInCalls (options : List String) (event : String) : Bool :=
  match event with
  | "ERR" => options.contains "errtrace"
  | "DEBUG" | "RETURN" => options.contains "functrace"
  | _ => true

/-- Runs a part inside a call, and brings back what the call hides. -/
def withFrame (x : Executor) (frame : Frame) (label : String) (part : Act Unit) : Act Nat := do
  let outer ← Act.process
  let apart := outer.traps.filter fun t => !holdsInCalls outer.options t.1
  Act.update fun p =>
    { p with
      frames := frame :: p.frames
      traps := p.traps.filter fun t => holdsInCalls p.options t.1
      label := label
      loops := 0
      lineShift := 0 }
  let body : Act Unit := do
    match ← Act.attempt part with
    | .ok () => pure ()
    | .error (.leaveCall n) => Act.setStatus n
    | .error e => throw e
    runTrapFor x "RETURN"
  Act.undoing body do
    let p ← Act.process
    match p.frames with
    | [] => pure ()
    | f :: rest =>
      for (name, old) in f.hidden do
        Act.restore name old
      Act.update fun p =>
        { p with
          frames := rest
          label := outer.label
          loops := outer.loops
          lineShift := outer.lineShift
          line := outer.line
          traps := p.traps ++ apart.filter fun t => !(p.traps.any fun u => u.1 == t.1) }
  Act.status

def callFunction (x : Executor) (name : String) (body : Command) (args : List String) : Act Nat := do
  let outer ← Act.process
  let isBash ← Act.isBash
  let (home, line) := if isBash then (outer.homes.lookup name).getD (outer.label, outer.line)
    else (outer.label, outer.line)
  let frame : Frame :=
    { name := name, source := home, line := outer.line, isFunction := true, parameters := outer.parameters }
  Act.update fun p => { p with parameters := args, line := line }
  Act.undoing (withFrame x frame home (x.run body))
    (Act.update fun p => { p with parameters := outer.parameters })

/-! ## Texts and files -/

def runEval (x : Executor) (name : String) (args : List String) : Act Nat := do
  let p ← Act.process
  let args := match args with
    | "--" :: rest => rest
    | args => args
  let text := " ".intercalate args
  if text.isEmpty then return 0
  else if p.dialect = .bash then
    if (args.headD "").startsWith "-" && (args.headD "").length > 1 && args.length == 1 then
      blame name (takeText 2 (args.headD "") ++ ": invalid option")
      showUsage name
    else
      Act.setStatus 0
      x.text name p.line text
      Act.status
  else
    Act.update fun p => { p with command := name }
    Act.setStatus 0
    Act.undoing (x.text name 1 text)
      (Act.update fun q => { q with command := p.command, line := p.line })
    Act.status

/-- The file that is meant by the name of a script to be run here. -/
def sourcePath? (name : String) : Act (Option String) := do
  if name.toList.contains '/' then return some name
  else
    let places := splitAll ':' (← Act.textOr "PATH" usualSearchPath)
    let paths := places.map fun place => (if place.isEmpty then "." else place) ++ "/" ++ name
    let found ← paths.findM? fun path => do
      match ← nodeAt? true path with
      | some (_, .file _) => return true
      | _ => return false
    match found with
    | some path => return some path
    | none => return if ← Act.isBash then some name else none

/-- Runs the commands of a file in the present shell. -/
def runSource (x : Executor) (command : String) (args : List String) : Act Nat := do
  let isBash ← Act.isBash
  let args := match args with
    | "--" :: rest => rest
    | args => args
  match args with
  | [] =>
    if isBash then
      blame command "filename argument required"
      showUsage command
    else return 0
  | name :: more =>
    if isBash && name.startsWith "-" && name != "-" then
      blame command (takeText 2 name ++ ": invalid option")
      showUsage command
    else match ← sourcePath? name with
    | none =>
      blame command (name ++ ": not found")
      throw (.exit 2)
    | some path =>
      match ← readSource path with
      | .error fault =>
        if isBash then
          match fault with
          | .isDirectory => blame command (name ++ ": is a directory")
          | _ => Act.complain (name ++ ": " ++ fault.reason)
          return 1
        else
          blame command ("cannot open " ++ name ++ ": " ++
            (if fault matches .files .notFound then "No such file" else fault.reason))
          throw (.exit 2)
      | .ok text =>
        if isBash && looksBinary text then
          blame command (name ++ ": cannot execute binary file")
          return 126
        else
          let text := withoutNuls text
          let outer ← Act.process
          let frame : Frame :=
            { name := "source", source := path, line := outer.line, isFunction := false
              parameters := outer.parameters }
          Act.setStatus 0
          if isBash then
            if !more.isEmpty then Act.update fun p => { p with parameters := more }
            Act.update fun p => { p with traceDepth := p.traceDepth + 1 }
            Act.undoing (withFrame x frame path (x.text "" 1 text)) do
              Act.update fun p =>
                { p with
                  traceDepth := outer.traceDepth
                  parameters := if more.isEmpty then p.parameters else outer.parameters }
          else
            Act.update fun p => { p with command := name }
            Act.undoing (withFrame x frame outer.label (x.text "" 1 text))
              (Act.update fun p => { p with command := outer.command, line := outer.line })
where
  /-- The text of a script. -/
  readSource (path : String) : Act (Except StreamFault String) := do
    match ← Act.openToRead path with
    | .error e => return .error e
    | .ok i =>
      match (← Act.world).opened[i]? with
      | none => return .error .notOpen
      | some f => Act.restOf f

/-! ## Programs in the place of the shell -/

def runExec (x : Executor) (command : String) (args : List String) : Act Nat := do
  let isBash ← Act.isBash
  withFlags command (if isBash then "cl" else "") (if isBash then "a" else "") args fun f => do
    match f.operands with
    | [] => return 0
    | name :: more =>
      let refuse (lines : List String) (status : Nat) : Act Nat := do
        for line in lines do
          if isBash then Act.complain line else Act.complainOf command line
        if isBash && (← Act.hasSwitch "execfail") then return status
        else throw (.exit status)
      let shown := if needsDollarQuotes name then dollarQuoted name else name
      match ← programPath? name with
      | none =>
        if name.toList.contains '/' then
          let (message, status) ← startFault name
          if isBash then
            refuse (if status = 127 then [name ++ ": " ++ message]
              else [name ++ ": " ++ message, "exec: " ++ shown ++ ": cannot execute: " ++ message]) status
          else refuse [name ++ ": " ++ (if status = 127 then "not found" else "Permission denied")] status
        else if isBash then refuse ["exec: " ++ shown ++ ": not found"] 127
        else refuse [name ++ ": not found"] 127
      | some path =>
        if f.has 'c' then
          Act.update fun p =>
            { p with bindings := p.bindings.map fun e => (e.1, { e.2 with exported := false }) }
        Act.update fun p => { p with traps := p.traps.filter fun t => t.2.isEmpty }
        let argv := (f.value? 'a').getD name :: more
        match ← Act.attempt (runProgramAt x (fun message => Act.complain (name ++ ": " ++ message)) 5 path argv) with
        | .ok status =>
          Act.update fun p => { p with traps := p.traps.filter fun t => t.2.isEmpty }
          throw (.exit status)
        | .error (.killed n) => throw (.killed n)
        | .error stop =>
          let status := statusOf stop (← Act.status)
          Act.update fun p => { p with traps := p.traps.filter fun t => t.2.isEmpty }
          throw (.exit status)

end SpeechConfig.Shell
