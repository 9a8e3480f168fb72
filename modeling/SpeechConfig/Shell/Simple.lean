/-
# Simple commands

A simple command is assignments, words and redirections.  Its words say what is called: a
function, a command of the shell itself, or a program.
-/
import SpeechConfig.Shell.Builtin.Declare
import SpeechConfig.Shell.Builtin.Input
import SpeechConfig.Shell.Builtin.Names
import SpeechConfig.Shell.Builtin.Places
import SpeechConfig.Shell.Call
import SpeechConfig.Shell.Format

namespace SpeechConfig.Shell

/-! ## Commands of the shell -/

def Declared.shown : Declared → String
  | .text s => s
  | .list name _ _ => name

/-- Writes what a command prints, and reports what went wrong in it. -/
def runPrintf (command : String) (args : List String) : Act Nat := do
  let isBash ← Act.isBash
  let now : Int := (← Act.world).clock / 1000000
  let kind : PrinterKind := if isBash then .large else .small
  let go (target : Option String) (words : List String) : Act Nat := do
    match words with
    | [] =>
      if isBash then showUsage command
      else blamed command "usage: printf format [arg ...]" 2
    | format :: rest =>
      let p := printed kind now format rest
      match target with
      | some name =>
        for line in p.reports do
          blame command line
        if !(← assignRead command name p.text) then return 2
        return if p.failed then 1 else 0
      | none =>
        if isBash then
          for line in p.reports do
            blame command line
          let status ← emit command p.text
          return if p.failed then 1 else status
        else
          let status ← emit command p.text
          for line in p.reports do
            blame command line
          return if p.failed then 1 else status
  if isBash then
    match args with
    | "-v" :: name :: "--" :: rest => go (some name) rest
    | "-v" :: name :: rest =>
      if !isName (referenceOf name).1 then blamed command ("\x60" ++ name ++ "': not a valid identifier") 2
      else go (some name) rest
    | ["-v"] => do
      blame command "-v: option requires an argument"
      showUsage command
    | "--" :: rest => go none rest
    | a :: rest =>
      match a.toList with
      | '-' :: 'v' :: c :: cs => go (some (String.ofList (c :: cs))) rest
      | '-' :: c :: _ =>
        blame command ("-" ++ String.singleton c ++ ": invalid option")
        showUsage command
      | _ => go none args
    | [] => showUsage command
  else
    match args with
    | "--" :: rest => go none rest
    | args => go none args

def runEcho (command : String) (args : List String) : Act Nat := do
  if ← Act.isBash then emit command (echoed (← Act.hasSwitch "xpg_echo") args)
  else emit command (smallEchoed args)

/-- Tests words; in single brackets the last word closes them. -/
def runTest (x : Executor) (command : String) (args : List String) : Act Nat := do
  let isBash ← Act.isBash
  if command = "[" && args.getLast? != some "]" then
    blamed command (if isBash then "missing \x60]'" else "missing ]") 2
  else
    let words := if command = "[" then args.dropLast else args
    let tested : TestRead Bool := if isBash then testWords x words else smallTestWords x words
    let result : Act (Except String (Bool × List String)) := (tested.run words).run
    match ← result with
    | .ok (holds, _) => return if holds then 0 else 1
    | .error message => blamed command message 2

/-- The commands of the shell by their names, apart from those that call others. -/
def runBuiltin (x : Executor) (name : String) (words : List Declared) : Act Nat := do
  let args := words.map Declared.shown
  let isBash ← Act.isBash
  match name with
  | ":" | "true" => return 0
  | "false" => return 1
  | "." | "source" => runSource x name args
  | "[" | "test" => runTest x name args
  | "alias" => runAlias name args
  | "unalias" => runUnalias name args
  | "break" => runLoopExit name .leaveLoop args
  | "continue" => runLoopExit name .nextRound args
  | "caller" => runCaller name args
  | "cd" | "chdir" => runCd name args
  | "declare" | "typeset" => runDeclare x name words
  | "local" | "export" | "readonly" =>
    if isBash then runDeclare x name words else runSmallDeclare name args
  | "dirs" => runDirs name args
  | "pushd" => runPushd name args
  | "popd" => runPopd name args
  | "echo" => runEcho name args
  | "enable" => runEnable name args
  | "eval" => runEval x name args
  | "exec" => runExec x name args
  | "exit" | "logout" => runExit name args
  | "getopts" => runGetopts name args
  | "hash" => runHash name args
  | "jobs" => runJobs name args
  | "kill" => runKill x name args
  | "let" => runLet name args
  | "mapfile" | "readarray" => runMapfile x name args
  | "printf" => runPrintf name args
  | "pwd" => runPwd name args
  | "read" => runRead name args
  | "return" => runReturn name args
  | "set" => runSet name args
  | "shift" => runShift name args
  | "shopt" => runShopt name args
  | "times" => runTimes name
  | "trap" => runTrap name args
  | "type" => runType name args
  | "ulimit" => runUlimit name args
  | "umask" => runUmask name args
  | "unset" => runUnset x name args
  | "wait" => runWait x name args
  | "bg" | "fg" => if isBash then blamed name "no job control" else blamed name "No current job" 2
  | "disown" =>
    match args with
    | [] =>
      let p ← Act.process
      if (← Act.world).jobs.any fun j => j.owner == p.number && !j.collected then return 0
      else blamed name "current: no such job"
    | _ => return 0
  | "suspend" => blamed name "cannot suspend: no job control"
  | "bind" => do
    Act.complain "bind: warning: line editing not enabled"
    return 0
  | _ => return 0

/-! ## What is called -/

/-- What the words of a command call. -/
inductive Callee where
  | function (body : Command)
  | builtin
  | program
deriving Inhabited

def calleeOf (name : String) (skipsFunctions : Bool) : Act Callee := do
  let p ← Act.process
  let own ← isBuiltin name
  if p.dialect = .dash && own && specialBuiltins.contains name then return .builtin
  else
    match (if skipsFunctions then none else p.functions.lookup name) with
    | some body => return .function body
    | none => if own then return .builtin else return .program

def printableName (name : String) : String :=
  if needsDollarQuotes name then dollarQuoted name else name

/-- Runs a program by its name in the present process, which is one of its own. -/
def runProgram (x : Executor) (argv : List String) : Act Nat := do
  let name := argv.headD ""
  let isBash ← Act.isBash
  match ← programPath? name with
  | some path =>
    Act.update fun p => { p with lastArgument := path }
    runProgramAt x (fun message => Act.complain (name ++ ": " ++ message)) 5 path argv
  | none =>
    if name.toList.contains '/' then
      let (message, status) ← startFault name
      if isBash then Act.complain (name ++ ": " ++ message)
      else Act.complain (name ++ ": " ++ (if status = 127 then "not found"
        else if message = "Not a directory" then "not found" else "Permission denied"))
      return if isBash then status else if message = "Not a directory" then 127 else status
    else if isBash then
      Act.complain (printableName name ++ ": command not found")
      return 127
    else
      Act.complain (name ++ (if name.isEmpty then ": Permission denied" else ": not found"))
      return 127

/-- What stands behind `command`: the flags, and the words that are called. -/
structure CommandPrefix where
  usual : Bool := false
  describes : Option Bool := none
  words : List Declared := []
  unknown : Option Char := none

/-- Reads the words behind `command`. -/
def commandPrefix : List Declared → CommandPrefix
  | [] => {}
  | d :: rest =>
    match d.shown.toList with
    | ['-', '-'] => { words := rest }
    | '-' :: c :: cs =>
      match (c :: cs).find? fun c => !("pvV".toList.contains c) with
      | some c => { unknown := some c }
      | none =>
        let later := commandPrefix rest
        { later with
          usual := later.usual || (c :: cs).contains 'p'
          describes := later.describes.or
            (if (c :: cs).contains 'V' then some true else if (c :: cs).contains 'v' then some false else none) }
    | _ => { words := d :: rest }

/-- What a command comes to when `command` and `builtin` in front of it are taken into
account. -/
inductive Invocation where
  | call (callee : Callee) (words : List Declared) (plain : Bool)
  | answer (run : Act Nat)

/-- Takes `command` and `builtin` in front of a command into account. -/
def invocationOf : Nat → Bool → Bool → List Declared → Act Invocation
  | 0, _, _, words => return .call .program words true
  | n + 1, skipsFunctions, plain, words => do
    let name := (words.headD (.text "")).shown
    let isBash ← Act.isBash
    match ← calleeOf name skipsFunctions with
    | .builtin =>
      if name = "command" then
        let c := commandPrefix words.tail
        match c.unknown with
        | some letter =>
          return .answer do
            if isBash then
              blame name ("-" ++ String.singleton letter ++ ": invalid option")
              showUsage name
            else
              blame name ("Illegal option -" ++ String.singleton letter)
              throw (.exit 2)
        | none =>
          match c.describes, c.words with
          | some verbose, names => return .answer (runCommandFlags name verbose c.usual (names.map Declared.shown))
          | none, [] => return .answer (return 0)
          | none, more => invocationOf n true false more
      else if name = "builtin" then
        let more := match words.tail with
          | .text "--" :: rest => rest
          | rest => rest
        match more with
        | [] => return .answer (return 0)
        | d :: _ =>
          if largeBuiltins.contains d.shown then
            if d.shown = "command" || d.shown = "builtin" then invocationOf n true plain more
            else return .call .builtin more plain
          else return .answer (blamed name (d.shown ++ ": not a shell builtin"))
      else return .call .builtin words plain
    | callee => return .call callee words plain

/-! ## Words -/

/-- The commands whose words may be assignments. -/
def declaresIn (isBash : Bool) (name : String) : Bool :=
  if isBash then ["declare", "export", "local", "readonly", "typeset"].contains name
  else ["export", "local", "readonly"].contains name

/-- Whether the pieces of a word begin like an assignment. -/
def looksAssigned (w : Word) : Bool :=
  match w.pieces with
  | .text s :: _ =>
    match splitFirst? '=' s with
    | some (left, _) =>
      let left := if left.endsWith "+" then takeText (left.length - 1) left else left
      let (name, subscript) := referenceOf left
      isName name && (name == left || !(subscript matches .absent))
    | none => false
  | _ => false

def expandWords (x : Executor) (words : List Word) : Act (List Declared) := do
  let isBash ← Act.isBash
  let declares := (words.head?.bind Word.plain?).any (declaresIn isBash)
  if !declares then return (← fieldsOfWords x words).map Declared.text
  else
    let flags := words.tail.filterMap fun w => w.plain?
    let isTable := flags.any fun s => s.startsWith "-" && s.toList.contains 'A'
    let parts ← words.mapM fun w => do
      match w.pieces with
      | [.text name, .elements extend elements] =>
        if ← Act.hasOption "xtrace" then
          let table ← do
            match (← Act.knownVariable? (← Act.resolve name)).map Variable.value with
            | some (.table _) => pure true
            | _ => pure isTable
          let settled ← settledElements x table elements
          trace x (return name ++ (if extend then "+=" else "=") ++ shownElements table settled)
          return [Declared.list name extend settled]
        else return [Declared.list name extend elements]
      | _ =>
        if looksAssigned w then return [Declared.text (← textOfValue x w)]
        else return (← fieldsOfWord x w).map Declared.text
    return parts.flatten

/-! ## Assignments in front of a command -/

/-- What an assignment in front of a command gives, as a name and a text. -/
def prefixText (x : Executor) (a : Assignment) : Act (String × Bool × String) := do
  match a with
  | .mk source name _ extend value =>
    match value with
    | .many _ => return (name, false, dropText (name.length + (if extend then 2 else 1)) source)
    | .one w => return (name, extend, ← textOfValue x w)

/-- Carries out assignments in front of a command, and returns them as texts together with
the names that changed. -/
def assignPrefix (x : Executor) (keeps : Bool) (assignments : List Assignment) :
    Act (List String × List String) := do
  let isBash ← Act.isBash
  let mut names : List String := []
  let mut texts : List String := []
  for a in assignments do
    let (name, extend, text) ← prefixText x a
    let old := (← Act.knownVariable? name).getD {}
    if isBash then
      trace x (return name ++ (if extend then "+=" else "=") ++ (if text.isEmpty then "" else traced text))
    if old.readonly then
      Act.complain (← Act.readonlyMessage name)
      if !isBash then throw (.exit 2)
    else
      let text ← if extend then pure ((← Act.textOr name "") ++ text) else pure text
      names := name :: names
      texts := (name ++ "=" ++ text) :: texts
      if keeps then Act.setText name text
      else Act.putVariable name { old with value := .text text, exported := true }
  return (texts.reverse, names.eraseDups)

/-- Runs a part with assignments that hold for it alone; `keeps` says that they stay. -/
def withPrefix {α : Type} (x : Executor) (assignments : List Assignment) (keeps : Bool)
    (part : List String → Act α) : Act α := do
  if assignments.isEmpty then part []
  else
    let before := (← Act.process).bindings
    let (texts, names) ← assignPrefix x keeps assignments
    if keeps then part texts
    else
      Act.undoing (part texts) do
        for name in names do
          Act.restore name (before.lookup name)

/-- What stands around the call of a command: its assignments, its redirections, and how
the trace shows its words. -/
structure Surrounding where
  assignments : List Assignment
  redirects : List Redirect
  words : List Declared

/-- Runs a part with the redirections and assignments of a command; none if a redirection
failed.  The two languages go about it in a different order. -/
def within {α : Type} (x : Executor) (s : Surrounding) (keeps : Bool) (part : Act α) : Act (Option α) := do
  if ← Act.isBash then
    withPrefix x s.assignments keeps fun _ => do
      trace x (return " ".intercalate (s.words.map fun d => match d with
        | .text s => traced s
        | .list name _ _ => name))
      withRedirections x s.redirects part
  else
    withRedirections x s.redirects do
      withPrefix x s.assignments keeps fun texts => do
        trace x (return " ".intercalate (texts ++ s.words.map Declared.shown))
        part

/-! ## Simple commands -/

/-- Sets the line that reports name. -/
def enterLine (line : Nat) : Act Unit :=
  Act.update fun p => { p with line := ((line : Int) + p.lineShift).toNat }

/-- Notes what is about to be run, and runs what is set for that. -/
def announce (x : Executor) (c : Command) : Act Unit := do
  let p ← Act.process
  if p.dialect = .bash && p.inTrap.isEmpty then
    Act.update fun p => { p with running := c }
    if !p.traps.isEmpty && (p.traps.lookup "DEBUG").isSome then runTrapFor x "DEBUG"

/-- Sets the status of a command that is over. -/
def conclude (status : Nat) : Act Unit :=
  Act.update fun p => { p with status := status, pipeStatus := [status] }

/-- A command without words: assignments, and redirections that are tried. -/
def runAssignments (x : Executor) (assignments : List Assignment) (redirects : List Redirect) : Act Unit := do
  let isBash ← Act.isBash
  if isBash then
    for a in assignments do
      assign x a
    let ok ← withRedirections x redirects (return ())
    if ok.isNone then conclude 1
    else conclude ((← Act.process).substituted.getD 0)
    Act.update fun p => { p with lastArgument := "" }
  else
    match ← withRedirections x redirects (return ()) with
    | none => conclude 2
    | some () =>
      let parts ← assignments.mapM fun a => do
        match a with
        | .mk _ name _ _ (.one w) =>
          let text ← textOfValue x w
          if !(← assignOne name none false text) then refuseReadonly name
          return name ++ "=" ++ text
        | _ => return ""
      if !parts.isEmpty then trace x (return " ".intercalate parts)
      conclude ((← Act.process).substituted.getD 0)

def runOwn (x : Executor) (s : Surrounding) (words : List Declared) (plain : Bool) : Act Nat := do
  let name := (words.headD (.text "")).shown
  let isBash ← Act.isBash
  let isSpecial := !isBash && plain && specialBuiltins.contains name
  let failed := if isBash then 1 else 2
  if name = "exec" && words.length ≤ 1 then
    withPrefix x s.assignments true fun texts => do
      trace x (return " ".intercalate (texts ++ words.map Declared.shown))
      if ← redirectAll x s.redirects then return 0
      else throw (.exit failed)
  else
    match ← within x s isSpecial (runBuiltin x name words.tail) with
    | some status => return status
    | none => if isSpecial then throw (.exit 2) else return failed

def runWords (x : Executor) (s : Surrounding) : Act Nat := do
  let isBash ← Act.isBash
  let failed := if isBash then 1 else 2
  match ← invocationOf 10 false true s.words with
  | .answer run => return (← within x s false run).getD failed
  | .call callee words plain =>
    let argv := words.map Declared.shown
    let name := argv.headD ""
    match callee with
    | .builtin => runOwn x s words plain
    | .function body => return (← within x s false (callFunction x name body argv.tail)).getD failed
    | .program =>
      if isBash then
        let path ← programPath? name
        let functions := (← Act.process).functions
        let handle := if path.isSome || name.toList.contains '/' then none
          else functions.lookup "command_not_found_handle"
        match handle with
        | some body =>
          apart x do
            let status ← within x s false (callFunction x "command_not_found_handle" body argv)
            Act.setStatus (status.getD failed)
        | none =>
          let before := (← Act.world).clock
          if let some path := path then
            if !name.toList.contains '/' && s.assignments.isEmpty then rememberProgram name path 1
          let status ← asProgram (return (← within x s false (runProgram x argv)).getD failed)
          passed x before
          return status
      else
        let before := (← Act.world).clock
        let status := (← within x s false (asProgram (runProgram x argv))).getD failed
        passed x before
        return status
where
  /-- Lets commands in the background come to their end if a program took time. -/
  passed (x : Executor) (before : Nat) : Act Unit := do
    let w ← Act.world
    if w.clock ≠ before && !w.jobs.isEmpty then x.settle .due

def runSimple (x : Executor) (c : Command) (line : Nat) (assignments : List Assignment) (words : List Word)
    (redirects : List Redirect) : Act Unit := do
  enterLine line
  announce x c
  Act.pass 20
  Act.update fun p => { p with substituted := none }
  let helpers := (← Act.process).helpers
  let declared ← expandWords x words
  if declared.isEmpty then runAssignments x assignments redirects
  else
    conclude (← runWords x ⟨assignments, redirects, declared⟩)
    Act.update fun p => { p with lastArgument := (declared.getLast?.map Declared.shown).getD "" }
  finishHelpers x helpers
  receiveAll x

end SpeechConfig.Shell
