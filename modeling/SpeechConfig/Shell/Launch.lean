/-
# Starting programs

A program is a tool, a shell, or a script that says what is to run it.  Each runs in a
process of its own.
-/
import SpeechConfig.Shell.Builtin.Options
import SpeechConfig.Shell.Program
import SpeechConfig.Shell.Script
import SpeechConfig.Shell.Tool.Table

namespace SpeechConfig.Shell

/-! ## Processes -/

/-- Runs a part as a program in a process of its own, and returns its status. -/
def asProgram (part : Act Nat) : Act Nat := do
  let outer ← Act.process
  let number ← Act.freshNumber
  Act.update fun p =>
    { p with number := number, parent := outer.number, traps := p.traps.filter fun t => t.2.isEmpty }
  let result ← Act.attempt part
  Act.update fun _ => outer
  match result with
  | .ok n => return n % 256
  | .error .deadline => throw .deadline
  | .error stop => return statusOf stop 1 % 256

/-- The version that the large shell says it has. -/
def shellVersion : String := "5.2.37(1)-release"

/-- The variables that a shell has beside those it is given. -/
def ownVariables (dialect : Dialect) (here : String) (level : Nat) : List (String × Variable) :=
  let plain (name text : String) : String × Variable := (name, { value := .text text })
  match dialect with
  | .dash =>
    [plain "IFS" " \t\n", plain "OPTIND" "1", plain "PS1" "# ", plain "PS2" "> ", plain "PS4" "+ ",
      plain "PPID" "4241", ("PWD", { value := .text here, exported := true })]
  | .bash =>
    [plain "IFS" " \t\n", plain "OPTIND" "1", plain "OPTERR" "1", plain "PS4" "+ ",
      plain "BASH" "/usr/bin/bash", plain "BASH_VERSION" shellVersion,
      ("BASH_VERSINFO", { value := .list [(0, "5"), (1, "2"), (2, "37"), (3, "1"), (4, "release"),
        (5, "x86_64-pc-linux-gnu")], readonly := true }),
      ("BASHOPTS", { value := .text (":".intercalate startSwitches), readonly := true }),
      ("SHELLOPTS", { value := .text (":".intercalate startOptions), readonly := true }),
      plain "HOSTNAME" "localhost", plain "HOSTTYPE" "x86_64", plain "OSTYPE" "linux-gnu",
      plain "MACHTYPE" "x86_64-pc-linux-gnu", plain "TERM" "dumb",
      ("UID", { value := .text "0", readonly := true, integer := true }),
      ("EUID", { value := .text "0", readonly := true, integer := true }),
      ("PPID", { value := .text "4241", readonly := true, integer := true }),
      ("GROUPS", { value := .list [(0, "0")] }),
      ("SHLVL", { value := .text (Nat.repr (level + 1)), exported := true }),
      ("PWD", { value := .text here, exported := true })]

/-- Makes the present process a shell that has just been started. -/
def becomeShell (dialect : Dialect) (name label : String) (parameters options : List String) : Act Unit := do
  let environment ← Act.environment
  Act.update fun p =>
    let level := ((environment.lookup "SHLVL").bind fun s => numberIn? 10 s.toList).getD 0
    let inherited := environment.map fun e => (e.1, ({ value := .text e.2, exported := true } : Variable))
    let own := ownVariables dialect p.here level
    let path := if (environment.lookup "PATH").isSome then []
      else [("PATH", ({ value := .text usualSearchPath } : Variable))]
    { dialect := dialect
      name := name
      label := label
      number := p.number
      main := p.number
      parent := p.parent
      bindings := own ++ path ++ inherited.filter fun e => !(own.any fun o => o.1 == e.1)
      parameters := parameters
      options := (if dialect = .bash then startOptions else []) ++ options
      switches := if dialect = .bash then startSwitches else []
      traps := p.traps.filter fun t => t.2.isEmpty
      streams := p.streams
      place := p.place
      here := p.here
      mask := p.mask }

/-! ## Shells -/

/-- What the arguments of a shell ask for. -/
structure ShellRequest where
  options : List String := []
  offs : List String := []
  runsText : Bool := false
  readsInput : Bool := false
  words : List String := []

/-- What is wrong with the arguments of a shell. -/
inductive ShellFault where
  | unknown (word : String)
  | unknownOption (name : String)
  | unknownSwitch (name : String)
  | lacksArgument (word : String)
  | version
  | help
deriving Repr

/-- The long options of the large shell that stand alone and change nothing here. -/
def longShellOptions : List String :=
  ["debug", "debugger", "dump-po-strings", "dump-strings", "login", "noediting", "noprofile",
    "norc", "posix", "pretty-print", "protected", "restricted", "verbose", "wordexp"]

/-- Reads the arguments of the large shell.  `longToo` says that long options may still
come, and `waiting` what a word before asks for. -/
def readShell (longToo : Bool) (waiting : Option (Bool × Bool)) :
    List String → Except ShellFault ShellRequest
  | [] =>
    match waiting with
    | some (_, true) => .ok {}
    | some (on, false) => .error (.lacksArgument (if on then "-O" else "+O"))
    | none => .ok {}
  | a :: rest =>
    match waiting with
    | some (on, isOption) =>
      if isOption then
        if largeOptions.any fun o => o.1 == a then
          (readShell longToo none rest).map fun r =>
            if on then { r with options := a :: r.options } else { r with offs := a :: r.offs }
        else .error (.unknownOption a)
      else if switchNames.contains a then readShell longToo none rest
      else .error (.unknownSwitch a)
    | none =>
      match a.toList with
      | ['-'] | ['-', '-'] => .ok { words := rest }
      | '-' :: '-' :: name =>
        let name := String.ofList name
        if !longToo then .error (.unknown "--")
        else if name = "version" then .error .version
        else if name = "help" then .error .help
        else if name = "rcfile" || name = "init-file" then
          match rest with
          | [] => .error (.lacksArgument name)
          | _ :: rest => readShell true none rest
        else if longShellOptions.contains name then readShell true none rest
        else .error (.unknown a)
      | sign :: c :: cs =>
        if sign = '-' ∨ sign = '+' then
          let on := sign == '-'
          let letters := c :: cs
          let special := "cilrsDoO".toList
          match letters.find? fun c => !(special.contains c || largeOptions.any fun o => o.2 == some c) with
          | some c => .error (.unknown (String.ofList [sign, c]))
          | none =>
            let named := letters.filterMap fun c =>
              if special.contains c then none else (largeOptions.find? fun o => o.2 == some c).map Prod.fst
            let next := if letters.contains 'o' then some (on, true)
              else if letters.contains 'O' then some (on, false) else none
            (readShell false next rest).map fun r =>
              { r with
                options := (if on then named else []) ++ r.options
                offs := (if on then [] else named) ++ r.offs
                runsText := r.runsText || letters.contains 'c'
                readsInput := r.readsInput || letters.contains 's' }
        else .ok { words := a :: rest }
      | _ => .ok { words := a :: rest }

def shellUsage (name : String) : String :=
  "Usage:\t" ++ name ++ " [GNU long option] [option] ...\n\t" ++ name ++
  " [GNU long option] [option] script-file ...\nGNU long options:\n" ++
  String.join ((["debug", "debugger", "dump-po-strings", "dump-strings", "help", "init-file", "login",
    "noediting", "noprofile", "norc", "posix", "pretty-print", "rcfile", "restricted", "verbose",
    "version"]).map fun n => "\t--" ++ n ++ "\n") ++
  "Shell options:\n\t-ilrsD or -c command or -O shopt_option\t\t(invocation only)\n" ++
  "\t-abefhkmnptuvxBCEHPT or -o option\n"

/-- Whether the content of a script shows that it is none. -/
def looksBinary (content : String) : Bool :=
  let sample := content.toList.take 80
  let lines := if content.startsWith "#!" then 2 else 1
  let rec hasNul : Nat → List Char → Bool
    | _, [] => false
    | 0, _ => false
    | n + 1, c :: cs => c == '\x00' || hasNul (if c == '\n' then n else n + 1) cs
  content.startsWith "\x7fELF" || hasNul lines sample

/-- A text without the octets that a shell passes over. -/
def withoutNuls (s : String) : String :=
  if s.toList.contains '\x00' then String.ofList (s.toList.filter (· != '\x00')) else s

/-- Runs a shell to its end, and returns its status. -/
def shellStatus (x : Executor) (part : Act Unit) : Act Nat := do
  match ← toTheEnd x part with
  | some (.killed n) => throw (.killed n)
  | _ => Act.status

/-- Runs a script file in a shell that has just been started. -/
def runScriptFile (x : Executor) (shell path : String) : Act Nat := do
  let isBash ← Act.isBash
  let refuse (label message : String) (status : Nat) : Act Nat := do
    Act.warn (label ++ ": " ++ message)
    return status
  let found ← do
    match ← nodeAt? true path with
    | some _ => pure path
    | none =>
      if isBash && !path.toList.contains '/' then
        pure ((← programPaths path (← Act.textOf "PATH")).headD path)
      else pure path
  match ← Act.openToRead found with
  | .error e =>
    if isBash then refuse shell (path ++ ": " ++ e.reason) (if e matches .files .notFound then 127 else 126)
    else refuse shell ("0: cannot open " ++ path ++ ": " ++
      (if e matches .files .notFound then "No such file" else e.reason)) 2
  | .ok i =>
    match (← Act.world).opened[i]? with
    | none => return 126
    | some f =>
      match ← Act.restOf f with
      | .error e =>
        if isBash then refuse path (path ++ ": " ++ e.reason) 126
        else refuse shell ("0: cannot open " ++ path ++ ": " ++ e.reason) 2
      | .ok content =>
        if isBash && looksBinary content then refuse path (path ++ ": cannot execute binary file") 126
        else shellStatus x (runScript x "" (withoutNuls content) false)

/-- Runs what a shell reads from its input, line by line, so that commands may read on. -/
def runInput (x : Executor) : Act Nat := do
  let text ← match ← Act.readAll 0 with
    | .ok text => pure text
    | .error _ => pure ""
  shellStatus x (runScript x "" (withoutNuls text) false)

def startLargeShell (x : Executor) (program : String) (args : List String) : Act Nat := do
  let shell := (splitAll '/' program).getLast?.getD program
  let usage (message : String) (status : Nat) : Act Nat := do
    Act.warn (shell ++ ": " ++ message)
    Act.put 2 (shellUsage shell)
    return status
  match readShell true none args with
  | .error (.unknown word) => usage (word ++ ": invalid option") 2
  | .error (.unknownOption name) =>
    Act.warn (shell ++ ": " ++ name ++ ": invalid option name")
    return 2
  | .error (.unknownSwitch name) =>
    Act.warn (shell ++ ": " ++ name ++ ": invalid shell option name")
    return 2
  | .error (.lacksArgument word) =>
    Act.warn (shell ++ ": " ++ word ++ ": option requires an argument")
    return 2
  | .error .version =>
    Tool.say shell ("GNU bash, version " ++ shellVersion ++ " (x86_64-pc-linux-gnu)\n" ++
      "This is free software; you are free to change and redistribute it.\n" ++
      "There is NO WARRANTY, to the extent permitted by law.\n")
  | .error .help => Tool.say shell (shellUsage shell)
  | .ok r =>
    let options := r.options.filter fun o => !r.offs.contains o
    if r.runsText then
      match r.words with
      | [] =>
        Act.warn (shell ++ ": -c: option requires an argument")
        return 2
      | text :: rest =>
        let name := rest.headD program
        becomeShell .bash name name (rest.drop 1) ("command" :: options)
        shellStatus x (runScript x "-c" text true)
    else
      match r.words with
      | path :: rest =>
        if r.readsInput then
          becomeShell .bash program program r.words ("stdin" :: options)
          runInput x
        else
          becomeShell .bash path path rest options
          runScriptFile x shell path
      | [] =>
        becomeShell .bash program program [] ("stdin" :: options)
        runInput x

def startSmallShell (x : Executor) (program : String) (args : List String) : Act Nat := do
  let known := smallOptions
  let flags := args.takeWhile fun a => (a.startsWith "-" || a.startsWith "+") && a != "-" && a != "--" && a != "+"
  let words := args.drop flags.length
  let words := match words with
    | "-" :: rest | "--" :: rest => rest
    | words => words
  let letters := flags.flatMap fun a => a.toList.drop 1
  match letters.find? fun c => !("cslo".toList.contains c || known.any fun o => o.2 == some c) with
  | some c =>
    let shown := if c = '-' then "--" else "-" ++ String.singleton c
    Act.warn (program ++ ": 0: Illegal option " ++ shown)
    return 2
  | none =>
    let named := letters.filterMap fun c => (known.find? fun o => o.2 == some c).map Prod.fst
    let (named, words) := if letters.contains 'o' then (words.take 1 ++ named, words.drop 1) else (named, words)
    if letters.contains 'c' then
      match words with
      | [] =>
        Act.warn (program ++ ": 0: -c requires an argument")
        return 2
      | text :: rest =>
        let name := rest.headD program
        becomeShell .dash name name (rest.drop 1) named
        shellStatus x (runScript x "" text true)
    else
      match words with
      | path :: rest =>
        if letters.contains 's' then
          becomeShell .dash program program words ("stdin" :: named)
          runInput x
        else
          becomeShell .dash path path rest named
          runScriptFile x program path
      | [] =>
        becomeShell .dash program program [] ("stdin" :: named)
        runInput x

/-! ## Programs -/

/-- The directory of the programs that come with the system. -/
def systemPrograms : Location := ["bin", "usr"]

/-- The interpreter that the first line of a script names, with its argument. -/
def interpreterOf? (content : String) : Option (List String) :=
  if content.startsWith "#!" then
    let line := (content.toList.drop 2).takeWhile (· != '\n')
    let line := line.dropWhile isBlank
    let path := line.takeWhile fun c => !isBlank c
    let rest := (line.drop path.length).dropWhile isBlank
    let rest := (rest.reverse.dropWhile isBlank).reverse
    some (String.ofList path :: (if rest.isEmpty then [] else [String.ofList rest]))
  else none

/-- What can be started at a path. -/
inductive Startable where
  | tool (run : Tool)
  | largeShell
  | smallShell
  | script (content : String)
  | refused (message : String) (status : Nat)

/-- What stands at the path of a program. -/
def startableAt (path : String) : Act Startable := do
  match ← nodeAt? true path with
  | some (l, .file content) =>
    if !(← isExecutable l (.file content)) then return .refused "Permission denied" 126
    else
      let name := l.headD ""
      let known := l.drop 1 = systemPrograms
      if known && (name = "bash" || name = "rbash") then return .largeShell
      else if known && name = "dash" then return .smallShell
      else match if known then tools.lookup name else none with
      | some tool => return .tool tool
      | none => return .script (Octets.ofBytes content)
  | _ =>
    let (message, status) ← startFault path
    return .refused message status

/-- Runs the program at a path in the present process; what cannot be started is reported
as asked for. -/
def runProgramAt (x : Executor) (complain : String → Act Unit) :
    Nat → String → List String → Act Nat
  | 0, _, _ => do
    complain "Too many levels of symbolic links"
    return 126
  | n + 1, path, argv => do
    match ← startableAt path with
    | .refused message status =>
      complain message
      return status
    | .tool tool => tool x.launch (argv.drop 1)
    | .largeShell => startLargeShell x (argv.headD path) (argv.drop 1)
    | .smallShell => startSmallShell x (argv.headD path) (argv.drop 1)
    | .script content =>
      match interpreterOf? content with
      | some (interpreter :: more) =>
        match ← startableAt interpreter with
        | .refused "No such file or directory" _ =>
          complain "cannot execute: required file not found"
          return 127
        | .refused message _ =>
          Act.complain (path ++ ": " ++ interpreter ++ ": bad interpreter: " ++ message)
          return 126
        | _ => runProgramAt x complain n interpreter (interpreter :: more ++ path :: argv.drop 1)
      | _ =>
        if looksBinary content then
          complain "cannot execute binary file: Exec format error"
          return 126
        else
          let dialect := (← Act.process).dialect
          becomeShell dialect path path (argv.drop 1) []
          shellStatus x (runScript x "" (withoutNuls content) false)

/-- Runs a program by its name in a process of its own, for tools that start others. -/
def launchProgram (x : Executor) (argv : List String) : Act Nat := do
  match argv with
  | [] => return 0
  | name :: _ =>
    match ← programPath? name with
    | none => if name.toList.contains '/' then return (← startFault name).2 else return 127
    | some path =>
      asProgram do
        Act.update fun p => { p with traps := p.traps.filter fun t => t.2.isEmpty }
        runProgramAt x (fun message => Act.warn (name ++ ": " ++ message)) 5 path argv

end SpeechConfig.Shell
