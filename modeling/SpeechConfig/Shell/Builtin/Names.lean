/-
# What names mean

The commands that say what a name stands for: an alias, a keyword, a function, a command
of the shell, or a program.
-/
import SpeechConfig.Shell.Builtin.Basic
import SpeechConfig.Shell.Program
import SpeechConfig.Shell.Syntax.Printed

namespace SpeechConfig.Shell

/-! ## Aliases -/

def runAlias (name : String) (args : List String) : Act Nat := do
  let isBash ← Act.isBash
  let shown (n text : String) : String :=
    (if isBash then "alias " else "") ++ n ++ "=" ++ singleQuoted text ++ "\n"
  let letters := if isBash then "p" else ""
  withFlags name letters "" args fun f => do
    let mut status := 0
    if f.operands.isEmpty || f.has 'p' then
      let all := (← Act.process).aliases.mergeSort fun a b => textLe a.1 b.1
      let _ ← emit name (String.join (all.map fun e => shown e.1 e.2))
    for a in f.operands do
      match splitFirst? '=' a with
      | some (n, text) =>
        if n.isEmpty then
          match (← Act.process).aliases.lookup a with
          | some t => let _ ← emit name (shown a t)
          | none =>
            blame name (a ++ ": not found")
            status := 1
        else if isBash && n.toList.any (fun c => " \t\n$\x60\\\"'/&|;()<>".toList.contains c) then
          blame name ("\x60" ++ n ++ "': invalid alias name")
          status := 1
        else Act.update fun p => { p with aliases := (n, text) :: p.aliases.filter fun e => e.1 != n }
      | none =>
        match (← Act.process).aliases.lookup a with
        | some text => let _ ← emit name (shown a text)
        | none =>
          blame name (a ++ (if isBash then ": not found" else " not found"))
          status := 1
    return status

def runUnalias (name : String) (args : List String) : Act Nat :=
  withFlags name "a" "" args fun f => do
    if f.has 'a' then
      Act.update fun p => { p with aliases := [] }
      return 0
    else if f.operands.isEmpty && (← Act.isBash) then showUsage name
    else
      let mut status := 0
      for a in f.operands do
        if ((← Act.process).aliases.lookup a).isSome then
          Act.update fun p => { p with aliases := p.aliases.filter fun e => e.1 != a }
        else
          if ← Act.isBash then blame name (a ++ ": not found")
          else blame name (a ++ " not found")
          status := 1
      return status

/-! ## Kinds of names -/

/-- What a name can stand for. -/
inductive Meaning where
  | alias (text : String)
  | keyword
  | function (body : Command)
  | builtin
  | hashed (path : String)
  | program (path : String)

def Meaning.kind : Meaning → String
  | .alias _ => "alias"
  | .keyword => "keyword"
  | .function _ => "function"
  | .builtin => "builtin"
  | .hashed _ | .program _ => "file"

def isReserved (s : String) : Act Bool := do
  return reservedWords.contains s || ((← Act.isBash) && (largeReservedWords.contains s || s == "]]"))

/-- All that a name stands for, the first meaning first. -/
def meaningsOf (name : String) (onlyPrograms skipsFunctions : Bool) : Act (List Meaning) := do
  let p ← Act.process
  let own : List Meaning ← do
    if onlyPrograms then pure []
    else
      let aliases := if (← Act.isBash) && !(← Act.hasSwitch "expand_aliases") then []
        else (p.aliases.lookup name).toList.map Meaning.alias
      let keywords := if ← isReserved name then [Meaning.keyword] else []
      let functions := if skipsFunctions then [] else (p.functions.lookup name).toList.map Meaning.function
      let builtins := if ← isBuiltin name then [Meaning.builtin] else []
      pure (aliases ++ keywords ++ functions ++ builtins)
  let files : List Meaning ← do
    if name.toList.contains '/' then
      pure (if ← leadsToProgram name then [Meaning.program name] else [])
    else
      let paths ← programPaths name (← Act.textOf "PATH")
      match p.hashed.lookup name with
      | some (path, _) => pure (Meaning.hashed path :: (paths.map Meaning.program))
      | none => pure (paths.map Meaning.program)
  return own ++ files

def describeMeaning (name : String) (m : Meaning) : Act String := do
  let isBash ← Act.isBash
  return match m with
    | .alias text => name ++ (if isBash then " is aliased to \x60" ++ text ++ "'\n" else " is an alias for " ++ text ++ "\n")
    | .keyword => name ++ " is a shell keyword\n"
    | .function body =>
      if isBash then name ++ " is a function\n" ++ shownFunction name body ++ "\n"
      else name ++ " is a shell function\n"
    | .builtin =>
      if !isBash && specialBuiltins.contains name then name ++ " is a special shell builtin\n"
      else name ++ " is a shell builtin\n"
    | .hashed path => name ++ (if isBash then " is hashed (" ++ path ++ ")\n" else " is a tracked alias for " ++ path ++ "\n")
    | .program path => name ++ " is " ++ path ++ "\n"

def runType (command : String) (args : List String) : Act Nat := do
  let isBash ← Act.isBash
  withFlags command (if isBash then "afptP" else "") "" args fun f => do
    let mut status := 0
    for name in f.operands do
      let meanings ← meaningsOf name (f.has 'P') (f.has 'f')
      let meanings := if f.has 'a' then meanings.filter fun m => match m with
          | .hashed _ => false
          | _ => true
        else meanings.take 1
      if meanings.isEmpty then
        status := if isBash then 1 else 127
        if !f.has 't' && !f.has 'p' && !f.has 'P' then
          if isBash then blame command (name ++ ": not found")
          else Act.put 1 (name ++ ": not found\n")
      for m in meanings do
        if f.has 't' then let _ ← emit command (m.kind ++ "\n")
        else if f.has 'p' || f.has 'P' then
          match m with
          | .hashed path | .program path => let _ ← emit command (path ++ "\n")
          | _ => pure ()
        else let _ ← emit command (← describeMeaning name m)
    return status

/-- Says what the names behind `command -v` and `command -V` stand for. -/
def runCommandFlags (command : String) (verbose usual : Bool) (names : List String) : Act Nat := do
  let isBash ← Act.isBash
  let mut status := if names.isEmpty then 0 else 1
  for name in names do
    let meanings ← meaningsOf name false false
    let meaning ← if usual && !name.toList.contains '/' then do
        match meanings.head? with
        | some (.program _) | some (.hashed _) | none =>
          pure ((← programPaths name none).head?.map Meaning.program)
        | m => pure m
      else pure meanings.head?
    match meaning with
    | none =>
      if !isBash then status := 127
      if verbose then
        if isBash then blame command (name ++ ": not found")
        else Act.put 1 (name ++ ": not found\n")
    | some m =>
      status := 0
      if verbose then let _ ← emit command (← describeMeaning name m)
      else
        let _ ← emit command (match m with
          | .alias text => "alias " ++ name ++ "=" ++ singleQuoted text ++ "\n"
          | .hashed path | .program path => path ++ "\n"
          | _ => name ++ "\n")
  return status

def runHash (command : String) (args : List String) : Act Nat := do
  let isBash ← Act.isBash
  withFlags command (if isBash then "lrdt" else "rv") (if isBash then "p" else "") args fun f => do
    if f.has 'r' then Act.update fun p => { p with hashed := [] }
    if f.operands.isEmpty then
      if f.has 'r' then return 0
      else
        let all := (← Act.process).hashed
        if all.isEmpty then
          if isBash then emit command (if f.has 'l' then "" else "hash: hash table empty\n") else return 0
        else if f.has 'l' then
          emit command (String.join (all.map fun e => "builtin hash -p " ++ e.2.1 ++ " " ++ e.1 ++ "\n"))
        else if isBash then
          emit command ("hits\tcommand\n" ++ String.join (all.map fun e =>
            padded 4 false (Nat.repr e.2.2) ++ "\t" ++ e.2.1 ++ "\n"))
        else emit command (String.join (all.map fun e => e.2.1 ++ "\n"))
    else
      let mut status := 0
      for name in f.operands do
        if f.has 't' then
          match (← Act.process).hashed.lookup name with
          | some (path, _) =>
            let _ ← emit command ((if f.operands.length > 1 then name ++ "\t" else "") ++ path ++ "\n")
          | none =>
            blame command (name ++ ": not found")
            status := 1
        else if f.has 'd' then
          if ((← Act.process).hashed.lookup name).isSome then
            Act.update fun p => { p with hashed := p.hashed.filter fun e => e.1 != name }
          else
            blame command (name ++ ": not found")
            status := 1
        else if let some path := f.value? 'p' then rememberProgram name path 0
        else if (← isBuiltin name) || ((← Act.process).functions.lookup name).isSome then pure ()
        else match ← programPath? name with
          | some path => if !name.toList.contains '/' then rememberProgram name path 0
          | none =>
            blame command (name ++ ": not found")
            status := 1
      return status

def runCaller (command : String) (args : List String) : Act Nat := do
  let p ← Act.process
  let sources := p.frames.map Frame.source ++ [p.name]
  let names := p.frames.map Frame.name ++ ["main"]
  match args with
  | [] =>
    match p.frames with
    | [] => emit command "0 NULL\n"
    | f :: _ => emit command (Nat.repr f.line ++ " " ++ (sources.getD 1 p.name) ++ "\n")
  | s :: _ =>
    match numberIn? 10 s.toList with
    | none =>
      blame command (s ++ ": invalid number")
      showUsage command
    | some n =>
      match p.frames[n]? with
      | none => return 1
      | some f => emit command (Nat.repr f.line ++ " " ++ names.getD (n + 1) "main" ++ " " ++ sources.getD (n + 1) p.name ++ "\n")

def runEnable (command : String) (args : List String) : Act Nat :=
  withFlags command "adnps" "f" args fun f => do
    if f.operands.isEmpty then
      if f.has 'n' then return 0
      else emit command (String.join (largeBuiltins.map fun n => "enable " ++ n ++ "\n"))
    else
      let mut status := 0
      for name in f.operands do
        if !largeBuiltins.contains name then
          blame command (name ++ ": not a shell builtin")
          status := 1
      return status

end SpeechConfig.Shell
