/-
# Declaring variables

The commands that give variables their flags, show them, and take them away.
-/
import SpeechConfig.Shell.Builtin.Basic
import SpeechConfig.Shell.Syntax.Printed

namespace SpeechConfig.Shell

/-- A word of a command that declares variables. -/
inductive Declared where
  | text (s : String)
  | list (name : String) (extend : Bool) (elements : List Element)

/-- What the flags of a declaration ask for. -/
structure DeclareRequest where
  on : List Char := []
  off : List Char := []
  rest : List Declared := []

/-- The letters that a declaration may have. -/
def declareLetters (name : String) : List Char :=
  if name = "export" then "fnp".toList
  else if name = "readonly" then "aAfp".toList
  else "aAfFgiIlnrtuxp".toList

/-- Reads the flags of a declaration; a fault is the unknown letter. -/
def readDeclare (letters : List Char) (plusToo : Bool) : List Declared → Except Char DeclareRequest
  | [] => .ok {}
  | .list name extend elements :: rest => .ok { rest := .list name extend elements :: rest }
  | .text s :: rest =>
    match s.toList with
    | ['-', '-'] => .ok { rest := rest }
    | '-' :: c :: cs =>
      match (c :: cs).find? fun c => !letters.contains c with
      | some c => .error c
      | none => (readDeclare letters plusToo rest).map fun r => { r with on := (c :: cs) ++ r.on }
    | '+' :: c :: cs =>
      if plusToo then
        match (c :: cs).find? fun c => !letters.contains c with
        | some c => .error c
        | none => (readDeclare letters plusToo rest).map fun r => { r with off := (c :: cs) ++ r.off }
      else .ok { rest := .text s :: rest }
    | _ => .ok { rest := .text s :: rest }

/-- A word taken apart: the name, the subscript, whether the value is to be added, and the
value. -/
structure NamedValue where
  name : String
  subscript : Option String := none
  extend : Bool := false
  value : Option String := none

/-- Takes a word with an equals sign apart. -/
def namedValue (s : String) : NamedValue :=
  let (left, value) := match splitFirst? '=' s with
    | some (left, value) => (left, some value)
    | none => (s, none)
  let (left, extend) := match left.toList.reverse with
    | '+' :: rest => if value.isSome then (String.ofList rest.reverse, true) else (left, false)
    | _ => (left, false)
  match splitFirst? '[' left with
  | some (name, inside) =>
    if inside.endsWith "]" then ⟨name, some (takeText (inside.length - 1) inside), extend, value⟩
    else ⟨left, none, extend, value⟩
  | none => ⟨left, none, extend, value⟩

/-- A variable with flags turned on and off. -/
def Variable.flagged (v : Variable) (on off : List Char) : Variable :=
  { v with
    exported := (v.exported || on.contains 'x') && !off.contains 'x'
    readonly := v.readonly || on.contains 'r'
    integer := (v.integer || on.contains 'i') && !off.contains 'i'
    upper := (v.upper || on.contains 'u') && !off.contains 'u' && !on.contains 'l'
    lower := (v.lower || on.contains 'l') && !off.contains 'l' && !on.contains 'u'
    refers := (v.refers || on.contains 'n') && !off.contains 'n' }

/-- A value as a list or a table, where that is asked for. -/
def Value.shaped (v : Value) (on : List Char) : Value :=
  if on.contains 'A' then
    match v with
    | .table entries => .table entries
    | .text s => .table [("0", s)]
    | _ => .table []
  else if on.contains 'a' then
    match v with
    | .list entries => .list entries
    | .text s => .list [(0, s)]
    | .table entries => .table entries
    | .missing => .list []
  else v

/-- Whether a variable has all the flags asked for. -/
def Variable.hasFlags (v : Variable) (letters : List Char) : Bool :=
  let flags := (flagLetters v).toList
  (letters.filter fun c => "aAilnrux".toList.contains c).all flags.contains

/-- The declarations of all variables with some flags. -/
def allDeclarations (letters : List Char) : Act String := do
  let p ← Act.process
  let shown := (p.bindings.filter fun e => e.2.hasFlags letters).mergeSort fun a b => textLe a.1 b.1
  return String.join (shown.map fun e => declaration e.1 e.2 ++ "\n")

/-- Shows functions by name, or all of them. -/
def showFunctions (command : String) (namesOnly : Bool) (names : List Declared) : Act Nat := do
  let p ← Act.process
  let asked := names.filterMap fun d => match d with
    | .text s => some s
    | .list _ _ _ => none
  if asked.isEmpty then
    let all := p.functions.mergeSort fun a b => textLe a.1 b.1
    emit command (String.join (all.map fun f =>
      if namesOnly then "declare -f " ++ f.1 ++ "\n" else shownFunction f.1 f.2 ++ "\n"))
  else
    let mut status := 0
    for name in asked do
      match p.functions.lookup name with
      | none => status := 1
      | some body =>
        let _ ← emit command (if namesOnly then name ++ "\n" else shownFunction name body ++ "\n")
    return status

def declareOne (x : Executor) (command : String) (isLocal : Bool) (on off : List Char) (d : Declared) :
    Act Nat := do
  let word := match d with
    | .text s => s
    | .list name _ _ => name
  let n := match d with
    | .text s => namedValue s
    | .list name extend _ => { name := name, extend := extend }
  if !isName n.name then blamed command ("\x60" ++ word ++ "': not a valid identifier")
  else
    let isReference := on.contains 'n'
    let name ← if isLocal || isReference then pure n.name else Act.resolve n.name
    if isLocal then
      let p ← Act.process
      let isHere := (p.frames.find? Frame.isFunction).any fun f => f.hidden.any fun e => e.1 == name
      if !isHere then
        let old ← Act.knownVariable? name
        if old.any Variable.readonly then
          blame command (name ++ ": readonly variable")
          return 1
        Act.hideInCall name
        if command = "local" && on.isEmpty && off.isEmpty && n.value.isNone && (match d with
            | .list _ _ _ => false
            | .text _ => true) then
          Act.putVariable name { exported := (old.map Variable.exported).getD false }
        else Act.putVariable name {}
    let old := (← Act.knownVariable? name).getD {}
    let assigns := n.value.isSome || (match d with
      | .list _ _ _ => true
      | .text _ => false)
    if old.readonly && (assigns || off.contains 'r') then
      if off.contains 'r' || command = "declare" || command = "typeset" || command = "local" then
        blamed command (name ++ ": readonly variable")
      else
        Act.complain (name ++ ": readonly variable")
        return 1
    else
      let shaping := on ++ (match d with
        | .list _ _ _ => if on.contains 'A' then [] else ['a']
        | .text _ => [])
      let isTableNow := match old.value with
        | .table _ => true
        | _ => false
      let isListNow := match old.value with
        | .list _ => true
        | _ => false
      if on.contains 'A' && isListNow then
        blamed command (name ++ ": cannot convert indexed to associative array")
      else if on.contains 'a' && isTableNow then
        blamed command (name ++ ": cannot convert associative to indexed array")
      else
        let quiet : Variable := { (old.flagged (on.filter (· != 'r')) off) with refers := false }
        Act.putVariable name { quiet with value := old.value.shaped shaping }
        match d with
        | .list _ extend elements => assignMany x name extend elements
        | .text _ =>
          match n.value with
          | none => pure ()
          | some value =>
            if command = "export" || command = "readonly" then
              trace x (return name ++ (if n.extend then "+=" else "=") ++
                (if value.isEmpty then "" else traced value))
            let index ← n.subscript.mapM fun s => indexOf x name [.text s]
            let _ ← assignOne name index n.extend value
        let now := (← Act.knownVariable? name).getD {}
        Act.putVariable name (now.flagged on off)
        return 0

def runDeclare (x : Executor) (command : String) (args : List Declared) : Act Nat := do
  let isLocalCommand := command == "local"
  if isLocalCommand && !(← isInFunction) then blamed command "can only be used in a function"
  else match readDeclare (declareLetters command) (command != "export" && command != "readonly") args with
  | .error c =>
    blame command ("-" ++ String.singleton c ++ ": invalid option")
    showUsage command
  | .ok r =>
    let marks := if command = "export" then (if r.on.contains 'n' then [] else ['x'])
      else if command = "readonly" then ['r'] else []
    let on := (if command = "export" then [] else r.on) ++ marks
    let off := r.off ++ (if command = "export" && r.on.contains 'n' then ['x'] else [])
    if r.on.contains 'f' || r.on.contains 'F' then
      if command = "export" || command = "readonly" then
        let mut status := 0
        for d in r.rest do
          match d with
          | .text s =>
            if ((← Act.process).functions.lookup s).isNone then
              blame command (s ++ ": not a function")
              status := 1
          | .list _ _ _ => pure ()
        return status
      else showFunctions command (r.on.contains 'F') r.rest
    else if r.rest.isEmpty then
      let shows := on.filter fun c => c != 'p' && c != 'g'
      if isLocalCommand then return 0
      else if shows.isEmpty && !r.on.contains 'p' then emit command (← do
        let p ← Act.process
        let lines := (p.bindings.mergeSort fun a b => textLe a.1 b.1).filterMap fun (name, v) =>
          match v.value with
          | .missing => none
          | .text s => some (name ++ "=" ++ listed s ++ "\n")
          | value => some (name ++ "=" ++ shownValue value ++ "\n")
        pure (String.join lines))
      else emit command (← allDeclarations shows)
    else if r.on.contains 'p' && command != "export" && command != "readonly" then
      let mut status := 0
      for d in r.rest do
        match d with
        | .list _ _ _ => pure ()
        | .text s =>
          match ← Act.knownVariable? s with
          | some v => let _ ← emit command (declaration s v ++ "\n")
          | none =>
            blame command (s ++ ": not found")
            status := 1
      return status
    else
      let isLocal := isLocalCommand ||
        ((command == "declare" || command == "typeset") && (← isInFunction) && !r.on.contains 'g')
      let mut status := 0
      for d in r.rest do
        let one ← declareOne x command isLocal on off d
        if one ≠ 0 then status := one
      return status

def runSmallDeclare (command : String) (args : List String) : Act Nat := do
  if command = "local" && !(← isInFunction) then
    blame command "not in a function"
    throw (.exit 2)
  let args := args.filter (· != "--")
  if args.isEmpty || args == ["-p"] then
    let p ← Act.process
    let chosen := p.bindings.filter fun e =>
      if command = "export" then e.2.exported else if command = "readonly" then e.2.readonly else false
    let sorted := chosen.mergeSort fun a b => textLe a.1 b.1
    emit command (String.join (sorted.map fun e =>
      command ++ " " ++ e.1 ++ (match e.2.value.text? with
        | some s => "=" ++ singleQuoted s
        | none => "") ++ "\n"))
  else
    for a in args do
      let n := namedValue a
      if !isName n.name then
        if command = "local" then blame command (n.name ++ ": bad variable name")
        else blame command (n.name ++ ": bad variable name")
        throw (.exit 2)
      if command = "local" then Act.hideInCall n.name
      match n.value with
      | some value =>
        if !(← assignOne n.name none false value) then
          blame command (n.name ++ ": is read only")
          throw (.exit 2)
      | none => pure ()
      let v := (← Act.knownVariable? n.name).getD {}
      Act.putVariable n.name
        { v with exported := v.exported || command == "export", readonly := v.readonly || command == "readonly" }
    return 0

def runUnset (x : Executor) (command : String) (args : List String) : Act Nat :=
  withFlags command "fvn" "" args fun f => do
    let isBash ← Act.isBash
    let mut status := 0
    for word in f.operands do
      let (name, subscript) := referenceOf word
      let dropFunction : Act Unit :=
        Act.update fun p => { p with functions := p.functions.filter fun e => e.1 != word }
      if f.has 'f' then dropFunction
      else if !isName name then
        if isBash && !f.has 'v' then dropFunction
        else
          blame command (if isBash then "\x60" ++ word ++ "': not a valid identifier" else word ++ ": bad variable name")
          if !isBash then throw (.exit 2)
          status := 1
      else
        let name ← if f.has 'n' then pure name else Act.resolve name
        match ← Act.knownVariable? name with
        | none => if !f.has 'v' && isBash then dropFunction
        | some v =>
          if v.readonly then
            blame command (name ++ (if isBash then ": cannot unset: readonly variable" else ": is read only"))
            if !isBash then throw (.exit 2)
            status := 1
          else
            match subscript with
            | .absent => Act.dropVariable name
            | .all _ => Act.dropVariable name
            | .at pieces =>
              let index ← indexOf x name pieces
              Act.putVariable name { v with value := v.value.erase index }
    return status

end SpeechConfig.Shell
