/-
# Variables

Looking variables up and giving them values.  Lists keep their numbers in order.  Tables
come in the order of a hash of their keys, the newest first among equals, because that is
the order in which a shell shows them.
-/
import SpeechConfig.Shell.Stream
import SpeechConfig.Shell.Syntax.Printed

namespace SpeechConfig.Shell

/-! ## Values -/

/-- The number by which tables put a key into one of their 1024 drawers. -/
def drawerOf (key : String) : Nat :=
  key.toList.foldl (fun h c =>
    let n := c.toNat
    let low := (h * 16777619) % 4294967296
    low ^^^ (if n < 128 then n else 4294967296 - 256 + n)) 2166136261 % 1024

/-- The entries of a table in the order in which they are shown. -/
def shownEntries (entries : List (String × String)) : List (String × String) :=
  (entries.map fun e => (drawerOf e.1, e)).mergeSort (fun a b => a.1 ≤ b.1) |>.map Prod.snd

/-- Sets the text at a number of a list. -/
def putNumbered (entries : List (Nat × String)) (i : Nat) (s : String) : List (Nat × String) :=
  match entries with
  | [] => [(i, s)]
  | (j, t) :: rest =>
    if j < i then (j, t) :: putNumbered rest i s
    else if j = i then (i, s) :: rest
    else (i, s) :: (j, t) :: rest

/-- Sets the text at a key of a table; a new key comes first. -/
def putKeyed (entries : List (String × String)) (key s : String) : List (String × String) :=
  if entries.any fun e => e.1 == key then
    entries.map fun e => if e.1 == key then (key, s) else e
  else (key, s) :: entries

namespace Value

/-- The texts of a value in their order. -/
def texts : Value → List String
  | .missing => []
  | .text s => [s]
  | .list entries => entries.map Prod.snd
  | .table entries => (shownEntries entries).map Prod.snd

/-- The numbers or keys of a value in their order. -/
def keys : Value → List String
  | .missing => []
  | .text _ => ["0"]
  | .list entries => entries.map fun e => Nat.repr e.1
  | .table entries => (shownEntries entries).map Prod.fst

/-- The text that a value is where one text is wanted. -/
def text? : Value → Option String
  | .missing => none
  | .text s => some s
  | .list entries => entries.lookup 0
  | .table entries => entries.lookup "0"

end Value

/-- Which part of a variable is meant. -/
inductive Index where
  | number (n : Nat)
  | key (s : String)
deriving DecidableEq, Repr

def Value.at? (v : Value) : Index → Option String
  | .number n =>
    match v with
    | .text s => if n = 0 then some s else none
    | .list entries => entries.lookup n
    | .table entries => entries.lookup (Nat.repr n)
    | .missing => none
  | .key s =>
    match v with
    | .table entries => entries.lookup s
    | _ => none

def Value.put (v : Value) (index : Index) (s : String) : Value :=
  match v, index with
  | .table entries, .key k => .table (putKeyed entries k s)
  | .table entries, .number n => .table (putKeyed entries (Nat.repr n) s)
  | .list entries, .number n => .list (putNumbered entries n s)
  | .text t, .number n => .list (putNumbered [(0, t)] n s)
  | .missing, .number n => .list [(n, s)]
  | .missing, .key k => .table [(k, s)]
  | v, .key _ => v

/-- A value without the text at an index. -/
def Value.erase (v : Value) : Index → Value
  | .number n =>
    match v with
    | .list entries => .list (entries.filter fun e => e.1 != n)
    | .table entries => .table (entries.filter fun e => e.1 != Nat.repr n)
    | .text s => if n = 0 then .missing else .text s
    | .missing => .missing
  | .key k =>
    match v with
    | .table entries => .table (entries.filter fun e => e.1 != k)
    | v => v

/-! ## Reports -/

namespace Act

/-- Reports what is wrong on the line the shell has come to; `command` is the command that
says so in the small language. -/
def complainOf (command message : String) : Act Unit := do
  let p ← process
  if p.dialect = .bash then warn (p.label ++ ": line " ++ Nat.repr p.line ++ ": " ++ message)
  else
    let who := if command.isEmpty then "" else command ++ ": "
    warn (p.label ++ ": " ++ Nat.repr p.line ++ ": " ++ who ++ message)

/-- Reports what is wrong on the line the shell has come to. -/
def complain (message : String) : Act Unit := do
  complainOf (← process).command message

/-- Reports what is wrong and sets the status. -/
def fail (status : Nat) (message : String) : Act Unit := do
  complain message
  setStatus status

/-! ## Looking up -/

/-- The values of parameters and of variables that follow the shell. -/
def computed? (name : String) : Act (Option Value) := do
  let p ← process
  let named (n : Nat) : Act (Option Value) := return some (.text (Nat.repr n))
  let calls := p.frames.filter Frame.isFunction
  match name with
  | "?" => named p.status
  | "$" => named p.main
  | "#" => named p.parameters.length
  | "!" => return some (match p.lastJob with
    | some n => .text (Nat.repr n)
    | none => .missing)
  | "-" =>
    let letter (option : String) (c : Char) : List Char := if p.options.contains option then [c] else []
    let letters := letter "allexport" 'a' ++ letter "errexit" 'e' ++ letter "noglob" 'f' ++
      letter "hashall" 'h' ++ letter "monitor" 'm' ++ letter "noexec" 'n' ++ letter "nounset" 'u' ++
      letter "verbose" 'v' ++ letter "xtrace" 'x' ++ letter "braceexpand" 'B' ++
      letter "noclobber" 'C' ++ letter "errtrace" 'E' ++ letter "functrace" 'T' ++
      letter "command" 'c' ++ letter "stdin" 's'
    return some (.text (String.ofList letters))
  | "0" => return some (.text p.name)
  | "LINENO" => if p.dialect = .bash then named p.line else return none
  | "BASHPID" => if p.dialect = .bash then named p.number else return none
  | "BASH_SUBSHELL" => if p.dialect = .bash then named p.depth else return none
  | "SECONDS" => if p.dialect = .bash then named (((← world).clock - 1000000) / 1000000) else return none
  | "RANDOM" =>
    if p.dialect = .bash then
      let next := (p.random * 1103515245 + 12345) % 2147483648
      update fun p => { p with random := next }
      named (next / 65536)
    else return none
  | "PIPESTATUS" =>
    if p.dialect = .bash then
      return some (.list ((List.range p.pipeStatus.length).zip (p.pipeStatus.map Nat.repr)))
    else return none
  | "FUNCNAME" =>
    if p.dialect = .bash && !calls.isEmpty then
      let names := p.frames.map Frame.name ++ ["main"]
      return some (.list ((List.range names.length).zip names))
    else return none
  | "BASH_SOURCE" =>
    if p.dialect = .bash then
      let names := p.frames.map Frame.source ++ [p.name]
      return some (.list ((List.range names.length).zip names))
    else return none
  | "BASH_LINENO" =>
    if p.dialect = .bash then
      let lines := p.frames.map (fun f => Nat.repr f.line) ++ ["0"]
      return some (.list ((List.range lines.length).zip lines))
    else return none
  | "BASH_COMMAND" => if p.dialect = .bash then return some (.text (p.running.shown false 0)) else return none
  | "_" => if p.dialect = .bash then return some (.text p.lastArgument) else return none
  | "DIRSTACK" =>
    let dirs := p.here :: p.stack
    if p.dialect = .bash then return some (.list ((List.range dirs.length).zip dirs)) else return none
  | _ =>
    match numberIn? 10 name.toList with
    | some n => return some (match p.parameters[n - 1]? with
      | some s => .text s
      | none => .missing)
    | none => return none

/-- The variable that a name leads to over names that stand for names. -/
def resolve (name : String) : Act String := do
  let bindings := (← process).bindings
  let rec go : Nat → String → String
    | 0, name => name
    | n + 1, name =>
      match bindings.lookup name with
      | some v =>
        if v.refers then
          match v.value with
          | .text target => if target.isEmpty then name else go n target
          | _ => name
        else name
      | none => name
  return go 8 name

def knownVariable? (name : String) : Act (Option Variable) := do
  return (← process).bindings.lookup name

def valueOf (name : String) : Act Value := do
  match ← computed? name with
  | some v => return v
  | none =>
    match ← knownVariable? (← resolve name) with
    | some v => return v.value
    | none => return .missing

def textOf (name : String) : Act (Option String) := do
  return (← valueOf name).text?

/-- The text of a variable, empty if it is missing. -/
def textOr (name fallback : String) : Act String := do
  return (← textOf name).getD fallback

/-! ## Changing -/

/-- Puts a variable in the place of the one with its name. -/
def putVariable (name : String) (v : Variable) : Act Unit :=
  update fun p =>
    if p.bindings.any fun e => e.1 == name then
      { p with bindings := p.bindings.map fun e => if e.1 == name then (name, v) else e }
    else { p with bindings := (name, v) :: p.bindings }

def dropVariable (name : String) : Act Unit :=
  update fun p => { p with bindings := p.bindings.filter fun e => e.1 != name }

/-- The message about a variable that may not change. -/
def readonlyMessage (name : String) : Act String := do
  return if ← isBash then name ++ ": readonly variable" else name ++ ": is read only"

/-- A text in the letters that a variable wants. -/
def recased (v : Variable) (s : String) : String :=
  if v.upper then uppered s else if v.lower then lowered s else s

/-- Gives a variable a text as it stands, whatever it was before; false if it may not
change. -/
def assignText (name : String) (index : Option Index) (s : String) : Act Bool := do
  let name ← resolve name
  let old := (← knownVariable? name).getD {}
  if old.readonly then return false
  else
    let s := recased old s
    let value := match index, old.value with
      | none, .list entries => Value.list (putNumbered entries 0 s)
      | none, .table entries => .table (putKeyed entries "0" s)
      | none, _ => .text s
      | some i, v => v.put i s
    let exported := old.exported || (← hasOption "allexport")
    putVariable name { old with value := value, exported := exported }
    if name = "OPTIND" then update fun p => { p with optionOffset := 0 }
    if name = "RANDOM" then update fun p => { p with random := ((integerOf? s).getD 0).natAbs }
    return true

/-- Gives a variable a text; what may not change stays. -/
def setText (name s : String) : Act Unit := do
  let _ ← assignText name none s

/-- Keeps the present state of a variable for the end of the innermost call, unless it is
kept already. -/
def hideInCall (name : String) : Act Unit := do
  let old ← knownVariable? name
  update fun p =>
    match p.frames with
    | [] => p
    | _ =>
      let inner := p.frames.takeWhile fun f => !f.isFunction
      match p.frames.drop inner.length with
      | [] => p
      | f :: rest =>
        if f.hidden.any fun e => e.1 == name then p
        else { p with frames := inner ++ { f with hidden := (name, old) :: f.hidden } :: rest }

def restore (name : String) (old : Option Variable) : Act Unit :=
  match old with
  | some v => putVariable name v
  | none => dropVariable name

/-- The variables that programs get to see. -/
def environment : Act (List (String × String)) := do
  let p ← process
  return p.bindings.filterMap fun e =>
    if e.2.exported then e.2.value.text?.map fun s => (e.1, s) else none

end Act
end SpeechConfig.Shell
