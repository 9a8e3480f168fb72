/-
# The machine that runs programs for records

What a running program keeps: its variables and tables, the present record with its fields,
the inputs it reads and the outputs it writes.
-/
import SpeechConfig.Shell.Regex.Read
import SpeechConfig.Shell.Tool.Awk.Value
import SpeechConfig.Shell.Tool.Basic

namespace SpeechConfig.Shell.Awk

/-- What a parameter of a function stands for. -/
inductive Local where
  | value (v : Value)
  | table (i : Nat)
deriving Inhabited

/-- Why a part of a program ends before its end is reached. -/
inductive Break where
  | next
  | nextFile
  | exit
  | fault (status : Nat)
deriving Inhabited

/-- What a running program keeps.  `rest` is what is left of the present input, `argument` is
the place of the next argument, `out` is what was written to the standard output and not yet
passed on, and `pipes` hold what is to be given to commands. -/
structure Machine where
  launch : List String → Act Nat
  program : Program := {}
  vars : Std.HashMap String Value := {}
  names : Std.HashMap String Nat := {}
  tables : Array Table := #[]
  frame : List (String × Local) := []
  record : String := ""
  fields : Array Value := #[]
  rest : List Char := []
  size : Nat := 0
  isOpen : Bool := false
  argument : Nat := 1
  sawFile : Bool := false
  files : List (String × Nat) := []
  pipes : List (String × List String) := []
  readers : List (String × List Char) := []
  out : List String := []
  regexes : Std.HashMap String Regex := {}
  ranges : Array Bool := #[]
  status : Nat := 0
  seed : Nat := 1

/-- A part of the run of a program. -/
abbrev Run (α : Type) := ExceptT Break (StateT Machine Act) α

namespace Run

def act {α : Type} (a : Act α) : Run α :=
  ExceptT.lift (StateT.lift a)

def fail {α : Type} (message : String) : Run α := do
  act (Act.warn ("awk: " ++ message))
  throw (.fault 2)

/-! ## Variables -/

def valueOf (name : String) : Run Value := do
  let m ← get
  match m.frame.lookup name with
  | some (.value v) => return v
  | some (.table _) => fail ("line 1: illegal reference to array " ++ name)
  | none => return (m.vars[name]?).getD .unset

def textOf (name : String) : Run String := do
  match ((← get).vars[name]?).getD .unset with
  | .number x => return formattedNumber "%.6g" x
  | v => return v.toText "%.6g"

def text (v : Value) : Run String := do
  match v with
  | .number x => return formattedNumber (← textOf "CONVFMT") x
  | v => return v.toText ""

/-- Sets a variable of the whole program as it is. -/
def put (name : String) (v : Value) : Run Unit :=
  modify fun m => { m with vars := m.vars.insert name v }

/-- The number of the table with a name, which is made if there is none. -/
def tableOf (name : String) : Run Nat := do
  let m ← get
  match m.frame.lookup name with
  | some (.table i) => return i
  | some (.value _) =>
    set { m with
      tables := m.tables.push {}
      frame := (name, .table m.tables.size) :: m.frame.filter fun e => e.1 != name }
    return m.tables.size
  | none =>
    match m.names[name]? with
    | some i => return i
    | none =>
      set { m with tables := m.tables.push {}, names := m.names.insert name m.tables.size }
      return m.tables.size

def table (i : Nat) : Run Table := do
  return (← get).tables.getD i {}

def updateTable (i : Nat) (f : Table → Table) : Run Unit :=
  modify fun m => { m with tables := m.tables.modify i f }

/-! ## Expressions for texts -/

/-- An expression with its escapes for octets resolved. -/
def plainRegex : Nat → List Char → List Char
  | 0, _ => []
  | n + 1, cs =>
    match cs with
    | [] => []
    | '\\' :: c :: rest =>
      match c with
      | 'n' => '\n' :: plainRegex n rest
      | 't' => '\t' :: plainRegex n rest
      | 'r' => '\r' :: plainRegex n rest
      | 'f' => Char.ofNat 12 :: plainRegex n rest
      | 'v' => Char.ofNat 11 :: plainRegex n rest
      | 'a' => Char.ofNat 7 :: plainRegex n rest
      | 'b' => Char.ofNat 8 :: plainRegex n rest
      | '/' => '/' :: plainRegex n rest
      | '"' => '"' :: plainRegex n rest
      | c =>
        let digits := ((c :: rest).take 3).takeWhile fun d => '0' ≤ d && d ≤ '7'
        if digits.isEmpty then '\\' :: c :: plainRegex n rest
        else Char.ofNat (((numberIn? 8 digits).getD 0) % 256) :: plainRegex n ((c :: rest).drop digits.length)
    | c :: rest => c :: plainRegex n rest

/-- The expression that a text spells. -/
def regexOf (s : String) : Run Regex := do
  match (← get).regexes[s]? with
  | some r => return r
  | none =>
    let style : RegexStyle :=
      { extended := true, strict := false, looseClosers := true, repeatsAgain := true, escapesInSets := true
        backReferences := false, gnu := false }
    match Regex.ofText style (String.ofList (plainRegex (s.length + 1) s.toList)) with
    | .ok (r, _) =>
      modify fun m => { m with regexes := m.regexes.insert s r }
      return r
    | .error _ => fail ("regular expression compile failed (bad class -- [], [^] or [)\n" ++ s)

/-! ## Records and fields -/

def wordsIn (s : String) : List String :=
  let blank (c : Char) : Bool := c == ' ' || c == '\t' || c == '\n'
  (s.toList.splitBy fun a b => blank a == blank b).filterMap fun run =>
    if run.head?.any blank then none else some (String.ofList run)

/-- The parts of a text between matches of an expression that are not empty. -/
def partsBetween (r : Regex) (t : Subject) : Nat → Nat → Nat → List String
  | 0, from_, _ => [String.ofList (t.text.extract from_ t.text.size).toList]
  | n + 1, from_, start =>
    let last := [String.ofList (t.text.extract from_ t.text.size).toList]
    if t.text.size < start then last
    else match r.search? t start with
      | none => last
      | some m =>
        if m.stop = m.start then partsBetween r t n from_ (m.start + 1)
        else String.ofList (t.text.extract from_ m.start).toList :: partsBetween r t n m.stop m.stop

/-- The parts of a text that a separator makes. -/
def split (separator : String) (s : String) : Run (List String) := do
  if s.isEmpty then return []
  else match separator.toList with
  | [' '] => return wordsIn s
  | [] => return s.toList.map String.singleton
  | [c] => return splitAll c s
  | _ =>
    let t := Subject.ofText s
    return partsBetween (← regexOf separator) t (s.length + 2) 0 0

def setFields (fields : Array Value) : Run Unit := do
  modify fun m => { m with fields := fields }
  put "NF" (.ofNat fields.size)

/-- Sets the record, which is split into fields. -/
def setRecord (s : String) : Run Unit := do
  modify fun m => { m with record := s }
  let separator ← textOf "FS"
  let parts ← if (← textOf "RS").isEmpty && separator ≠ " " && !s.isEmpty then do
      let mut all : List String := []
      for line in splitAll '\n' s do
        all := all ++ (← split separator line)
      pure all
    else split separator s
  setFields (parts.map Value.input).toArray

/-- Makes the record anew from its fields. -/
def joinRecord : Run Unit := do
  let separator ← textOf "OFS"
  let texts ← (← get).fields.toList.mapM text
  modify fun m => { m with record := separator.intercalate texts }

def field (n : Nat) : Run Value := do
  let m ← get
  if n = 0 then return .input m.record else return (m.fields[n - 1]?).getD .unset

def setField (n : Nat) (v : Value) : Run Unit := do
  if n = 0 then setRecord (← text v)
  else
    let fields := (← get).fields
    let fields := if fields.size < n then fields ++ Array.replicate (n - fields.size) Value.unset else fields
    setFields (fields.setIfInBounds (n - 1) v)
    joinRecord

def assign (name : String) (v : Value) : Run Unit := do
  let m ← get
  if (m.frame.lookup name).isSome then
    modify fun m => { m with frame := m.frame.map fun e => if e.1 == name then (name, .value v) else e }
  else
    put name v
    if name = "NF" then
      let n := (wholePart v.toNumber).toNat
      let fields := (← get).fields
      setFields (if n ≤ fields.size then fields.extract 0 n
        else fields ++ Array.replicate (n - fields.size) Value.unset)
      joinRecord

/-! ## Outputs -/

/-- Passes on what was written to the standard output. -/
def flush : Run Unit := do
  let m ← get
  if !m.out.isEmpty then
    set { m with out := [] }
    act (Act.put 1 (String.join m.out.reverse))

/-- Runs a command; `input` is what it is given, and the result is what it wrote, if that is
asked for, and its status. -/
def runCommand (command : String) (input : Option String) (captures : Bool) : Run (String × Nat) := do
  flush
  let launch := (← get).launch
  act (do
    let former := (← Act.process).streams
    if let some text := input then
      let b ← Act.newBuffer { unread := text.toList }
      Act.connect 0 (← Act.register { target := .buffer b })
    let buffer ← if captures then do
        let b ← Act.newBuffer {}
        Act.connect 1 (← Act.register { target := .buffer b })
        pure (some b)
      else pure none
    let status ← launch ["sh", "-c", command]
    Act.update fun p => { p with streams := former }
    match buffer with
    | some b => return (← Act.bufferText b, status)
    | none => return ("", status))

/-- Writes a text to where a statement sends it. -/
def write (goal : Option (OutputKind × String)) (s : String) : Run Unit := do
  match goal with
  | none | some (.fresh, "/dev/stdout") | some (.extend, "/dev/stdout") | some (.fresh, "-") =>
    modify fun m => { m with out := s :: m.out }
  | some (.command, command) =>
    let m ← get
    match m.pipes.lookup command with
    | some parts =>
      modify fun m => { m with pipes := m.pipes.map fun e => if e.1 == command then (command, s :: parts) else e }
    | none =>
      flush
      modify fun m => { m with pipes := m.pipes ++ [(command, [s])] }
  | some (_, "/dev/stderr") => act (Act.put 2 s)
  | some (kind, path) =>
    let index ← match (← get).files.lookup path with
      | some i => pure i
      | none =>
        match ← act (Act.openToWrite path (if kind = .fresh then .fresh else .extend)) with
        | .ok i =>
          modify fun m => { m with files := (path, i) :: m.files }
          pure i
        | .error e => fail ("cannot open \"" ++ path ++ "\" for output (" ++ e.reason ++ ")")
    if let some f := (← act Act.world).opened[index]? then
      let _ ← act (Act.writeOpened index f s)

/-- Gives a command what was written for it, and runs it. -/
def finishPipe (command : String) (parts : List String) : Run Nat := do
  modify fun m => { m with pipes := m.pipes.filter fun e => e.1 != command }
  return (← runCommand command (some (String.join parts.reverse)) false).2

def close (name : String) : Run Int := do
  let m ← get
  if let some parts := m.pipes.lookup name then return (← finishPipe name parts : Nat)
  else if (m.files.lookup name).isSome then
    set { m with files := m.files.filter fun e => e.1 != name }
    return 0
  else if (m.readers.lookup name).isSome then
    set { m with readers := m.readers.filter fun e => e.1 != name }
    return 0
  else return -1

def finishOutputs : Run Unit := do
  for (command, parts) in (← get).pipes do
    let m ← get
    set { m with out := [] }
    let _ ← finishPipe command parts
    modify fun n => { n with out := n.out ++ m.out }
  flush

/-! ## Inputs -/

/-- Takes a record from a text. -/
def takeRecord (cs : List Char) : Run (Option (String × List Char)) := do
  let separator ← textOf "RS"
  match separator.toList with
  | [] =>
    let cs := cs.dropWhile (· == '\n')
    if cs.isEmpty then return none
    else
      let rec paragraph : Nat → List Char → List Char → List Char × List Char
        | 0, taken, rest => (taken, rest)
        | n + 1, taken, rest =>
          match rest with
          | [] => (taken, [])
          | '\n' :: '\n' :: more => (taken, more.dropWhile (· == '\n'))
          | ['\n'] => (taken, [])
          | c :: more => paragraph n (c :: taken) more
      let (taken, rest) := paragraph (cs.length + 1) [] cs
      return some (String.ofList taken.reverse, rest)
  | [c] =>
    if cs.isEmpty then return none
    else
      let line := cs.takeWhile (· != c)
      return some (String.ofList line, cs.drop (line.length + 1))
  | _ =>
    if cs.isEmpty then return none
    else
      let t : Subject := { text := cs.toArray }
      match (← regexOf separator).search? t 0 with
      | some m =>
        if m.stop = m.start then return some (String.ofList cs, [])
        else return some (String.ofList (cs.take m.start), cs.drop m.stop)
      | none => return some (String.ofList cs, [])

/-- Reads a setting such as `name=text`, if a word is one. -/
def setting? (s : String) : Option (String × String) :=
  match splitFirst? '=' s with
  | some (name, value) =>
    match name.toList with
    | c :: cs =>
      if (isAlpha c || c == '_') && cs.all (fun c => isAlnum c || c == '_') then
        some (name, String.ofList (unescaped (value.length + 1) value.toList))
      else none
    | [] => none
  | none => none

def openInput (path : String) : Run Unit := do
  match ← act (Tool.readInput path) with
  | .ok s =>
    modify fun m => { m with rest := s.toList, size := s.length, isOpen := true, sawFile := true }
    put "FILENAME" (.text (if path = "-" then "" else path))
    put "FNR" (.number 0)
  | .error e => fail ("cannot open \"" ++ path ++ "\" (" ++ e.reason ++ ")")

/-- Opens the next input that the arguments name: whether there is one. -/
def openNext : Nat → Run Bool
  | 0 => return false
  | n + 1 => do
    let count := (wholePart ((← valueOf "ARGC").toNumber)).toNat
    let m ← get
    if m.argument < count then
      set { m with argument := m.argument + 1 }
      let arguments ← table (← tableOf "ARGV")
      let word ← text (arguments.value (.whole m.argument))
      if word.isEmpty then openNext n
      else match setting? word with
      | some (name, value) =>
        assign name (.input value)
        openNext n
      | none =>
        openInput word
        return true
    else if m.sawFile then return false
    else
      openInput "-"
      return true

def nextRecord : Nat → Run (Option String)
  | 0 => return none
  | n + 1 => do
    let m ← get
    let found ← if m.isOpen then takeRecord m.rest else pure none
    match found with
    | some (s, rest) =>
      modify fun m => { m with rest := rest }
      return some s
    | none =>
      modify fun m => { m with isOpen := false }
      if ← openNext 10000 then nextRecord n else return none

def countRecord (name : String) : Run Unit := do
  put name (.number ((← valueOf name).toNumber + 1))

end Run
end SpeechConfig.Shell.Awk
