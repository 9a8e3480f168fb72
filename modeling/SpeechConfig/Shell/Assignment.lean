/-
# Assignments

Giving variables values: texts, sums where a variable is a number, lists and tables.
-/
import SpeechConfig.Shell.Expansion
import SpeechConfig.Shell.Syntax.Grammar

namespace SpeechConfig.Shell

/-- Refuses to change a variable: the command it was for is given up. -/
def refuseReadonly {α : Type} (name : String) : Act α := do
  let message ← Act.readonlyMessage name
  abandonWith message

/-- The text that a variable gets: where it is a number, the value of the text. -/
def textFor (v : Variable) (old : Option String) (extend : Bool) (new : String) : Act String := do
  if v.integer then
    let n ← calculateOrAbandon "" new
    if extend then
      let m ← calculateOrAbandon "" (old.getD "")
      return Int.repr (wrap (m + n))
    else return Int.repr n
  else return if extend then old.getD "" ++ new else new

/-- Gives a variable, or the part of it at an index, a text; false if it may not change. -/
def assignOne (name : String) (index : Option Index) (extend : Bool) (text : String) : Act Bool := do
  let target ← Act.resolve name
  let v := (← Act.knownVariable? target).getD {}
  if v.readonly then return false
  else
    let value ← Act.valueOf target
    let old := match index with
      | none => value.text?
      | some i => value.at? i
    Act.assignText name index (← textFor v old extend text)

/-- The value that elements in parentheses make, added to an old one. -/
def valueOfElements (x : Executor) (v : Variable) (start : Value)
    (elements : List Element) : Act Value := do
  let isTable := match start with
    | .table _ => true
    | _ => false
  let mut value := start
  let mut next : Nat := match start with
    | .list entries => (entries.getLast?.map fun e => e.1 + 1).getD 0
    | .text _ => 1
    | _ => 0
  let mut waiting : Option String := none
  for element in elements do
    match element with
    | .mk (some subscript) extend w =>
      let text ← textOfValue x w
      if isTable then
        let key ← textOfPieces x false subscript
        let i := Index.key key
        value := value.put i (Act.recased v (← textFor v (value.at? i) extend text))
      else
        let n ← calculateOrAbandon "" (← textOfPieces x true subscript)
        if n < 0 && (n + next < 0) then
          Act.complain ("[" ++ Int.repr n ++ "]=" ++ text ++ ": bad array subscript")
        else
          let n := (if n < 0 then n + next else n).toNat
          let i := Index.number n
          value := value.put i (Act.recased v (← textFor v (value.at? i) extend text))
          next := n + 1
    | .mk none _ w =>
      for field in ← fieldsOfWord x w do
        if isTable then
          match waiting with
          | none => waiting := some field
          | some key =>
            value := value.put (.key key) (Act.recased v (← textFor v none false field))
            waiting := none
        else
          value := value.put (.number next) (Act.recased v (← textFor v none false field))
          next := next + 1
  match waiting with
  | some key => value := value.put (.key key) ""
  | none => pure ()
  return value

/-- Gives a variable the elements in parentheses. -/
def assignMany (x : Executor) (name : String) (extend : Bool) (elements : List Element) : Act Unit := do
  let target ← Act.resolve name
  let v := (← Act.knownVariable? target).getD {}
  if v.readonly then refuseReadonly target
  let start : Value := match v.value, extend with
    | .table _, false => .table []
    | .table entries, true => .table entries
    | .list entries, true => .list entries
    | .text s, true => .list [(0, s)]
    | _, _ => .list []
  let value ← valueOfElements x v start elements
  let v := (← Act.knownVariable? target).getD {}
  Act.putVariable target { v with value := value }

/-- The lines of a trace of commands begin with this. -/
def tracePrompt (x : Executor) : Act String := do
  let p ← Act.process
  let mark ← match ← Act.textOf "PS4" with
    | none => pure ""
    | some s =>
      if s.toList.any fun c => c == '$' || c == '\x60' || c == '\\' then
        let without ← pure { p with options := p.options.filter (· != "xtrace") }
        Act.update fun _ => without
        let text ← match nextPiecesOf s with
          | some pieces => textOfPieces x true pieces
          | none => pure s
        Act.update fun q => { q with options := p.options, status := p.status }
        pure text
      else pure s
  if p.dialect = .dash then return mark
  else
    match mark.toList with
    | [] => return ""
    | c :: _ => return String.ofList (List.replicate (p.traceDepth - 1) c) ++ mark
where
  /-- The pieces of a text in which quotes mean nothing. -/
  nextPiecesOf (s : String) : Option (List Piece) :=
    match ((readers grammarDepth).pieces .document).run (Source.ofText .bash s) with
    | .ok pieces _ => some pieces
    | .error _ _ => none

/-- Writes a line of the trace, if commands are traced. -/
def trace (x : Executor) (line : Act String) : Act Unit := do
  if ← Act.hasOption "xtrace" then
    let prompt ← tracePrompt x
    Act.warn (prompt ++ (← line))

/-- The elements of a list as they are before a declaration: everything in them is expanded. -/
def settledElements (x : Executor) (isTable : Bool) (elements : List Element) : Act (List Element) := do
  let literal (s : String) : Word := .mk s [.quoted s]
  let settled ← elements.mapM fun e => do
    match e with
    | .mk (some subscript) extend w =>
      let key ← if isTable then textOfPieces x false subscript else pure (plainText subscript)
      return [Element.mk (some [.quoted key]) extend (literal (← textOfValue x w))]
    | .mk none extend w => return (← fieldsOfWord x w).map fun s => Element.mk none extend (literal s)
  return settled.flatten

/-- Expanded elements as the trace shows them. -/
def shownElements (isTable : Bool) (elements : List Element) : String :=
  let quoted (s : String) : String := if needsDollarQuotes s then dollarQuoted s else singleQuoted s
  "(" ++ " ".intercalate (elements.map fun e =>
    match e with
    | .mk (some subscript) extend w =>
      let key := plainText subscript
      "[" ++ (if isTable then quoted key else key) ++ "]" ++ (if extend then "+=" else "=") ++ quoted w.source
    | .mk none _ w => quoted w.source) ++ ")"

/-- Carries out an assignment, and reports it to the trace. -/
def assign (x : Executor) (a : Assignment) : Act Unit := do
  match a with
  | .mk source name subscript extend value =>
    match value with
    | .many elements =>
      trace x (return source)
      assignMany x name extend elements
    | .one w =>
      let text ← textOfValue x w
      let index ← subscript.mapM (indexOf x name)
      trace x do
        let shown := if text.isEmpty then "" else traced text
        let place := match subscript with
          | none => name
          | some _ => String.ofList (source.toList.takeWhile fun c => c != '=' && c != '+')
        return place ++ (if extend then "+=" else "=") ++ shown
      if !(← assignOne name index extend text) then
        refuseReadonly (← Act.resolve name)

end SpeechConfig.Shell
