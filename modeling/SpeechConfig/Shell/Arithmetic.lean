/-
# Arithmetic

Expressions are worked out while they are read.  Numbers have 64 bits and wrap around.  A
variable is worth what its text is worth as an expression of its own.  A fault is reported
with the expression and with what was left of it when the fault was met.
-/
import SpeechConfig.Shell.Variable

namespace SpeechConfig.Shell

/-- A number as 64 bits hold it. -/
def wrap (x : Int) : Int :=
  x.bmod 0x10000000000000000

/-- Why an expression has no value. -/
structure Miscalculation where
  expression : String
  reason : String
  token : String
deriving DecidableEq, Repr

inductive Sign where
  | finish
  | number
  | name
  | operator (text : String)
deriving DecidableEq, Repr, Inhabited

/-- What an expression can assign to: a variable, with the text of a subscript. -/
structure Assignee where
  name : String
  subscript : Option String
deriving DecidableEq, Repr, Inhabited

/-- An expression at work: the text, what is left of it, and what was left at the last
token; the present token and the one before it; its value and what it can be assigned to.
In parts that do not count, `quiet` is not zero. -/
structure Calculation where
  expression : List Char
  rest : List Char
  last : List Char := []
  present : Sign := .finish
  former : Sign := .finish
  value : Int := 0
  assignee : Option Assignee := none
  combined : String := ""
  quiet : Nat := 0
deriving Inhabited

abbrev Calculate (α : Type) := StateT Calculation (ExceptT Miscalculation Act) α

def miscalculate {α : Type} (reason : String) : Calculate α := do
  let c ← get
  throw ⟨String.ofList (c.expression.dropWhile isSpace), reason, String.ofList c.last⟩

/-! ## Numbers -/

/-- Reads digits in bases up to 64. -/
def readConstant (base : Nat) (value : Int) (hasBase : Bool) :
    List Char → Except String Int
  | [] => .ok (wrap value)
  | c :: rest =>
    if c = '#' then
      if hasBase then .error "invalid number"
      else if value < 2 ∨ 64 < value then .error "invalid arithmetic base"
      else if rest.head?.any fun d => isAlnum d || d == '@' || d == '_' then
        readConstant value.toNat 0 true rest
      else .error "invalid integer constant"
    else
      let digit : Nat :=
        if isDigit c then c.toNat - 48
        else if isLower c then c.toNat - 87
        else if isUpper c then c.toNat - (if base ≤ 36 then 55 else 29)
        else if c = '@' then 62
        else 63
      if base ≤ digit then .error "value too great for base"
      else readConstant base (wrap (value * base + digit)) hasBase rest

def constantOf (cs : List Char) : Except String Int :=
  match cs with
  | ['0'] => .ok 0
  | '0' :: x :: rest =>
    if x = 'x' ∨ x = 'X' then
      if rest.isEmpty then .error "invalid number" else readConstant 16 0 true rest
    else readConstant 8 0 true (x :: rest)
  | _ => readConstant 10 0 false cs

/-- A power with a whole exponent, kept to 64 bits. -/
def powerOf (base : Int) : Nat → Nat → Int
  | 0, _ => 1
  | _, 0 => 1
  | steps + 1, e =>
    let half := powerOf base steps (e / 2)
    let square := wrap (half * half)
    if e % 2 = 1 then wrap (square * base) else square

/-- A number shifted to the left, as the machine does it. -/
def shiftLeft (x y : Int) : Int :=
  wrap (x * Int.ofNat (Nat.pow 2 (y % 64).toNat))

/-- A number shifted to the right, as the machine does it. -/
def shiftRight (x y : Int) : Int :=
  x.fdiv (Int.ofNat (Nat.pow 2 (y % 64).toNat))

/-- A bitwise operation on 64 bits. -/
def bitwise (f : Nat → Nat → Nat) (x y : Int) : Int :=
  let bits (z : Int) : Nat := (z % 0x10000000000000000).toNat
  wrap (f (bits x) (bits y))

/-- The value of an operation with two operands, which is not a division by zero. -/
def operate (operator : String) (x y : Int) : Int :=
  let truth (b : Bool) : Int := if b then 1 else 0
  match operator with
  | "+" => wrap (x + y)
  | "-" => wrap (x - y)
  | "*" => wrap (x * y)
  | "/" => wrap (x.tdiv y)
  | "%" => wrap (x.tmod y)
  | "<<" => shiftLeft x y
  | ">>" => shiftRight x y
  | "<" => truth (x < y)
  | ">" => truth (y < x)
  | "<=" => truth (x ≤ y)
  | ">=" => truth (y ≤ x)
  | "==" => truth (x = y)
  | "!=" => truth (x ≠ y)
  | "&" => bitwise (· &&& ·) x y
  | "^" => bitwise (· ^^^ ·) x y
  | "|" => bitwise (· ||| ·) x y
  | "&&" => truth (x ≠ 0 ∧ y ≠ 0)
  | "||" => truth (x ≠ 0 ∨ y ≠ 0)
  | _ => y

/-- The operators of each rank, the weakest first. -/
def ranks : List (List String) :=
  [["||"], ["&&"], ["|"], ["^"], ["&"], ["==", "!="], ["<=", ">=", "<", ">"], ["<<", ">>"],
    ["+", "-"], ["*", "/", "%"]]

/-! ## Tokens -/

/-- The operators of more than one character, longer ones first. -/
def longSigns : List String :=
  ["==", "!=", ">=", "<=", "<<", ">>", "&&", "||", "**"]

/-- The characters that are operators alone. -/
def shortSigns : List Char :=
  ['=', '>', '<', '+', '-', '*', '/', '%', '!', '(', ')', '&', '|', '^', '~', '?', ':', ',']

/-- The subscript behind a name, and what is behind it. -/
def subscriptBehind? (cs : List Char) : Option (Option String × List Char) :=
  match cs with
  | '[' :: rest =>
    let rec go (depth : Nat) (taken : List Char) : List Char → Option (List Char × List Char)
      | [] => none
      | c :: cs =>
        if c = '[' then go (depth + 1) (c :: taken) cs
        else if c = ']' then
          match depth with
          | 0 => some (taken.reverse, cs)
          | d + 1 => go d (c :: taken) cs
        else go depth (c :: taken) cs
    (go 0 [] rest).map fun r => (some (String.ofList r.1), r.2)
  | _ => some (none, cs)

/-- Whether a text goes on with an equals sign that assigns. -/
def assignsNext (cs : List Char) : Bool :=
  match cs.dropWhile isSpace with
  | '=' :: '=' :: _ => false
  | '=' :: _ => true
  | _ => false

def accept (s : Sign) (rest : List Char) : Calculate Unit :=
  modify fun c => { c with former := c.present, present := s, rest := rest }

/-- The variables as an expression sees them: how one is worked out, and how one is set. -/
structure Ledger where
  valueOf : Assignee → Calculate Int
  assign : Assignee → Int → Calculate Unit

def readSign (ledger : Ledger) : Calculate Unit := do
  let c ← get
  let cs := c.rest.dropWhile isSpace
  match cs with
  | [] => modify fun c => { c with former := c.present, present := .finish, rest := [] }
  | x :: more =>
    set { c with last := cs, rest := cs }
    if startsName x then
      let name := cs.takeWhile isNameChar
      match subscriptBehind? (cs.drop name.length) with
      | none => miscalculate "bad array subscript"
      | some (subscript, rest) =>
        let a : Assignee := ⟨String.ofList name, subscript⟩
        let isStep := c.present == .operator "++x" || c.present == .operator "--x"
        let value ← if c.quiet > 0 then pure 0
          else if isStep || !assignsNext rest then ledger.valueOf a
          else pure 0
        modify fun c => { c with value := value, assignee := some a }
        accept .name rest
    else if isDigit x then
      let digits := cs.takeWhile fun d => isAlnum d || d == '#' || d == '@' || d == '_'
      match constantOf digits with
      | .error reason => miscalculate reason
      | .ok value =>
        modify fun c => { c with value := value }
        accept .number (cs.drop digits.length)
    else
      match longSigns.find? fun s => s.toList.isPrefixOf cs with
      | some s =>
        let behind := cs.drop 2
        if (s = "<<" ∨ s = ">>") ∧ behind.head? = some '=' then
          modify fun c => { c with combined := s }
          accept (.operator "op=") (behind.drop 1)
        else accept (.operator s) behind
      | none =>
        if (x = '-' ∨ x = '+') ∧ more.head? = some x then
          let behind := more.drop 1
          let both := String.ofList [x, x]
          if c.present = .name then accept (.operator ("x" ++ both)) behind
          else if c.present = .number ∧ (c.former = .operator "++x" ∨ c.former = .operator "--x") then
            miscalculate (both ++ ": assignment requires lvalue")
          else if (behind.dropWhile isSpace).head?.any startsName then
            accept (.operator (both ++ "x")) behind
          else accept (.operator (String.singleton x)) more
        else if more.head? = some '=' ∧ "*/%+-&^|".toList.contains x then
          modify fun c => { c with combined := String.singleton x }
          accept (.operator "op=") (more.drop 1)
        else if shortSigns.contains x then accept (.operator (String.singleton x)) more
        else
          match c.present with
          | .number | .name => miscalculate "syntax error: invalid arithmetic operator"
          | _ => miscalculate "syntax error: operand expected"

def atOperator (s : String) : Calculate Bool := do
  return (← get).present == .operator s

/-- Reads something that does not count if a condition holds. -/
def quietIf {α : Type} (c : Bool) (read : Calculate α) : Calculate α := do
  if c then
    modify fun s => { s with quiet := s.quiet + 1 }
    let x ← read
    modify fun s => { s with quiet := s.quiet - 1 }
    return x
  else read

/-- Notes that a value came out of an operation. -/
def computed : Calculate Unit :=
  modify fun c => { c with former := .number }

mutual

/-- Reads expressions with commas between them; the last one counts. -/
def commas (ledger : Ledger) : Nat → Calculate Int
  | 0 => miscalculate "expression recursion level exceeded"
  | n + 1 => do
    let mut value ← assignments ledger n
    for _ in [0:n] do
      if ← atOperator "," then
        readSign ledger
        value ← assignments ledger n
      else break
    return value

/-- Reads an expression that may be an assignment. -/
def assignments (ledger : Ledger) : Nat → Calculate Int
  | 0 => miscalculate "expression recursion level exceeded"
  | n + 1 => do
    let value ← choices ledger n
    let c ← get
    let combines := c.present == .operator "op="
    if combines || c.present == .operator "=" then
      if c.former ≠ .name then miscalculate "attempted assignment to non-variable"
      else match c.assignee with
      | none => miscalculate "syntax error in variable assignment"
      | some a =>
        let operator := c.combined
        readSign ledger
        let new ← assignments ledger n
        let result ←
          if !combines then pure new
          else if (operator = "/" ∨ operator = "%") ∧ new = 0 then
            if (← get).quiet = 0 then miscalculate "division by 0" else pure 0
          else pure (operate operator value new)
        if (← get).quiet = 0 then ledger.assign a result
        return result
    else return value

/-- Reads an expression that may be a choice. -/
def choices (ledger : Ledger) : Nat → Calculate Int
  | 0 => miscalculate "expression recursion level exceeded"
  | n + 1 => do
    let test ← ranked ledger n ranks
    if ← atOperator "?" then
      let first ← quietIf (test = 0) do
        readSign ledger
        if (← get).present == .finish || (← atOperator ":") then miscalculate "expression expected"
        commas ledger n
      if !(← atOperator ":") then miscalculate "\x60:' expected for conditional expression"
      let second ← quietIf (test ≠ 0) do
        readSign ledger
        if (← get).present == .finish then miscalculate "expression expected"
        choices ledger n
      computed
      return if test ≠ 0 then first else second
    else return test

/-- Reads operations of a rank and of those above it. -/
def ranked (ledger : Ledger) : Nat → List (List String) → Calculate Int
  | 0, _ => miscalculate "expression recursion level exceeded"
  | n + 1, [] => powers ledger n
  | n + 1, operators :: higher => do
    let mut value ← ranked ledger n higher
    for _ in [0:n] do
      match (← get).present with
      | .operator s =>
        if operators.contains s then
          let behind := (← get).rest
          let skips := (s == "||" && value != 0) || (s == "&&" && value == 0)
          let right ← quietIf skips do
            readSign ledger
            ranked ledger n higher
          if (s = "/" ∨ s = "%") ∧ right = 0 then
            if (← get).quiet = 0 then
              modify fun c => { c with last := behind.dropWhile isSpace }
              miscalculate "division by 0"
          else
            value := operate s value right
          if s = "||" ∨ s = "&&" ∨ s = "|" ∨ s = "^" ∨ s = "&" ∨ operators.length > 1 then computed
        else break
      | _ => break
    return value

/-- Reads powers, from the right. -/
def powers (ledger : Ledger) : Nat → Calculate Int
  | 0 => miscalculate "expression recursion level exceeded"
  | n + 1 => do
    let base ← signed ledger n
    if ← atOperator "**" then
      readSign ledger
      let exponent ← powers ledger n
      computed
      if exponent < 0 then miscalculate "exponent less than 0"
      else return powerOf base 64 exponent.toNat
    else return base

/-- Reads operands with signs in front. -/
def signed (ledger : Ledger) : Nat → Calculate Int
  | 0 => miscalculate "expression recursion level exceeded"
  | n + 1 => do
    let apply (f : Int → Int) : Calculate Int := do
      readSign ledger
      let x ← signed ledger n
      computed
      return f x
    match (← get).present with
    | .operator "!" => apply fun x => if x = 0 then 1 else 0
    | .operator "~" => apply fun x => wrap (-x - 1)
    | .operator "-" => apply fun x => wrap (-x)
    | .operator "+" => apply id
    | _ => operands ledger n

/-- Reads a number, a variable, or an expression in parentheses. -/
def operands (ledger : Ledger) : Nat → Calculate Int
  | 0 => miscalculate "expression recursion level exceeded"
  | n + 1 => do
    let c ← get
    match c.present with
    | .operator "++x" | .operator "--x" =>
      let step : Int := if c.present == .operator "++x" then 1 else -1
      readSign ledger
      let c ← get
      match c.present, c.assignee with
      | .name, some a =>
        let value := wrap (c.value + step)
        if c.quiet = 0 then ledger.assign a value
        modify fun c => { c with present := .number }
        readSign ledger
        return value
      | _, _ => miscalculate "identifier expected after pre-increment or pre-decrement"
    | .operator "(" =>
      readSign ledger
      let value ← commas ledger n
      if !(← atOperator ")") then miscalculate "missing \x60)'"
      readSign ledger
      return value
    | .number =>
      readSign ledger
      return c.value
    | .name =>
      let ahead ← quietIf true do
        readSign ledger
        return (← get)
      match ahead.present with
      | .operator "x++" | .operator "x--" =>
        let step : Int := if ahead.present == .operator "x++" then 1 else -1
        match c.assignee with
        | some a => if c.quiet = 0 then ledger.assign a (wrap (c.value + step))
        | none => pure ()
        modify fun s => { s with present := .number, former := .name, assignee := c.assignee }
        readSign ledger
        return c.value
      | _ =>
        set c
        readSign ledger
        modify fun s => { s with assignee := if s.present == .name then s.assignee else c.assignee }
        return c.value
    | _ => miscalculate "syntax error: operand expected"

end

/-- Works out a whole expression; blank text is worth nothing. -/
def calculateText (ledger : Ledger) (text : String) : ExceptT Miscalculation Act Int := do
  let cs := text.toList
  if cs.all isSpace then return 0
  else
    let start : Calculation := { expression := cs, rest := cs }
    let whole : Calculate Int := do
      readSign ledger
      let value ← commas ledger (30 * (cs.length + 2))
      if (← get).present ≠ .finish then miscalculate "syntax error in expression"
      return value
    whole.run' start

/-- The index that the text of a subscript stands for in a variable. -/
def indexWith (calculate : String → ExceptT Miscalculation Act Int) (name subscript : String) :
    ExceptT Miscalculation Act Index := do
  let target ← Act.resolve name
  match ← Act.knownVariable? target with
  | some ⟨.table _, _, _, _, _, _, _⟩ => return .key subscript
  | v =>
    let i ← calculate subscript
    let size : Nat := match v.map Variable.value with
      | some (.list entries) => (entries.getLast?.map fun e => e.1 + 1).getD 0
      | some (.text _) => 1
      | _ => 0
    let i := if i < 0 then i + size else i
    if i < 0 then throw ⟨name, "bad array subscript", subscript⟩
    else return .number i.toNat

/-- How variables are worked out and set, `depth` expressions inside each other at most. -/
def ledgerOf : Nat → Ledger
  | 0 =>
    { valueOf := fun _ => miscalculate "expression recursion level exceeded"
      assign := fun _ _ => return () }
  | n + 1 =>
    let calculate (text : String) : ExceptT Miscalculation Act Int :=
      calculateText (ledgerOf n) text
    { valueOf := fun a => do
        let text ← match a.subscript with
          | none => (Act.textOf a.name : Act _)
          | some subscript => do
            let v ← (Act.valueOf a.name : Act _)
            let i ← indexWith calculate a.name subscript
            pure (v.at? i)
        if text.isNone && (← (Act.hasOption "nounset" : Act _)) then
          (Act.complain (a.name ++ ": unbound variable") : Act _)
          (throw (Stop.exit 1) : Act _)
        match text with
        | none => return 0
        | some s => calculate s
      assign := fun a value => do
        let i ← a.subscript.mapM fun subscript => indexWith calculate a.name subscript
        if !(← (Act.assignText a.name i (Int.repr value) : Act _)) then
          (Act.complain (← (Act.readonlyMessage a.name : Act _)) : Act _)
          (throw Stop.abandon : Act _) }

/-- How deep expressions may stand for each other. -/
def calculationDepth : Nat := 1024

def calculate (text : String) : ExceptT Miscalculation Act Int :=
  calculateText (ledgerOf calculationDepth) text

/-- The fault of an expression in words. -/
def Miscalculation.message (m : Miscalculation) : String :=
  if m.reason = "bad array subscript" then m.expression ++ ": " ++ m.reason
  else m.expression ++ ": " ++ m.reason ++ " (error token is \"" ++ m.token ++ "\")"

/-- The fault of an expression in the words of the small language. -/
def Miscalculation.smallMessage (m : Miscalculation) : String :=
  let reason :=
    if m.reason = "division by 0" then "division by zero"
    else if m.reason = "syntax error: operand expected" then "expecting primary"
    else if m.reason = "missing \x60)'" then "expecting ')'"
    else "expecting EOF"
  "arithmetic expression: " ++ reason ++ ": \"" ++ m.expression ++ "\""

end SpeechConfig.Shell
