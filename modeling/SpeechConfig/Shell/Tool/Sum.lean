/-
# Expressions as arguments

A tool that works out what its arguments say: sums, comparisons, and questions about
texts.
-/
import SpeechConfig.Shell.Regex.Read
import SpeechConfig.Shell.Tool.Basic

namespace SpeechConfig.Shell.Tool

/-- Why an expression has no value. -/
inductive ExpressionFault where
  | malformed (message : String)
  | failed (message : String)
deriving Repr

/-- A reader of the words of an expression, which keeps the last word it took. -/
abbrev ExpressionRead (α : Type) := StateT (List String × String) (Except ExpressionFault) α

def refuseExpression {α : Type} (message : String) : ExpressionRead α :=
  throw (.malformed message)

def isNothing (s : String) : Bool :=
  s.isEmpty || (match s.toList with
    | '-' :: cs => !cs.isEmpty && cs.all (· == '0')
    | cs => cs.all (· == '0'))

def wholeNumber? (s : String) : Option Int :=
  match s.toList with
  | '-' :: ds => (numberIn? 10 ds).map fun n => -(n : Int)
  | ds => (numberIn? 10 ds).map Int.ofNat

def takeOneOf (words : List String) : ExpressionRead (Option String) := do
  match ← get with
  | (w :: rest, _) =>
    if words.contains w then
      set (rest, w)
      return some w
    else return none
  | ([], _) => return none

/-- The number of a value, or a fault. -/
def numberOf (s : String) : ExpressionRead Int :=
  match wholeNumber? s with
  | some n => return n
  | none => throw (.failed "non-integer argument")

/-- What a text has in common with an expression, from its start. -/
def matchValue (s pattern : String) : ExpressionRead String := do
  match Regex.ofText { extended := false, strict := false, repeatsAgain := true } pattern with
  | .error f => throw (.failed f.message)
  | .ok (r, groups) =>
    let t := Subject.ofText s
    match r.matchAt? t 0 with
    | some m => return if groups > 0 then m.groupText t 1 else Nat.repr m.stop
    | none => return if groups > 0 then "" else "0"

mutual

def readEither : Nat → Bool → ExpressionRead String
  | 0, _ => refuseExpression "syntax error"
  | n + 1, live => do
    let a ← readBoth n live
    readEitherTail n live a

/-- Reads further alternatives behind a value. -/
def readEitherTail : Nat → Bool → String → ExpressionRead String
  | 0, _, _ => refuseExpression "syntax error"
  | n + 1, live, a => do
    match ← takeOneOf ["|"] with
    | none => return a
    | some _ =>
      let b ← readBoth n (live && isNothing a)
      readEitherTail n live (if !isNothing a then a else if isNothing b then "0" else b)

/-- Reads values that are all wanted. -/
def readBoth : Nat → Bool → ExpressionRead String
  | 0, _ => refuseExpression "syntax error"
  | n + 1, live => do
    let a ← readCompared n live
    readBothTail n live a

/-- Reads further values that are all wanted. -/
def readBothTail : Nat → Bool → String → ExpressionRead String
  | 0, _, _ => refuseExpression "syntax error"
  | n + 1, live, a => do
    match ← takeOneOf ["&"] with
    | none => return a
    | some _ =>
      let b ← readCompared n (live && !isNothing a)
      readBothTail n live (if isNothing a || isNothing b then "0" else a)

def readCompared : Nat → Bool → ExpressionRead String
  | 0, _ => refuseExpression "syntax error"
  | n + 1, live => do
    let a ← readSum n live
    readComparedTail n live a

def readComparedTail : Nat → Bool → String → ExpressionRead String
  | 0, _, _ => refuseExpression "syntax error"
  | n + 1, live, a => do
    match ← takeOneOf ["<", "<=", "=", "==", "!=", ">=", ">"] with
    | none => return a
    | some op =>
      let b ← readSum n live
      let order := match wholeNumber? a, wholeNumber? b with
        | some m, some k => compare m k
        | _, _ => compare a b
      let holds : Bool := match op with
        | "<" => order == .lt
        | "<=" => order != .gt
        | "=" | "==" => order == .eq
        | "!=" => order != .eq
        | ">=" => order != .lt
        | _ => order == .gt
      readComparedTail n live (if holds then "1" else "0")

def readSum : Nat → Bool → ExpressionRead String
  | 0, _ => refuseExpression "syntax error"
  | n + 1, live => do
    let a ← readProduct n live
    readSumTail n live a

def readSumTail : Nat → Bool → String → ExpressionRead String
  | 0, _, _ => refuseExpression "syntax error"
  | n + 1, live, a => do
    match ← takeOneOf ["+", "-"] with
    | none => return a
    | some op =>
      let b ← readProduct n live
      if !live then readSumTail n live "0"
      else
        let x ← numberOf a
        let y ← numberOf b
        readSumTail n live (Int.repr (if op = "+" then x + y else x - y))

def readProduct : Nat → Bool → ExpressionRead String
  | 0, _ => refuseExpression "syntax error"
  | n + 1, live => do
    let a ← readMatched n live
    readProductTail n live a

def readProductTail : Nat → Bool → String → ExpressionRead String
  | 0, _, _ => refuseExpression "syntax error"
  | n + 1, live, a => do
    match ← takeOneOf ["*", "/", "%"] with
    | none => return a
    | some op =>
      let b ← readMatched n live
      if !live then readProductTail n live "0"
      else
        let x ← numberOf a
        let y ← numberOf b
        if op = "*" then readProductTail n live (Int.repr (x * y))
        else if y = 0 then throw (.failed "division by zero")
        else readProductTail n live (Int.repr (if op = "/" then x.tdiv y else x.tmod y))

def readMatched : Nat → Bool → ExpressionRead String
  | 0, _ => refuseExpression "syntax error"
  | n + 1, live => do
    let a ← readOperand n live
    readMatchedTail n live a

def readMatchedTail : Nat → Bool → String → ExpressionRead String
  | 0, _, _ => refuseExpression "syntax error"
  | n + 1, live, a => do
    match ← takeOneOf [":"] with
    | none => return a
    | some _ =>
      let b ← readOperand n live
      let value ← if live then matchValue a b else pure "0"
      readMatchedTail n live value

def readOperand : Nat → Bool → ExpressionRead String
  | 0, _ => refuseExpression "syntax error"
  | n + 1, live => do
    let (words, last) ← get
    let next : ExpressionRead String := readOperand n live
    match words with
    | [] => refuseExpression ("syntax error: missing argument after " ++ quotedName last)
    | "+" :: w :: rest =>
      set (rest, w)
      return w
    | "length" :: rest =>
      set (rest, "length")
      return Nat.repr (← next).length
    | "match" :: rest =>
      set (rest, "match")
      let a ← next
      let b ← next
      matchValue a b
    | "index" :: rest =>
      set (rest, "index")
      let a ← next
      let b ← next
      let place := a.toList.takeWhile fun c => !b.toList.contains c
      return Nat.repr (if place.length = a.length then 0 else place.length + 1)
    | "substr" :: rest =>
      set (rest, "substr")
      let a ← next
      let i ← next
      let k ← next
      match wholeNumber? i, wholeNumber? k with
      | some i, some k => return if i ≤ 0 || k ≤ 0 then "" else takeText k.toNat (dropText (i.toNat - 1) a)
      | _, _ => return ""
    | "(" :: rest =>
      set (rest, "(")
      let a ← readEither n live
      match ← get with
      | (")" :: rest, _) =>
        set (rest, ")")
        return a
      | ([], last) => refuseExpression ("syntax error: expecting ')' after " ++ quotedName last)
      | (w :: _, _) => refuseExpression ("syntax error: expecting ')' instead of " ++ quotedName w)
    | ")" :: _ => refuseExpression "syntax error: unexpected ')'"
    | w :: rest =>
      set (rest, w)
      return w

end

/-- Works out an expression, shows its value, and says whether it is something. -/
def expr : Tool := fun _ args => do
  let args := match args with
    | "--" :: rest => rest
    | args => args
  if args.isEmpty then misuse "expr" "missing operand" 2
  else
    match (readEither (20 * args.length + 40) true).run (args, "") with
    | .error (.malformed message) => report "expr" message 2
    | .error (.failed message) => report "expr" message 2
    | .ok (_, (w :: _, _)) => report "expr" ("syntax error: unexpected argument " ++ quotedName w) 2
    | .ok (value, _) => say "expr" (value ++ "\n") (if isNothing value then 1 else 0)

end SpeechConfig.Shell.Tool
