/-
# Permissions

What the words that change permissions say: octal digits, or clauses such as `u+x,go=r`.
A change keeps the bits that it does not name; what a clause without a class of users
does is narrowed by the mask of new files.
-/
import SpeechConfig.Shell.Octets

namespace SpeechConfig.Shell

/-- Whether a character is a digit of an octal number. -/
def isOctalDigit (c : Char) : Bool :=
  '0' ≤ c && c ≤ '7'

/-- All bits of a mode: the three special ones and three for each class of users. -/
def allModeBits : Nat := 4095

/-- The two bits that a directory keeps unless a change names them. -/
def keptOnDirectories : Nat := 3072

/-- The bits that a change puts in, takes out or sets. -/
inductive ModeValue where
  | bits (n : Nat)
  | copied (n : Nat)
  | searching (n : Nat)
deriving Repr, DecidableEq, Inhabited

/-- One change of a mode.  `affected` is nought if no class of users was named. -/
structure ModeChange where
  operator : Char
  affected : Nat
  value : ModeValue
  mentioned : Nat
deriving Repr, DecidableEq, Inhabited

namespace ModeChange

def without (bits mask : Nat) : Nat :=
  bits - (bits &&& mask)

/-- Gives a permission of any class to all of them. -/
def spread (bits : Nat) : Nat :=
  let each (b : Nat) : Nat := if bits &&& (b * 73) ≠ 0 then b * 73 else 0
  each 4 ||| each 2 ||| each 1

def apply (isDirectory : Bool) (mask mode : Nat) (c : ModeChange) : Nat :=
  let omitted := if isDirectory then without keptOnDirectories c.mentioned else 0
  let value := match c.value with
    | .bits n => n
    | .copied n => spread (n &&& mode)
    | .searching n => if isDirectory || mode &&& 73 ≠ 0 then n ||| 73 else n
  let value := without (value &&& (if c.affected = 0 then without allModeBits mask else c.affected)) omitted
  match c.operator with
  | '+' => mode ||| value
  | '-' => without mode value
  | _ => mode &&& ((if c.affected = 0 then 0 else without allModeBits c.affected) ||| omitted) ||| value

def classBits? : Char → Option Nat
  | 'u' => some 2496
  | 'g' => some 1080
  | 'o' => some 519
  | 'a' => some allModeBits
  | _ => none

/-- The value behind an operator, and what is left. -/
def readValue (cs : List Char) : ModeValue × List Char :=
  match cs with
  | 'u' :: rest => (.copied 448, rest)
  | 'g' :: rest => (.copied 56, rest)
  | 'o' :: rest => (.copied 7, rest)
  | cs =>
    let letters := cs.takeWhile "rwxXst".toList.contains
    let bits := letters.foldl (fun b c => b ||| match c with
      | 'r' => 292
      | 'w' => 146
      | 'x' => 73
      | 's' => 3072
      | 't' => 512
      | _ => 0) 0
    (if letters.contains 'X' then .searching bits else .bits bits, cs.drop letters.length)

def written : ModeValue → Nat
  | .bits n | .copied n | .searching n => n

/-- The changes of one clause behind its classes of users. -/
def readActions (affected : Nat) : Nat → List Char → Option (List ModeChange)
  | 0, _ => none
  | n + 1, cs =>
    match cs with
    | operator :: rest =>
      if "+-=".toList.contains operator then
        let digits := rest.takeWhile isOctalDigit
        if digits.isEmpty then
          let (value, behind) := readValue rest
          let bits := written value
          let change : ModeChange :=
            ⟨operator, affected, value, if affected = 0 then bits else affected &&& bits⟩
          if behind.isEmpty then some [change]
          else (readActions affected n behind).map (change :: ·)
        else
          let number := (numberIn? 8 digits).getD 0
          if affected = 0 ∧ digits.length = rest.length ∧ number ≤ allModeBits then
            some [⟨operator, allModeBits, .bits number, allModeBits⟩]
          else none
      else none
    | [] => none

def readClause (clause : String) : Option (List ModeChange) :=
  let cs := clause.toList
  let classes := cs.takeWhile fun c => (classBits? c).isSome
  let affected := classes.foldl (fun b c => b ||| (classBits? c).getD 0) 0
  readActions affected (cs.length + 1) (cs.drop classes.length)

/-- The changes that a word says; none if it says none. -/
def read? (s : String) : Option (List ModeChange) :=
  let digits := s.toList
  if digits.head?.any isOctalDigit then
    let number := (numberIn? 8 digits).getD (allModeBits + 1)
    if digits.all isOctalDigit && number ≤ allModeBits then
      let mentioned := if digits.length < 5 then (number &&& keptOnDirectories) ||| 1023 else allModeBits
      some [⟨'=', allModeBits, .bits number, mentioned⟩]
    else none
  else (splitAll ',' s).foldl (fun acc clause => do
    let before ← acc
    let more ← readClause clause
    return before ++ more) (some [])

/-- Makes changes one after the other. -/
def applyAll (isDirectory : Bool) (mask mode : Nat) (changes : List ModeChange) : Nat :=
  changes.foldl (fun mode c => c.apply isDirectory mask mode) mode

end ModeChange

/-- The mode that a word says of a file that had another; none if it says none. -/
def changedMode? (isDirectory : Bool) (mask mode : Nat) (s : String) : Option Nat :=
  (ModeChange.read? s).map (ModeChange.applyAll isDirectory mask mode)

end SpeechConfig.Shell
