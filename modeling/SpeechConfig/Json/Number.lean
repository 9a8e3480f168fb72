/-
# Numbers in a document

A number is an optional minus, a whole part without needless zeros, and optional
decimals and exponent.  Integers of 64 bits are kept exactly; every other number
is taken to the nearest number of the 64-bit binary format that its first nineteen
or twenty digits and its power of ten give.
-/
import SpeechConfig.Json.Fault
import SpeechConfig.Decimal.Shortest

namespace SpeechConfig.Json

def isDigit (c : Char) : Bool :=
  '0' ≤ c && c ≤ '9'

def digitValue (c : Char) : Nat :=
  c.toNat - '0'.toNat

/-- The number after the largest of 64 bits. -/
def wordLimit : Nat := Nat.pow 2 64

/-- Reads digits behind `n` while the number stays below 2 ^ 64: the number, how
many digits it took, and the text that is left. -/
def absorbDigits (n taken : Nat) : List Char → Nat × Nat × List Char
  | [] => (n, taken, [])
  | c :: cs =>
    if isDigit c && n * 10 + digitValue c < wordLimit then
      absorbDigits (n * 10 + digitValue c) (taken + 1) cs
    else (n, taken, c :: cs)

def floatingOf (negative : Bool) (digits : Nat) (exponent : Int) : Except Fault Found :=
  match Binary64.ofDecimal digits exponent with
  | some x => .ok (.floating (Decimal.text negative x))
  | none => .error (.malformed .numberOutOfRange)

/-- The limit that the digits of an exponent stay under. -/
def exponentLimit : Nat := Nat.pow 2 31

def readExponent (negative : Bool) (digits : Nat) (scale : Int) (cs : List Char) :
    Except Fault Found :=
  let (down, cs) : Bool × List Char := match cs with
    | '+' :: rest => (false, rest)
    | '-' :: rest => (true, rest)
    | rest => (false, rest)
  match cs with
  | [] => .error (.truncated .value)
  | c :: _ =>
    if isDigit c then
      let e := (cs.takeWhile isDigit).foldl (fun n d => n * 10 + digitValue d) 0
      if e < exponentLimit then
        floatingOf negative digits (if down then scale - e else scale + e)
      else if digits ≠ 0 ∧ !down then .error (.malformed .numberOutOfRange)
      else .ok (.floating (Decimal.text negative .zero))
    else .error (.malformed .invalidNumber)

/-- Reads what follows the decimals: an exponent or nothing. -/
def readTail (negative : Bool) (digits : Nat) (scale : Int) : List Char → Except Fault Found
  | c :: rest =>
    if c = 'e' ∨ c = 'E' then readExponent negative digits scale rest
    else floatingOf negative digits scale
  | [] => floatingOf negative digits scale

def readDecimals (negative : Bool) (digits : Nat) (scale : Int) (cs : List Char) :
    Except Fault Found :=
  match cs with
  | [] => .error (.truncated .value)
  | c :: _ =>
    if isDigit c then
      let (digits, taken, rest) := absorbDigits digits 0 cs
      readTail negative digits (scale - taken) (rest.dropWhile isDigit)
    else .error (.malformed .invalidNumber)

/-- Reads decimals or an exponent behind a whole part that `scale` digits were
dropped from. -/
def readFraction (negative : Bool) (digits : Nat) (scale : Int) : List Char →
    Except Fault Found
  | '.' :: rest => readDecimals negative digits scale rest
  | rest => readTail negative digits scale rest

/-- The number of a whole part of 64 bits: an integer if it fits, and not `-0`. -/
def ofWhole (negative : Bool) (n : Nat) : Except Fault Found :=
  if !negative then .ok (.integer n)
  else if n ≠ 0 ∧ n ≤ Nat.pow 2 63 then .ok (.integer (-n))
  else floatingOf true n 0

/-- What is made of a whole part of which so many digits were dropped, once what stands behind it is
known. -/
def readBehind (negative : Bool) (digits dropped : Nat) (cs : List Char) : Except Fault Found :=
  match cs with
  | '.' :: _ => readFraction negative digits dropped cs
  | 'e' :: _ => readFraction negative digits dropped cs
  | 'E' :: _ => readFraction negative digits dropped cs
  | _ => if dropped = 0 then ofWhole negative digits else floatingOf negative digits dropped

/-- Reads a number behind its sign. -/
def readNumber (negative : Bool) : List Char → Except Fault Found
  | [] => .error (.truncated .value)
  | c :: cs =>
    if !isDigit c then .error (.malformed .invalidNumber)
    else if c = '0' && (cs.head?.any isDigit) then .error (.malformed .invalidNumber)
    else
      let (n, _, rest) := if c = '0' then (0, 0, cs) else absorbDigits (digitValue c) 0 cs
      readBehind negative n (rest.takeWhile isDigit).length (rest.dropWhile isDigit)

end SpeechConfig.Json
