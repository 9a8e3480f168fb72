/-
# Floating numbers

Numbers with a mantissa of a fixed number of bits, read from text and written with a
number of digits.  What is read is rounded to the mantissa, and what is written is rounded
to its digits, a half going to the even neighbour each time.
-/
import SpeechConfig.Decimal.Binary64
import SpeechConfig.Shell.Octets

namespace SpeechConfig.Shell

/-- A number `mantissa · 2 ^ exponent` with a sign, or none. -/
inductive Floating where
  | finite (negative : Bool) (mantissa : Nat) (exponent : Int)
  | infinite (negative : Bool)
  | invalid (negative : Bool)
deriving DecidableEq, Repr, Inhabited

namespace Floating

/-- The number of bits in the mantissa of a wide number. -/
def wideBits : Nat := 64

/-- The number of bits in the mantissa of a usual number. -/
def usualBits : Nat := 53

def ofInt (x : Int) : Floating :=
  .finite (x < 0) x.natAbs 0

def ofQuotient (bits : Nat) (negative : Bool) (num den : Nat) : Floating :=
  if num = 0 then .finite negative 0 0
  else
    let guess : Int := (Nat.log2 num : Int) - Nat.log2 den
    let top := if Binary64.belowPower num den guess then guess - 1 else guess
    let e := top - (bits - 1 : Nat)
    .finite negative
      (Binary64.roundQuotient (num * Nat.pow 2 (-e).toNat) (den * Nat.pow 2 e.toNat)) e

/-- The largest exponent of ten that is worked out; what is beyond it is infinite or
nothing. -/
def exponentLimit : Nat := 4950

/-- The number `digits · 10 ^ exponent`, rounded. -/
def ofDecimal (bits : Nat) (negative : Bool) (digits : Nat) (exponent : Int) : Floating :=
  if digits = 0 then .finite negative 0 0
  else if exponentLimit < exponent then .infinite negative
  else if exponent < -(2 * exponentLimit : Nat) then .finite negative 0 0
  else ofQuotient bits negative (digits * Nat.pow 10 exponent.toNat) (Nat.pow 10 (-exponent).toNat)

/-- The double number as a quotient with a sign. -/
def ofFloat (x : Float) : Floating :=
  let bits := x.toBits.toNat
  let negative := bits / Nat.pow 2 63 = 1
  let exponent := bits / Nat.pow 2 52 % 2048
  let fraction := bits % Nat.pow 2 52
  if exponent = 2047 then (if fraction = 0 then .infinite negative else .invalid negative)
  else if exponent = 0 then .finite negative fraction (-1074)
  else .finite negative (fraction + Nat.pow 2 52) ((exponent : Int) - 1075)

/-- The number as a quotient of naturals, without its sign. -/
def quotient (mantissa : Nat) (exponent : Int) : Nat × Nat :=
  (mantissa * Nat.pow 2 exponent.toNat, Nat.pow 2 (-exponent).toNat)

/-! ## Reading -/

/-- Whether a text begins with a word, in letters of either case. -/
def beginsWith (word : String) (cs : List Char) : Bool :=
  word.toList.isPrefixOf (cs.map lowerOf)

/-- The exponent behind a letter, and what is behind it; none if there are no digits. -/
def readExponent (letter : Char) (cs : List Char) : Option (Int × List Char) :=
  match cs with
  | c :: rest =>
    if lowerOf c = letter then
      let (negative, rest) := match rest with
        | '-' :: more => (true, more)
        | '+' :: more => (false, more)
        | more => (false, more)
      let digits := rest.takeWhile isDigit
      (numberIn? 10 digits).map fun n =>
        (if negative then -(n : Int) else n, rest.drop digits.length)
    else none
  | [] => none

/-- Reads the number that a text begins with, and returns what is behind it.  What is no
number is worth nothing, and then nothing is taken. -/
def read (bits : Nat) (text : List Char) : Floating × List Char :=
  let cs := text.dropWhile isSpace
  let (negative, cs) := match cs with
    | '-' :: rest => (true, rest)
    | '+' :: rest => (false, rest)
    | rest => (false, rest)
  let pointed (isDigitHere : Char → Bool) (cs : List Char) : List Char × List Char × List Char :=
    let whole := cs.takeWhile isDigitHere
    match cs.drop whole.length with
    | '.' :: rest =>
      let fraction := rest.takeWhile isDigitHere
      if whole.isEmpty && fraction.isEmpty then ([], [], cs)
      else (whole, fraction, rest.drop fraction.length)
    | rest => (whole, [], rest)
  if beginsWith "infinity" cs then (.infinite negative, cs.drop 8)
  else if beginsWith "inf" cs then (.infinite negative, cs.drop 3)
  else if beginsWith "nan" cs then (.invalid negative, cs.drop 3)
  else
    let isHex := beginsWith "0x" cs && (match cs.drop 2 with
      | c :: d :: _ => isHexDigit c || (c == '.' && isHexDigit d)
      | [c] => isHexDigit c
      | [] => false)
    if isHex then
      let (whole, fraction, rest) := pointed isHexDigit (cs.drop 2)
      let digits := (numberIn? 16 (whole ++ fraction)).getD 0
      let (e, rest) := (readExponent 'p' rest).getD (0, rest)
      let e := e - (4 * fraction.length : Nat)
      if e.natAbs ≤ 20000 then
        (ofQuotient bits negative (digits * Nat.pow 2 e.toNat) (Nat.pow 2 (-e).toNat), rest)
      else (.finite negative 0 0, rest)
    else
      let (whole, fraction, rest) := pointed isDigit cs
      if whole.isEmpty && fraction.isEmpty then (.finite false 0 0, text)
      else
        let digits := (numberIn? 10 (whole ++ fraction)).getD 0
        let (e, rest) := (readExponent 'e' rest).getD (0, rest)
        (ofDecimal bits negative digits (e - fraction.length), rest)

/-! ## Writing -/

/-- A number with zeros in front up to a number of digits. -/
def zeroFilled (width : Nat) (digits : String) : String :=
  String.ofList (List.replicate (width - digits.length) '0') ++ digits

/-- A quotient with a fixed number of digits behind the point; `point` says that the point
stands there even without digits. -/
def fixed (num den places : Nat) (point : Bool) : String :=
  let digits := zeroFilled (places + 1)
    (Nat.repr (Binary64.roundQuotient (num * Nat.pow 10 places) den))
  let whole := digits.length - places
  takeText whole digits ++ (if places > 0 then "." ++ dropText whole digits
    else if point then "." else "")

/-- Whether a quotient is below a power of ten. -/
def belowTen (num den : Nat) (e : Int) : Bool :=
  num * Nat.pow 10 (-e).toNat < den * Nat.pow 10 e.toNat

/-- The exponent of ten of a quotient that is not zero. -/
def tenExponent (num den : Nat) : Int :=
  let guess : Int := (((Nat.log2 num : Int) - Nat.log2 den) * 30103).fdiv 100000
  ((List.range 4).map fun k => guess + 2 - (k : Nat)).find? (fun e => !belowTen num den e)
    |>.getD (guess - 2)

/-- The digits of a quotient, `places` of them behind the first, and the exponent of the
first one. -/
def scientific (num den places : Nat) : String × Int :=
  if num = 0 then (zeroFilled (places + 1) "0", 0)
  else
    let e := tenExponent num den
    let shift := (places : Int) - e
    let digits := Nat.repr
      (Binary64.roundQuotient (num * Nat.pow 10 shift.toNat) (den * Nat.pow 10 (-shift).toNat))
    if digits.length = places + 1 then (digits, e) else (takeText (places + 1) digits, e + 1)

/-- An exponent with a sign and at least two digits. -/
def exponentText (e : Int) : String :=
  (if e < 0 then "-" else "+") ++ zeroFilled 2 (Nat.repr e.natAbs)

/-- Digits with a point behind the first one, and an exponent. -/
def withExponent (digits : String) (e : Int) (point : Bool) : String :=
  takeText 1 digits ++ (if digits.length > 1 then "." ++ dropText 1 digits
    else if point then "." else "") ++ "e" ++ exponentText e

/-- A text of digits without the zeros that end it, and without a point at its end. -/
def withoutZeros (s : String) : String :=
  if s.toList.contains '.' then
    let kept := s.toList.reverse.dropWhile (· == '0')
    String.ofList (match kept with
      | '.' :: rest => rest
      | kept => kept).reverse
  else s

/-- A quotient in the shorter of the two forms. -/
def general (num den precision : Nat) (alternate : Bool) : String :=
  let p := max 1 precision
  let (digits, e) := scientific num den (p - 1)
  if e < -4 ∨ (p : Int) ≤ e then
    let digits := if alternate then digits
      else
        let kept := (digits.toList.reverse.dropWhile (· == '0')).reverse
        if kept.isEmpty then "0" else String.ofList kept
    withExponent digits e alternate
  else
    let text := fixed num den ((p : Int) - 1 - e).toNat alternate
    if alternate then text else withoutZeros text

/-- A number in hexadecimal digits, with four bits in front of the point. -/
def hexadecimal (mantissa : Nat) (exponent : Int) (precision : Option Nat) (alternate : Bool) : String :=
  if mantissa = 0 then
    "0x0" ++ (match precision with
      | some (n + 1) => "." ++ zeroFilled (n + 1) ""
      | _ => "") ++ "p+0"
  else
    let bits := Nat.log2 mantissa + 1
    let full := mantissa * Nat.pow 2 (wideBits - bits)
    let e := exponent - (wideBits - bits : Nat)
    let (digits, e) := match precision with
      | some n =>
        if n < 15 then
          let kept := Binary64.roundQuotient full (Nat.pow 16 (15 - n))
          if kept < Nat.pow 16 (n + 1) then (digitsIn 16 kept, e) else (digitsIn 16 (kept / 2), e + 1)
        else (digitsIn 16 full ++ zeroFilled (n - 15) "", e)
      | none =>
        (String.ofList ((digitsIn 16 full).toList.reverse.dropWhile (· == '0')).reverse, e)
    let power := e + 60
    "0x" ++ takeText 1 digits ++ (if digits.length > 1 then "." ++ dropText 1 digits
      else if alternate then "." else "") ++ "p" ++ (if power < 0 then "-" else "+") ++ Nat.repr power.natAbs

def isNegative : Floating → Bool
  | .finite negative _ _ | .infinite negative | .invalid negative => negative

/-- The digits of a number without its sign, as a conversion letter asks for them. -/
def digits (letter : Char) (precision : Option Nat) (alternate : Bool) : Floating → String
  | .infinite _ => "inf"
  | .invalid _ => "nan"
  | .finite _ mantissa exponent =>
    let (num, den) := quotient mantissa exponent
    match lowerOf letter with
    | 'f' => fixed num den (precision.getD 6) alternate
    | 'e' =>
      let (digits, e) := scientific num den (precision.getD 6)
      withExponent digits e alternate
    | 'a' => hexadecimal mantissa exponent precision alternate
    | _ => general num den (precision.getD 6) alternate

/-- The whole part of a number. -/
def truncated : Floating → Int
  | .finite negative mantissa exponent =>
    let (num, den) := quotient mantissa exponent
    let n : Int := (num / den : Nat)
    if negative then -n else n
  | _ => 0

/-- Whether a number is worth no more than another. -/
def le (a b : Floating) : Bool :=
  let rank : Floating → Int
    | .invalid _ => -2
    | .infinite true => -1
    | .finite _ _ _ => 0
    | .infinite false => 1
  match a, b with
  | .finite s m e, .finite t n f =>
    let (x, u) := quotient m e
    let (y, v) := quotient n f
    let left : Int := x * v
    let right : Int := y * u
    (if s then -left else left) ≤ (if t then -right else right)
  | a, b => rank a ≤ rank b

end Floating
end SpeechConfig.Shell
