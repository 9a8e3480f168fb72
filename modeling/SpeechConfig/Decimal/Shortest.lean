/-
# Shortest decimal text

The fewest decimal digits that are read back as the same binary number and, of
those, the ones nearest to it.  Numbers from 0.00001 up to 10^16 are written with
a point in place, all others with an exponent; there is always a point or an
exponent.
-/
import SpeechConfig.Decimal.Binary64

namespace SpeechConfig.Decimal

/-- Decimal digits with the point in front of them moved right by `point` places:
the number `0.digits · 10 ^ point`. -/
structure Digits where
  digits : List Char
  point : Int
deriving DecidableEq, Repr

/-- The reals that are rounded to a number, as bounds over a common denominator;
the bounds themselves belong to it exactly if `closed`. -/
structure Interval where
  low : Nat
  high : Nat
  den : Nat
  closed : Bool

/-- The interval of a number other than zero. -/
def interval (x : Binary64) : Interval :=
  let up := Nat.pow 2 x.exponent.toNat
  let lowGap := if x.mantissa = Nat.pow 2 52 ∧ -1074 < x.exponent then 1 else 2
  ⟨(4 * x.mantissa - lowGap) * up, (4 * x.mantissa + 2) * up, 4 * Nat.pow 2 (-x.exponent).toNat,
    x.mantissa % 2 = 0⟩

/-- Whether `d · 10 ^ s` lies in the interval. -/
def Interval.holds (i : Interval) (d : Nat) (s : Int) : Bool :=
  let lhs := d * Nat.pow 10 s.toNat * i.den
  let scale := Nat.pow 10 (-s).toNat
  if i.closed then i.low * scale ≤ lhs && lhs ≤ i.high * scale
  else i.low * scale < lhs && lhs < i.high * scale

/-- The least place `k` with `num / den < 10 ^ k`, looked for from a first guess. -/
def placeFrom : Nat → Nat → Nat → Int → Int
  | 0, _, _, k => k
  | n + 1, num, den, k =>
    if num * Nat.pow 10 (-k).toNat < den * Nat.pow 10 k.toNat then k else placeFrom n num den (k + 1)

/-- The place of the leading digit of `num / den`, counted from the point. -/
def place (num den : Nat) : Int :=
  placeFrom 5 num den (((Nat.log2 num : Int) - Nat.log2 den) * 30103 / 100000 - 1)

/-- The nearest point with last digit in place `s` that lies in the interval. -/
def nearest? (i : Interval) (num den : Nat) (s : Int) : Option Nat :=
  let n := num * Nat.pow 10 (-s).toNat
  let d := den * Nat.pow 10 s.toNat
  let below := n / d
  let rest := n % d
  match i.holds below s, i.holds (below + 1) s with
  | true, true => some (if 2 * rest < d ∨ (2 * rest = d ∧ below % 2 = 0) then below else below + 1)
  | true, false => some below
  | false, true => some (below + 1)
  | false, false => none

/-- Tries `count` digits, then one more, up to seventeen in all. -/
def search (i : Interval) (num den : Nat) (k : Int) : Nat → Nat → Digits
  | 0, count => ⟨Nat.toDigits 10 (num * Nat.pow 10 ((count : Int) - k).toNat / (den * Nat.pow 10 (k - count).toNat)), k⟩
  | tries + 1, count =>
    match nearest? i num den (k - count) with
    | some d =>
      let ds := Nat.toDigits 10 d
      ⟨(ds.reverse.dropWhile (· == '0')).reverse, k + (ds.length - count : Int)⟩
    | none => search i num den k tries (count + 1)

/-- The shortest digits of a number other than zero. -/
def shortest (x : Binary64) : Digits :=
  let (num, den) := x.toQuotient
  search (interval x) num den (place num den) 17 1

def zeros (n : Int) : List Char :=
  List.replicate n.toNat '0'

/-- The text of digits, with the point in place or with an exponent. -/
def Digits.text (d : Digits) : List Char :=
  let n : Int := d.digits.length
  if 0 < d.point ∧ d.point ≤ 16 then
    if n ≤ d.point then d.digits ++ zeros (d.point - n) ++ ['.', '0']
    else d.digits.take d.point.toNat ++ '.' :: d.digits.drop d.point.toNat
  else if -5 < d.point ∧ d.point ≤ 0 then
    ['0', '.'] ++ zeros (-d.point) ++ d.digits
  else
    let e := d.point - 1
    let tail := if n ≤ 1 then [] else '.' :: d.digits.drop 1
    d.digits.take 1 ++ tail ++ ['e', if e < 0 then '-' else '+'] ++ Nat.toDigits 10 e.natAbs

def text (negative : Bool) (x : Binary64) : String :=
  let body := if x.mantissa = 0 then ['0', '.', '0'] else (shortest x).text
  String.ofList (if negative then '-' :: body else body)

end SpeechConfig.Decimal
