/-
# Numbers of the 64-bit binary format

The finite numbers that are not negative, as an integer times a power of two, and
the operations on them: the exact result rounded to the nearest such number, a tie
going to the even neighbour.
-/
namespace SpeechConfig

/-- The number `mantissa · 2 ^ exponent`.  The exponent is at least -1074, and the
mantissa has 53 bits unless the exponent is the least one. -/
structure Binary64 where
  mantissa : Nat
  exponent : Int
deriving DecidableEq, Repr, Inhabited

namespace Binary64

def zero : Binary64 := ⟨0, -1074⟩

/-- The quotient rounded to an integer, a half going to the even neighbour. -/
def roundQuotient (num den : Nat) : Nat :=
  let q := num / den
  let r := num % den
  if den < 2 * r ∨ (2 * r = den ∧ q % 2 = 1) then q + 1 else q

/-- Whether `num / den < 2 ^ e`. -/
def belowPower (num den : Nat) (e : Int) : Bool :=
  num * Nat.pow 2 (-e).toNat < den * Nat.pow 2 e.toNat

/-- The quotient of two naturals, the second not zero, rounded; none if it is too
large. -/
def ofQuotient (num den : Nat) : Option Binary64 :=
  if num = 0 then some zero
  else
    let guess : Int := (Nat.log2 num : Int) - Nat.log2 den
    let top := if belowPower num den guess then guess - 1 else guess
    let e := max (top - 52) (-1074)
    let q := roundQuotient (num * Nat.pow 2 (-e).toNat) (den * Nat.pow 2 e.toNat)
    let x : Binary64 := if q = Nat.pow 2 53 then ⟨Nat.pow 2 52, e + 1⟩ else ⟨q, e⟩
    if 971 < x.exponent then none else some x

/-- The number as a quotient of naturals. -/
def toQuotient (x : Binary64) : Nat × Nat :=
  (x.mantissa * Nat.pow 2 x.exponent.toNat, Nat.pow 2 (-x.exponent).toNat)

/-- The product, rounded; none if it is too large. -/
def mul (x y : Binary64) : Option Binary64 :=
  ofQuotient (x.toQuotient.1 * y.toQuotient.1) (x.toQuotient.2 * y.toQuotient.2)

/-- The quotient by a number other than zero, rounded; none if it is too large. -/
def div (x y : Binary64) : Option Binary64 :=
  ofQuotient (x.toQuotient.1 * y.toQuotient.2) (x.toQuotient.2 * y.toQuotient.1)

/-- The power of ten, rounded; zero stands for one that is too large. -/
def powerOfTen (n : Nat) : Binary64 :=
  (ofQuotient (Nat.pow 10 n) 1).getD zero

/-- Divides by `10 ^ n`, at most `10 ^ 308` at a time, in at most `steps` steps. -/
def divPower : Nat → Binary64 → Nat → Binary64
  | 0, x, _ => x
  | steps + 1, x, n =>
    if x.mantissa = 0 then x
    else if n ≤ 308 then (x.div (powerOfTen n)).getD zero
    else divPower steps ((x.div (powerOfTen 308)).getD zero) (n - 308)

/-- The number written as `digits · 10 ^ exponent`: the digits are rounded first
and the power of ten is applied to the rounded number.  None if it is too large. -/
def ofDecimal (digits : Nat) (exponent : Int) : Option Binary64 :=
  match ofQuotient digits 1 with
  | none => none
  | some x =>
    if exponent < 0 then some (divPower 4 x (-exponent).toNat)
    else if exponent ≤ 308 then x.mul (powerOfTen exponent.toNat)
    else if x.mantissa = 0 then some x else none

end Binary64
end SpeechConfig
