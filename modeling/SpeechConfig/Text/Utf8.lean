/-
# Reading octets as text

UTF-8 octets read without refusal: wherever the octets stop being the start of a
character, the longest piece that could still have begun one is shown as a single
replacement character, and reading goes on with the octet that did not fit.
-/
namespace SpeechConfig.Text

/-- The character shown in place of octets that form none. -/
def replacement : Char := '\uFFFD'

/-- What an unfinished character still owes: how many octets, the bounds of the
next one, and the bits collected so far. -/
structure Owed where
  count : Nat
  low : Nat
  high : Nat
  bits : Nat
deriving DecidableEq, Repr

/-- What the first octet of a character says. -/
inductive Lead where
  | whole (c : Char)
  | owing (rest : Owed)
  | refused

def lead (octet : UInt8) : Lead :=
  let b := octet.toNat
  if b < 0x80 then .whole (Char.ofNat b)
  else if b < 0xC2 then .refused
  else if b < 0xE0 then .owing ⟨1, 0x80, 0xBF, b - 0xC0⟩
  else if b = 0xE0 then .owing ⟨2, 0xA0, 0xBF, 0⟩
  else if b = 0xED then .owing ⟨2, 0x80, 0x9F, 13⟩
  else if b < 0xF0 then .owing ⟨2, 0x80, 0xBF, b - 0xE0⟩
  else if b = 0xF0 then .owing ⟨3, 0x90, 0xBF, 0⟩
  else if b < 0xF4 then .owing ⟨3, 0x80, 0xBF, b - 0xF0⟩
  else if b = 0xF4 then .owing ⟨3, 0x80, 0x8F, 4⟩
  else .refused

/-- Reads octets, `pending` being the character that is open, if any. -/
def decodeFrom (pending : Option Owed) : List UInt8 → List Char
  | [] => if pending.isSome then [replacement] else []
  | octet :: rest =>
    let start : List Char :=
      match lead octet with
      | .whole c => c :: decodeFrom none rest
      | .owing owed => decodeFrom (some owed) rest
      | .refused => replacement :: decodeFrom none rest
    match pending with
    | none => start
    | some owed =>
      let b := octet.toNat
      if owed.low ≤ b ∧ b ≤ owed.high then
        let bits := owed.bits * 64 + (b - 0x80)
        if owed.count ≤ 1 then Char.ofNat bits :: decodeFrom none rest
        else decodeFrom (some ⟨owed.count - 1, 0x80, 0xBF, bits⟩) rest
      else replacement :: start

/-- The text that octets show, replacement characters included. -/
def ofOctets (octets : List UInt8) : List Char :=
  decodeFrom none octets

end SpeechConfig.Text
