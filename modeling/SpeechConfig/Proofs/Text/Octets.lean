/-
# `SpeechConfig.Proofs.Text.Octets` — what octets show when they are read as text

## What is proved, with every binder written out

For all octets `octets`, UTF-8 or not, and all characters `cs`:

    ofOctets octets = cs ↔ Shows octets cs

`Shows` does not read octet by octet.  The octets fall into those of characters, which are shown,
and broken pieces, each of which is shown by one replacement character: an octet that no character
begins with, or the longest front of a character that stands there and does not go on.  So every
octets show something, and one thing only.

## Where a cut does no harm

An octet that is a character by itself, a line feed say, is no part of any other character and goes
on with none.  Whatever stands before it and however that is broken off,

    ofOctets (p ++ octet :: q) = ofOctets p ++ c :: ofOctets q
-/
import Mathlib.Data.List.Basic
import SpeechConfig.Text.Utf8

namespace SpeechConfig.Text

/-! ## The octets of a character -/

/-- Some character begins with these octets. -/
def Begins (piece : List UInt8) : Prop :=
  ∃ c : Char, piece <+: String.utf8EncodeChar c

/-- `Broken piece rest`: in front of `rest`, the octets `piece` are none of a character, but belong
together. -/
inductive Broken : List UInt8 → List UInt8 → Prop
  | stray {octet : UInt8} {rest : List UInt8} : ¬ Begins [octet] → Broken [octet] rest
  | cut {piece rest : List UInt8} : piece ≠ [] → Begins piece →
      (∀ c, String.utf8EncodeChar c ≠ piece) →
      (∀ octet ∈ rest.head?, ¬ Begins (piece ++ [octet])) → Broken piece rest

/-- `Shows octets cs`: the octets, characters and broken pieces, are shown as `cs`. -/
inductive Shows : List UInt8 → List Char → Prop
  | nil : Shows [] []
  | char {rest : List UInt8} {cs : List Char} (c : Char) :
      Shows rest cs → Shows (String.utf8EncodeChar c ++ rest) (c :: cs)
  | broken {piece rest : List UInt8} {cs : List Char} :
      Broken piece rest → Shows rest cs → Shows (piece ++ rest) (replacement :: cs)

/-- An octet that goes on with a character. -/
def IsTail (octet : UInt8) : Prop :=
  0x80 ≤ octet.toNat ∧ octet.toNat ≤ 0xBF

/-- The octets that stand for a code point, as few as will do. -/
def StandFor : List UInt8 → Nat → Prop
  | [x], n => x.toNat < 0x80 ∧ n = x.toNat
  | [x, y], n => 0xC2 ≤ x.toNat ∧ x.toNat < 0xE0 ∧ IsTail y ∧
      n = (x.toNat - 0xC0) * 64 + (y.toNat - 0x80)
  | [x, y, z], n => 0xE0 ≤ x.toNat ∧ x.toNat < 0xF0 ∧ IsTail y ∧ IsTail z ∧ 0x800 ≤ n ∧
      n = ((x.toNat - 0xE0) * 64 + (y.toNat - 0x80)) * 64 + (z.toNat - 0x80)
  | [x, y, z, w], n => 0xF0 ≤ x.toNat ∧ IsTail y ∧ IsTail z ∧ IsTail w ∧ 0x10000 ≤ n ∧
      n = (((x.toNat - 0xF0) * 64 + (y.toNat - 0x80)) * 64 + (z.toNat - 0x80)) * 64 +
        (w.toNat - 0x80)
  | _, _ => False

theorem ofNat_eq_iff {n : Nat} {octet : UInt8} :
    UInt8.ofNat n = octet ↔ n % 256 = octet.toNat := by
  rw [← UInt8.toNat_inj, UInt8.toNat_ofNat']

theorem isValidChar_iff {n : Nat} :
    n.isValidChar ↔ n < 0xD800 ∨ 0xDFFF < n ∧ n < 0x110000 := Iff.rfl

theorem toNat_bounds (c : Char) :
    c.toNat < 0xD800 ∨ 0xDFFF < c.toNat ∧ c.toNat < 0x110000 := c.valid

theorem toNat_ofNat {n : Nat} (valid : n.isValidChar) : (Char.ofNat n).toNat = n := by
  rw [Char.ofNat, dif_pos valid]
  rfl

theorem standFor_encode (c : Char) : StandFor (String.utf8EncodeChar c) c.toNat := by
  have value : c.val.toNat = c.toNat := rfl
  have scalar := toNat_bounds c
  simp only [String.utf8EncodeChar, value]
  split
  · next one =>
      simp only [StandFor, UInt8.toNat_ofNat']
      omega
  split
  · next two =>
      simp only [StandFor, IsTail, UInt8.toNat_ofNat']
      omega
  split
  · next three =>
      simp only [StandFor, IsTail, UInt8.toNat_ofNat']
      omega
  · next four =>
      simp only [StandFor, IsTail, UInt8.toNat_ofNat']
      omega

/-- Nothing else does: with the number of octets the bounds of the code point are given. -/
theorem StandFor.encode_eq {octets : List UInt8} {c : Char} (h : StandFor octets c.toNat) :
    String.utf8EncodeChar c = octets := by
  have value : c.val.toNat = c.toNat := rfl
  simp only [String.utf8EncodeChar, value]
  -- the bounds that come with the number of octets choose the branch of the encoder
  match octets with
  | [] => exact h.elim
  | [x] =>
      obtain ⟨small, code⟩ := h
      rw [if_pos (by omega)]
      simp only [List.cons.injEq, ofNat_eq_iff, and_true]
      omega
  | [x, y] =>
      obtain ⟨low, high, ⟨_, _⟩, code⟩ := h
      rw [if_neg (by omega), if_pos (by omega)]
      simp only [List.cons.injEq, ofNat_eq_iff, and_true]
      omega
  | [x, y, z] =>
      obtain ⟨low, high, ⟨_, _⟩, ⟨_, _⟩, enough, code⟩ := h
      rw [if_neg (by omega), if_neg (by omega), if_pos (by omega)]
      simp only [List.cons.injEq, ofNat_eq_iff, and_true]
      omega
  | [x, y, z, w] =>
      obtain ⟨low, ⟨_, _⟩, ⟨_, _⟩, ⟨_, _⟩, enough, code⟩ := h
      have scalar := toNat_bounds c
      rw [if_neg (by omega), if_neg (by omega), if_neg (by omega)]
      simp only [List.cons.injEq, ofNat_eq_iff, and_true]
      omega
  | _ :: _ :: _ :: _ :: _ :: _ => exact h.elim

theorem encode_eq_iff {c : Char} {octets : List UInt8} :
    String.utf8EncodeChar c = octets ↔ StandFor octets c.toNat := by
  constructor
  · rintro rfl
    exact standFor_encode c
  · exact StandFor.encode_eq

theorem encode_of_standFor {octets : List UInt8} {n : Nat} (h : StandFor octets n)
    (valid : n.isValidChar) : String.utf8EncodeChar (Char.ofNat n) = octets := by
  rw [encode_eq_iff, toNat_ofNat valid]
  exact h

theorem StandFor.count {x : UInt8} {tail : List UInt8} {n : Nat} (h : StandFor (x :: tail) n) :
    (x.toNat < 0x80 ∧ tail.length = 0) ∨ (0xC2 ≤ x.toNat ∧ x.toNat < 0xE0 ∧ tail.length = 1) ∨
      (0xE0 ≤ x.toNat ∧ x.toNat < 0xF0 ∧ tail.length = 2) ∨
      (0xF0 ≤ x.toNat ∧ tail.length = 3) := by
  match tail with
  | [] => exact .inl ⟨h.1, rfl⟩
  | [_] => exact .inr (.inl ⟨h.1, h.2.1, rfl⟩)
  | [_, _] => exact .inr (.inr (.inl ⟨h.1, h.2.1, rfl⟩))
  | [_, _, _] => exact .inr (.inr (.inr ⟨h.1, rfl⟩))
  | _ :: _ :: _ :: _ :: _ => exact h.elim

theorem encode_cases {c : Char} {x : UInt8} {tail : List UInt8}
    (h : String.utf8EncodeChar c = x :: tail) :
    (tail = [] ∧ x.toNat < 0x80 ∧ c.toNat = x.toNat) ∨
      (0xC2 ≤ x.toNat ∧ x.toNat ≤ 0xF4 ∧ ∀ y ∈ tail, IsTail y) := by
  have stands := encode_eq_iff.mp h
  have scalar := toNat_bounds c
  match tail with
  | [] => exact .inl ⟨rfl, stands⟩
  | [y] =>
      obtain ⟨low, high, first, -⟩ := stands
      exact .inr ⟨low, by omega, by simpa using first⟩
  | [y, z] =>
      obtain ⟨low, high, first, second, -⟩ := stands
      exact .inr ⟨by omega, by omega, by simp [first, second]⟩
  | [y, z, w] =>
      obtain ⟨low, first, second, third, -, code⟩ := stands
      exact .inr ⟨by omega, by omega, by simp [first, second, third]⟩
  | _ :: _ :: _ :: _ :: _ => exact stands.elim

/-! ## What an open character owes -/

/-- The octet is one that the open character can go on with. -/
def Owed.Fits (owed : Owed) (octet : UInt8) : Prop :=
  owed.low ≤ octet.toNat ∧ octet.toNat ≤ owed.high

instance (owed : Owed) (octet : UInt8) : Decidable (owed.Fits octet) :=
  inferInstanceAs (Decidable (_ ∧ _))

/-- What is owed when an octet has been taken. -/
def Owed.next (owed : Owed) (octet : UInt8) : Owed :=
  ⟨owed.count - 1, 0x80, 0xBF, owed.bits * 64 + (octet.toNat - 0x80)⟩

/-- The octets pay what is owed, and the code point comes to `n`. -/
def Owed.Paid : Owed → List UInt8 → Nat → Prop
  | _, [], _ => False
  | owed, octet :: rest, n => owed.Fits octet ∧
      if owed.count ≤ 1 then rest = [] ∧ n = (owed.next octet).bits
      else (owed.next octet).Paid rest n

/-- The octets `piece` have been read, and `owed` is what they owe. -/
structure Owed.Opens (owed : Owed) (piece : List UInt8) : Prop where
  payable : owed.low ≤ owed.high ∧ owed.high < 0x100
  paid : ∀ tail n, owed.Paid tail n ↔ StandFor (piece ++ tail) n ∧ n.isValidChar

namespace Owed

variable {owed : Owed} {octet : UInt8} {piece tail : List UInt8} {n : Nat} {c : Char}

@[simp] theorem next_count : (owed.next octet).count = owed.count - 1 := rfl

@[simp] theorem next_low : (owed.next octet).low = 0x80 := rfl

@[simp] theorem next_high : (owed.next octet).high = 0xBF := rfl

@[simp] theorem next_bits :
    (owed.next octet).bits = owed.bits * 64 + (octet.toNat - 0x80) := rfl

theorem Paid.length (h : owed.Paid tail n) : tail.length = max owed.count 1 := by
  induction tail generalizing owed with
  | nil => exact h.elim
  | cons octet rest ih =>
      obtain ⟨-, h⟩ := h
      split at h
      · obtain ⟨rfl, -⟩ := h
        simp
        omega
      · have count := ih h
        simp only [next_count, List.length_cons] at count ⊢
        omega

theorem exists_fits (payable : owed.low ≤ owed.high ∧ owed.high < 0x100) :
    ∃ octet, owed.Fits octet := by
  refine ⟨UInt8.ofNat owed.low, ?_⟩
  rw [Fits, UInt8.toNat_ofNat']
  omega

theorem exists_paid (payable : owed.low ≤ owed.high ∧ owed.high < 0x100) :
    ∃ tail n, owed.Paid tail n := by
  obtain ⟨count, enough⟩ : ∃ count, owed.count ≤ count + 1 := ⟨owed.count, Nat.le_succ _⟩
  induction count generalizing owed with
  | zero =>
      obtain ⟨octet, fits⟩ := exists_fits payable
      exact ⟨[octet], _, fits, by rw [if_pos enough]; exact ⟨rfl, rfl⟩⟩
  | succ count ih =>
      obtain ⟨octet, fits⟩ := exists_fits payable
      by_cases done : owed.count ≤ 1
      · exact ⟨[octet], _, fits, by rw [if_pos done]; exact ⟨rfl, rfl⟩⟩
      · obtain ⟨tail, n, paid⟩ := @ih (owed.next octet) (by simp) (by simp; omega)
        exact ⟨octet :: tail, n, fits, by rw [if_neg done]; exact paid⟩

namespace Opens

variable (h : owed.Opens piece)
include h

theorem encode_eq_append_iff :
    String.utf8EncodeChar c = piece ++ tail ↔ owed.Paid tail c.toNat := by
  rw [encode_eq_iff, h.paid]
  exact (and_iff_left c.valid).symm

theorem encode_ofNat (paid : owed.Paid tail n) :
    String.utf8EncodeChar (Char.ofNat n) = piece ++ tail := by
  obtain ⟨stands, valid⟩ := (h.paid tail n).mp paid
  exact encode_of_standFor stands valid

theorem encode_ne : String.utf8EncodeChar c ≠ piece := by
  intro whole
  have paid : owed.Paid [] c.toNat := h.encode_eq_append_iff.mp (by rw [whole, List.append_nil])
  exact paid.elim

theorem begins : Begins piece := by
  obtain ⟨tail, n, paid⟩ := exists_paid h.payable
  exact ⟨Char.ofNat n, tail, (h.encode_ofNat paid).symm⟩

theorem paid_of_begins (begun : Begins (piece ++ octet :: tail)) :
    ∃ (more : List UInt8) (c : Char), owed.Paid (octet :: (tail ++ more)) c.toNat := by
  obtain ⟨c, more, whole⟩ := begun
  rw [List.append_assoc, List.cons_append] at whole
  exact ⟨more, c, h.encode_eq_append_iff.mp whole.symm⟩

theorem fits_of_begins (begun : Begins (piece ++ octet :: tail)) : owed.Fits octet := by
  obtain ⟨more, c, fits, -⟩ := h.paid_of_begins begun
  exact fits

theorem next (fits : owed.Fits octet) (more : ¬ owed.count ≤ 1) :
    (owed.next octet).Opens (piece ++ [octet]) := by
  refine ⟨by simp, fun tail n => ?_⟩
  rw [List.append_assoc, List.singleton_append, ← h.paid]
  simp [Paid, fits, more]

theorem last (fits : owed.Fits octet) (done : owed.count ≤ 1) :
    String.utf8EncodeChar (Char.ofNat (owed.next octet).bits) = piece ++ [octet] :=
  h.encode_ofNat ⟨fits, by rw [if_pos done]; exact ⟨rfl, rfl⟩⟩

theorem begins_concat (fits : owed.Fits octet) : Begins (piece ++ [octet]) := by
  by_cases done : owed.count ≤ 1
  · exact ⟨_, [], by rw [h.last fits done, List.append_nil]⟩
  · exact (h.next fits done).begins

end Opens

end Owed

/-! ## First octets -/

section
variable {x : UInt8} {low high bits : Nat}

/-- Octets of another number neither pay what is owed nor stand for anything. -/
theorem Owed.Opens.of_length {owed : Owed} (payable : owed.low ≤ owed.high ∧ owed.high < 0x100)
    (count : ∀ tail n, StandFor (x :: tail) n → tail.length = max owed.count 1)
    (paid : ∀ tail n, tail.length = max owed.count 1 →
      (owed.Paid tail n ↔ StandFor (x :: tail) n ∧ n.isValidChar)) : owed.Opens [x] := by
  refine ⟨payable, fun tail n => ?_⟩
  by_cases length : tail.length = max owed.count 1
  · exact paid tail n length
  · exact iff_of_false (fun paid => length paid.length) fun stands => length (count tail n stands.1)

theorem opens_two (first : x.toNat = 0xC0 + bits) (range : 0x02 ≤ bits ∧ bits < 0x20) :
    (⟨1, 0x80, 0xBF, bits⟩ : Owed).Opens [x] := by
  refine .of_length (by simp) (fun tail n stands => ?_) fun tail n one => ?_
  · have count := stands.count
    show tail.length = 1
    omega
  · obtain ⟨y, rfl⟩ := List.length_eq_one_iff.mp one
    simp [Owed.Paid, Owed.Fits, StandFor, IsTail, isValidChar_iff]
    omega

/-- The second octet decides: with it the code point is known up to 64, and is in reach of two
octets or not, and a surrogate or not, whatever the third one is. -/
theorem opens_three (first : x.toNat = 0xE0 + bits) (range : bits < 0x10)
    (payable : low ≤ high ∧ high < 0x100)
    (bounds : ∀ y front, front = bits * 64 + (y - 0x80) →
      (low ≤ y ∧ y ≤ high ↔
        (0x80 ≤ y ∧ y ≤ 0xBF) ∧ 0x20 ≤ front ∧ (front < 0x360 ∨ 0x380 ≤ front))) :
    (⟨2, low, high, bits⟩ : Owed).Opens [x] := by
  refine .of_length payable (fun tail n stands => ?_) fun tail n two => ?_
  · have count := stands.count
    show tail.length = 2
    omega
  · obtain ⟨y, z, rfl⟩ := List.length_eq_two.mp two
    have bounds := bounds y.toNat _ rfl
    simp [Owed.Paid, Owed.Fits, StandFor, IsTail, isValidChar_iff, bounds]
    omega

/-- The second octet decides: in reach of three octets or not, and a code point or not. -/
theorem opens_four (first : x.toNat = 0xF0 + bits) (payable : low ≤ high ∧ high < 0x100)
    (bounds : ∀ y front, front = bits * 64 + (y - 0x80) →
      (low ≤ y ∧ y ≤ high ↔ (0x80 ≤ y ∧ y ≤ 0xBF) ∧ 0x10 ≤ front ∧ front < 0x110)) :
    (⟨3, low, high, bits⟩ : Owed).Opens [x] := by
  refine .of_length payable (fun tail n stands => ?_) fun tail n three => ?_
  · have count := stands.count
    show tail.length = 3
    omega
  · obtain ⟨y, z, w, rfl⟩ := List.length_eq_three.mp three
    have bounds := bounds y.toNat _ rfl
    simp [Owed.Paid, Owed.Fits, StandFor, IsTail, isValidChar_iff, bounds]
    omega

end

/-- `Leads octet l`: what the octet is to those behind it, if it stands first. -/
inductive Leads (octet : UInt8) : Lead → Prop
  | whole : octet.toNat < 0x80 → Leads octet (.whole (Char.ofNat octet.toNat))
  | owing {owed : Owed} : owed.Opens [octet] → Leads octet (.owing owed)
  | refused : 0x80 ≤ octet.toNat → octet.toNat < 0xC2 ∨ 0xF4 < octet.toNat → Leads octet .refused

theorem leads_lead (octet : UInt8) : Leads octet (lead octet) := by
  simp only [lead]
  split
  · exact .whole ‹_›
  split
  · exact .refused (by omega) (by omega)
  split
  · exact .owing (opens_two (by omega) (by omega))
  -- `E0`, `ED`, and the others of three
  split
  · exact .owing (opens_three (by omega) (by omega) (by decide) (by omega))
  split
  · exact .owing (opens_three (by omega) (by omega) (by decide) (by omega))
  split
  · exact .owing (opens_three (by omega) (by omega) (by decide) (by omega))
  -- `F0`, the others of four, and `F4`
  split
  · exact .owing (opens_four (by omega) (by decide) (by omega))
  split
  · exact .owing (opens_four (by omega) (by decide) (by omega))
  split
  · exact .owing (opens_four (by omega) (by decide) (by omega))
  · exact .refused (by omega) (by omega)

theorem opens_of_lead {octet : UInt8} {owed : Owed} (h : lead octet = .owing owed) :
    owed.Opens [octet] := by
  have leads := leads_lead octet
  rw [h] at leads
  cases leads with
  | owing opens => exact opens

theorem encode_of_lead {octet : UInt8} {c d : Char} {tail : List UInt8}
    (h : lead octet = .whole c) : String.utf8EncodeChar d = octet :: tail ↔ tail = [] ∧ d = c := by
  have leads := leads_lead octet
  rw [h] at leads
  obtain small | - | - := leads
  have valid : octet.toNat.isValidChar := isValidChar_iff.mpr (.inl (by omega))
  constructor
  · intro spelt
    rcases encode_cases spelt with ⟨alone, -, code⟩ | ⟨low, -⟩
    · exact ⟨alone, Char.toNat_inj.mp (by rw [code, toNat_ofNat valid])⟩
    · omega
  · rintro ⟨rfl, rfl⟩
    exact encode_eq_iff.mpr ⟨small, toNat_ofNat valid⟩

theorem not_begins_of_lead {octet : UInt8} (h : lead octet = .refused) : ¬ Begins [octet] := by
  have leads := leads_lead octet
  rw [h] at leads
  obtain - | - | ⟨large, outside⟩ := leads
  rintro ⟨c, tail, whole⟩
  rcases encode_cases whole.symm with ⟨-, small, -⟩ | ⟨low, high, -⟩ <;> omega

/-! ## The octets as they are read -/

variable {owed : Owed} {octet : UInt8} {piece tail rest : List UInt8} {n : Nat} {c : Char}

theorem decodeFrom_none_cons : decodeFrom none (octet :: rest) =
    match lead octet with
    | .whole c => c :: decodeFrom none rest
    | .owing owed => decodeFrom (some owed) rest
    | .refused => replacement :: decodeFrom none rest := by
  cases first : lead octet <;> simp only [decodeFrom, first]

theorem decodeFrom_some_cons : decodeFrom (some owed) (octet :: rest) =
    if owed.Fits octet then
      if owed.count ≤ 1 then Char.ofNat (owed.next octet).bits :: decodeFrom none rest
      else decodeFrom (some (owed.next octet)) rest
    else replacement :: decodeFrom none (octet :: rest) := by
  rw [decodeFrom_none_cons, decodeFrom]
  rfl

theorem decodeFrom_last (fits : owed.Fits octet) (done : owed.count ≤ 1) :
    decodeFrom (some owed) (octet :: rest) =
      Char.ofNat (owed.next octet).bits :: decodeFrom none rest := by
  rw [decodeFrom_some_cons, if_pos fits, if_pos done]

theorem decodeFrom_next (fits : owed.Fits octet) (more : ¬ owed.count ≤ 1) :
    decodeFrom (some owed) (octet :: rest) = decodeFrom (some (owed.next octet)) rest := by
  rw [decodeFrom_some_cons, if_pos fits, if_neg more]

theorem decodeFrom_of_not_fits (other : ¬ owed.Fits octet) :
    decodeFrom (some owed) (octet :: rest) =
      replacement :: decodeFrom none (octet :: rest) := by
  rw [decodeFrom_some_cons, if_neg other]

/-- The octets are shown as they are read, with a character open or with none.  What has been read
of the open one belongs to what is shown. -/
theorem shows_decodeFrom (octets : List UInt8) : Shows octets (decodeFrom none octets) ∧
    ∀ owed piece, piece ≠ [] → owed.Opens piece →
      Shows (piece ++ octets) (decodeFrom (some owed) octets) := by
  induction octets with
  | nil =>
      refine ⟨.nil, fun owed piece something opens => ?_⟩
      exact .broken (.cut something opens.begins (fun c => opens.encode_ne) (by simp)) .nil
  | cons octet rest ih =>
      obtain ⟨closed, opened⟩ := ih
      have first : Shows (octet :: rest) (decodeFrom none (octet :: rest)) := by
        rw [decodeFrom_none_cons]
        cases led : lead octet with
        | whole c =>
            have one : String.utf8EncodeChar c = [octet] :=
              (encode_of_lead led).mpr ⟨rfl, rfl⟩
            have shown := Shows.char c closed
            rwa [one] at shown
        | owing owed => exact opened owed [octet] (List.cons_ne_nil _ _) (opens_of_lead led)
        | refused => exact .broken (.stray (not_begins_of_lead led)) closed
      refine ⟨first, fun owed piece something opens => ?_⟩
      by_cases fits : owed.Fits octet
      · by_cases done : owed.count ≤ 1
        · rw [decodeFrom_last fits done]
          have shown := Shows.char (Char.ofNat (owed.next octet).bits) closed
          rwa [opens.last fits done, List.append_assoc] at shown
        · rw [decodeFrom_next fits done]
          have shown := opened _ (piece ++ [octet]) (by simp) (opens.next fits done)
          rwa [List.append_assoc] at shown
      · rw [decodeFrom_of_not_fits fits]
        refine .broken (.cut something opens.begins (fun c => opens.encode_ne) ?_) first
        rintro _ ⟨⟩ begun
        exact fits (opens.fits_of_begins begun)

theorem decodeFrom_paid (paid : owed.Paid tail n) :
    decodeFrom (some owed) (tail ++ rest) = Char.ofNat n :: decodeFrom none rest := by
  induction tail generalizing owed with
  | nil => exact paid.elim
  | cons octet tail ih =>
      obtain ⟨fits, paid⟩ := paid
      split at paid
      · next done =>
          obtain ⟨rfl, code⟩ := paid
          rw [code]
          exact decodeFrom_last fits done
      · next more =>
          rw [List.cons_append, decodeFrom_next fits more]
          exact ih paid

theorem decodeFrom_encode (c : Char) :
    decodeFrom none (String.utf8EncodeChar c ++ rest) = c :: decodeFrom none rest := by
  obtain ⟨octet, tail, spelt⟩ := List.exists_cons_of_ne_nil (String.utf8EncodeChar_ne_nil (c := c))
  rw [spelt, List.cons_append, decodeFrom_none_cons]
  cases led : lead octet with
  | whole d =>
      obtain ⟨rfl, rfl⟩ := (encode_of_lead led).mp spelt
      rfl
  | owing owed =>
      have paid := (opens_of_lead led).encode_eq_append_iff.mp spelt
      have shown : decodeFrom (some owed) (tail ++ rest) =
          Char.ofNat c.toNat :: decodeFrom none rest := decodeFrom_paid paid
      rwa [Char.ofNat_toNat] at shown
  | refused => exact absurd ⟨c, tail, spelt.symm⟩ (not_begins_of_lead led)

/-- A front of a character that does not go on is shown by one replacement character, however much
of it has been read. -/
theorem decodeFrom_cut (opens : owed.Opens piece) (begun : Begins (piece ++ tail))
    (unfinished : ∀ c, String.utf8EncodeChar c ≠ piece ++ tail)
    (ends : ∀ octet ∈ rest.head?, ¬ Begins (piece ++ tail ++ [octet])) :
    decodeFrom (some owed) (tail ++ rest) = replacement :: decodeFrom none rest := by
  induction tail generalizing owed piece with
  | nil =>
      cases rest with
      | nil => rfl
      | cons octet rest =>
          rw [List.append_nil] at ends
          exact decodeFrom_of_not_fits fun fits => ends octet rfl (opens.begins_concat fits)
  | cons octet tail ih =>
      have fits := opens.fits_of_begins begun
      by_cases done : owed.count ≤ 1
      · -- the octet would finish a character, and nothing could stand behind it
        obtain ⟨more, c, -, paid⟩ := opens.paid_of_begins begun
        rw [if_pos done, List.append_eq_nil_iff] at paid
        obtain ⟨⟨rfl, -⟩, -⟩ := paid
        exact absurd (opens.last fits done) (unfinished _)
      · have moved : piece ++ octet :: tail = piece ++ [octet] ++ tail := by simp
        rw [moved] at begun unfinished ends
        rw [List.cons_append, decodeFrom_next fits done]
        exact ih (opens.next fits done) begun unfinished ends

theorem decodeFrom_broken (h : Broken piece rest) :
    decodeFrom none (piece ++ rest) = replacement :: decodeFrom none rest := by
  cases h with
  | @stray octet _ nothing =>
      rw [List.singleton_append, decodeFrom_none_cons]
      cases led : lead octet with
      | whole c => exact absurd ⟨c, [], ((encode_of_lead led).mpr ⟨rfl, rfl⟩).symm⟩ nothing
      | owing owed => exact absurd (opens_of_lead led).begins nothing
      | refused => rfl
  | cut something begun unfinished ends =>
      obtain ⟨octet, tail, rfl⟩ := List.exists_cons_of_ne_nil something
      rw [List.cons_append, decodeFrom_none_cons]
      cases led : lead octet with
      | whole c =>
          obtain ⟨d, more, whole⟩ := begun
          obtain ⟨nothing, rfl⟩ := (encode_of_lead led).mp whole.symm
          obtain ⟨rfl, -⟩ := List.append_eq_nil_iff.mp nothing
          exact absurd ((encode_of_lead led).mpr ⟨rfl, rfl⟩) (unfinished d)
      | owing owed => exact decodeFrom_cut (opens_of_lead led) begun unfinished ends
      | refused =>
          obtain ⟨d, more, whole⟩ := begun
          exact absurd ⟨d, tail ++ more, whole⟩ (not_begins_of_lead led)

theorem ofOctets_eq_iff {octets : List UInt8} {cs : List Char} :
    ofOctets octets = cs ↔ Shows octets cs := by
  constructor
  · rintro rfl
    exact (shows_decodeFrom octets).1
  · intro shown
    induction shown with
    | nil => rfl
    | char c _ ih => rw [ofOctets, decodeFrom_encode, ← ih, ofOctets]
    | broken piece _ ih => rw [ofOctets, decodeFrom_broken piece, ← ih, ofOctets]

/-! ## Octets that are characters by themselves -/

variable {p q : List UInt8} {ps qs : List Char}

theorem not_begins_concat (one : String.utf8EncodeChar c = [octet]) (something : piece ≠ []) :
    ¬ Begins (piece ++ [octet]) := by
  rintro ⟨d, more, whole⟩
  obtain ⟨first, tail, rfl⟩ := List.exists_cons_of_ne_nil something
  have small : octet.toNat < 0x80 := (encode_eq_iff.mp one).1
  have spelt : String.utf8EncodeChar d = first :: (tail ++ [octet] ++ more) := whole.symm
  rcases encode_cases spelt with ⟨nothing, -⟩ | ⟨-, -, tails⟩
  · simp at nothing
  · exact absurd (tails octet (by simp)).1 (by omega)

theorem Broken.append (one : String.utf8EncodeChar c = [octet]) (h : Broken piece rest) :
    Broken piece (rest ++ octet :: q) := by
  cases h with
  | stray nothing => exact .stray nothing
  | cut something begun unfinished ends =>
      refine .cut something begun unfinished ?_
      cases rest with
      | nil =>
          rintro _ ⟨⟩
          exact not_begins_concat one something
      | cons next rest => exact ends

/-- A character of one octet is shown wherever it stands, and cuts off what is before it. -/
theorem Shows.append_cons (one : String.utf8EncodeChar c = [octet]) (before : Shows p ps)
    (behind : Shows q qs) : Shows (p ++ octet :: q) (ps ++ c :: qs) := by
  induction before with
  | nil =>
      have shown := Shows.char c behind
      rwa [one] at shown
  | char d _ ih =>
      rw [List.append_assoc]
      exact ih.char d
  | broken piece _ ih =>
      rw [List.append_assoc]
      exact .broken (piece.append one) ih

theorem ofOctets_append_cons (one : String.utf8EncodeChar c = [octet]) (p q : List UInt8) :
    ofOctets (p ++ octet :: q) = ofOctets p ++ c :: ofOctets q :=
  ofOctets_eq_iff.mpr ((ofOctets_eq_iff.mp rfl).append_cons one (ofOctets_eq_iff.mp rfl))

end SpeechConfig.Text
