/-
# `SpeechConfig.Proofs.Text.Alike` — texts that are read as one word

## What is proved, with every binder written out

For all texts `s` and `t`:

    lowerAscii (trim s) = lowerAscii (trim t) ↔ Alike s t

A word is looked up in lower case and without the white space around it.  `Alike` says which texts
that identifies, and does not speak of trimming: each of the two is some characters between white
space, and these are the same one by one, up to the case of A to Z.  The characters in the middle
may begin or end with white space themselves.
-/
import Mathlib.Data.List.DropRight
import SpeechConfig.Text.Blank

namespace SpeechConfig.Text

/-- The text is these characters between white space. -/
def Padded (core : List Char) (s : String) : Prop :=
  ∃ before after : List Char, (∀ c ∈ before, isSpace c = true) ∧ (∀ c ∈ after, isSpace c = true) ∧
    s.toList = before ++ (core ++ after)

/-- The texts differ in the white space around them and in the case of letters, in nothing else. -/
def Alike (s t : String) : Prop :=
  ∃ core core' : List Char, Padded core s ∧ Padded core' t ∧
    core.map Char.toLower = core'.map Char.toLower

variable {s t : String} {core : List Char}

/-! ## Padding -/

theorem trim_eq (s : String) :
    trim s = String.ofList ((s.toList.dropWhile isSpace).rdropWhile isSpace) := rfl

theorem rdropWhile_append_of_pos {p : Char → Bool} {after : List Char}
    (white : ∀ c ∈ after, p c = true) (l : List Char) :
    (l ++ after).rdropWhile p = l.rdropWhile p := by
  have reversed : ∀ c ∈ after.reverse, p c = true := fun c h => white c (List.mem_reverse.mp h)
  rw [List.rdropWhile, List.reverse_append, List.dropWhile_append_of_pos reversed,
    ← List.rdropWhile]

theorem trim_of_padded (h : Padded core s) : trim s = trim (String.ofList core) := by
  obtain ⟨before, after, ahead, behind, whole⟩ := h
  rw [trim_eq, trim_eq, String.toList_ofList, whole, List.dropWhile_append_of_pos ahead,
    List.dropWhile_append]
  split
  · next blank =>
      -- the core is white space as well, and so is all that follows it
      rw [List.isEmpty_iff.mp blank, List.dropWhile_eq_nil_iff.mpr behind]
  · rw [rdropWhile_append_of_pos behind]

/-- A text is what is left of it when it is trimmed, between white space. -/
theorem padded_trim (s : String) : Padded (trim s).toList s := by
  let left := s.toList.dropWhile isSpace
  refine ⟨s.toList.takeWhile isSpace, left.rtakeWhile isSpace, fun c => List.mem_takeWhile_imp,
    fun c => List.mem_rtakeWhile_imp, ?_⟩
  rw [trim_eq, String.toList_ofList, List.rdropWhile_append_rtakeWhile,
    List.takeWhile_append_dropWhile]

/-! ## The case of letters -/

theorem forall_capital {P : Char → Prop}
    (counted : ∀ n ≤ 'Z'.toNat, 'A'.toNat ≤ n → P (Char.ofNat n)) (c : Char)
    (capital : 'A' ≤ c ∧ c ≤ 'Z') : P c := by
  have reached := counted c.toNat capital.2 capital.1
  rwa [Char.ofNat_toNat] at reached

theorem toLower_of_not_capital {c : Char} (h : ¬('A' ≤ c ∧ c ≤ 'Z')) : c.toLower = c :=
  dif_neg h

theorem lowerAscii_eq (s : String) : lowerAscii s = String.ofList (s.toList.map Char.toLower) := by
  have lowered (c : Char) :
      (if 'A' ≤ c ∧ c ≤ 'Z' then Char.ofNat (c.toNat + 32) else c) = c.toLower := by
    by_cases capital : 'A' ≤ c ∧ c ≤ 'Z'
    · rw [if_pos capital]
      exact forall_capital (P := fun c => Char.ofNat (c.toNat + 32) = c.toLower) (by decide) c
        capital
    · rw [if_neg capital, toLower_of_not_capital capital]
  simp only [lowerAscii, lowered]

theorem isSpace_toLower (c : Char) : isSpace c.toLower = isSpace c := by
  by_cases capital : 'A' ≤ c ∧ c ≤ 'Z'
  · exact forall_capital (P := fun c => isSpace c.toLower = isSpace c) (by decide) c capital
  · rw [toLower_of_not_capital capital]

theorem lowerAscii_trim (s : String) : lowerAscii (trim s) = trim (lowerAscii s) := by
  have spaces : isSpace ∘ Char.toLower = isSpace := funext isSpace_toLower
  simp only [lowerAscii_eq, trim_eq, String.toList_ofList, List.rdropWhile, List.dropWhile_map,
    ← List.map_reverse, spaces]

/-! ## What is read as one word -/

theorem lowerAscii_trim_of_padded (h : Padded core s) :
    lowerAscii (trim s) = trim (String.ofList (core.map Char.toLower)) := by
  rw [trim_of_padded h, lowerAscii_trim, lowerAscii_eq, String.toList_ofList]

/-- Two texts are read as one word if they are alike, and not otherwise. -/
theorem lowerAscii_trim_eq_iff : lowerAscii (trim s) = lowerAscii (trim t) ↔ Alike s t := by
  constructor
  · intro same
    refine ⟨_, _, padded_trim s, padded_trim t, ?_⟩
    simpa only [lowerAscii_eq, String.ofList_inj] using same
  · rintro ⟨core, core', padded, padded', same⟩
    rw [lowerAscii_trim_of_padded padded, lowerAscii_trim_of_padded padded', same]

end SpeechConfig.Text
