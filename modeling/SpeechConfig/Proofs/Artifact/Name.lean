/-
# `SpeechConfig.Proofs.Artifact.Name` — plain names and the files named by them

## What is proved, with every binder written out

For every text, `Grammar.plainName` of it is plain, and

    plainName name = name  ↔  isPlain name = true

so a name that is used is exactly a plain one.  The file of a grammar with a plain name
is an entry of its directory (`isEntryName_file`): a plain name has no slash, and the
extension makes it longer than `.` and `..`.
-/
import SpeechConfig.Artifact.Grammar
import SpeechConfig.Proofs.FileSystem.Entry

namespace SpeechConfig

theorem Text.trim_eq_self {s : String} (h : ∀ c ∈ s.toList, isSpace c = false) : trim s = s := by
  have kept : ∀ cs : List Char, (∀ c ∈ cs, isSpace c = false) → cs.dropWhile isSpace = cs := by
    intro cs hcs
    cases cs with
    | nil => rfl
    | cons c cs => exact List.dropWhile_cons_of_neg (by simp [hcs c List.mem_cons_self])
  rw [trim, kept _ h, kept _ (fun c hc => h c (List.mem_reverse.mp hc)), List.reverse_reverse,
    String.ofList_toList]

namespace Grammar

variable {name : String}

theorem isNameChar_of_isPlain (h : isPlain name = true) {c : Char} (hc : c ∈ name.toList) :
    isNameChar c = true := by
  simp only [isPlain, Bool.and_eq_true] at h
  exact List.all_eq_true.mp h.2 c hc

theorem not_mem_of_isPlain (h : isPlain name = true) {c : Char} (hc : isNameChar c = false) :
    c ∉ name.toList := by
  intro mem
  cases hc.symm.trans (isNameChar_of_isPlain h mem)

theorem toNat_of_isNameChar {c : Char} (h : isNameChar c = true) :
    0x2D ≤ c.toNat ∧ c.toNat ≤ 0x7A := by
  simp only [isNameChar, Bool.or_eq_true, Bool.and_eq_true, decide_eq_true_eq, beq_iff_eq,
    Char.le_def, UInt32.le_iff_toNat_le] at h
  rcases h with ((((h | h) | h) | rfl) | rfl) | rfl
  · exact ⟨Nat.le_trans (by decide) h.1, Nat.le_trans h.2 (by decide)⟩
  · exact ⟨Nat.le_trans (by decide) h.1, Nat.le_trans h.2 (by decide)⟩
  · exact ⟨Nat.le_trans (by decide) h.1, Nat.le_trans h.2 (by decide)⟩
  · decide
  · decide
  · decide

theorem isSpace_of_isNameChar {c : Char} (h : isNameChar c = true) : Text.isSpace c = false := by
  obtain ⟨low, high⟩ := toNat_of_isNameChar h
  simp only [Text.isSpace, Bool.or_eq_false_iff, Bool.and_eq_false_iff, decide_eq_false_iff_not,
    beq_eq_false_iff_ne]
  omega

/-! ## Names that are used -/

theorem isPlain_plainName (raw : String) : isPlain (plainName raw) = true := by
  unfold plainName
  split
  · next plain => exact plain
  · decide

theorem plainName_eq_self_iff : plainName name = name ↔ isPlain name = true := by
  constructor
  · intro h
    exact h ▸ isPlain_plainName name
  · intro h
    have trimmed : Text.trim name = name :=
      Text.trim_eq_self fun c hc => isSpace_of_isNameChar (isNameChar_of_isPlain h hc)
    rw [plainName, trimmed, if_pos h]

/-! ## Files -/

theorem getLast?_file (name : String) : (name ++ ".gram").toList.getLast? = some 'm' := by
  rw [String.toList_append, List.getLast?_append]
  rfl

theorem file_ne (name : String) {other : String} (h : other.toList.getLast? ≠ some 'm') :
    name ++ ".gram" ≠ other := by
  rintro rfl
  exact h (getLast?_file name)

theorem isEntryName_file (h : isPlain name = true) :
    FileSystem.IsEntryName (name ++ ".gram") where
  not_empty := file_ne name (by decide)
  not_here := file_ne name (by decide)
  not_up := file_ne name (by decide)
  no_slash := by
    rw [String.toList_append, List.mem_append, not_or]
    exact ⟨not_mem_of_isPlain h (by decide), by decide⟩

end Grammar
end SpeechConfig
