/-
# `SpeechConfig.Proofs.Artifact.Separators` — a dictionary without the separators of its phonemes

## What is proved, with every binder written out

For every word list `w` there is exactly one word list `w'` with `w.StripsTo w'`: the same tokens in
the same order, each with the same phonemes less their separators, `-` and `_`.  For these two,

    render .stripSeparators w  = render .verbatim w'
    render .stripSeparators w' = render .stripSeparators w

so that phonemes are all that is touched, and touched once.  A phoneme without separators is written
as it is (`write_eq_self_iff`): nothing depends on whether one looks for a separator first.

## Where a text may be stripped as a whole

The separators in `render .stripSeparators w` are those of the tokens, one token behind another.
Deleting every separator from the text with the phonemes as they are therefore comes to the same
only where no token holds one:

    Strips (render .verbatim w).toList (render .stripSeparators w).toList ↔
      ∀ token ∈ w.tokens, SeparatorFree token

`Strips` says what is left of some characters and does not filter them.
-/
import Mathlib.Data.List.Forall2
import SpeechConfig.Artifact.Dictionary

namespace SpeechConfig

/-! ## Characters without separators -/

/-- `Strips cs ds`: `ds` is `cs` without `-` and `_`, everything else in order. -/
inductive Strips : List Char → List Char → Prop
  | nil : Strips [] []
  | drop {c : Char} {cs ds : List Char} : c = '-' ∨ c = '_' → Strips cs ds → Strips (c :: cs) ds
  | keep {c : Char} {cs ds : List Char} : c ≠ '-' → c ≠ '_' → Strips cs ds →
      Strips (c :: cs) (c :: ds)

def SeparatorFree (s : String) : Prop :=
  '-' ∉ s.toList ∧ '_' ∉ s.toList

theorem isSeparator_iff {c : Char} : isSeparator c = true ↔ c = '-' ∨ c = '_' := by
  simp [isSeparator]

theorem separatorFree_iff {s : String} :
    SeparatorFree s ↔ ∀ c ∈ s.toList, isSeparator c = false := by
  simp only [SeparatorFree, isSeparator, Bool.or_eq_false_iff, beq_eq_false_iff_ne]
  constructor
  · rintro ⟨dash, underscore⟩ c mem
    exact ⟨fun same => dash (same ▸ mem), fun same => underscore (same ▸ mem)⟩
  · intro free
    exact ⟨fun mem => (free _ mem).1 rfl, fun mem => (free _ mem).2 rfl⟩

theorem strips_iff {cs ds : List Char} :
    Strips cs ds ↔ ds = cs.filter fun c => !isSeparator c := by
  constructor
  · intro h
    induction h with
    | nil => rfl
    | drop separator _ ih => simpa [isSeparator_iff.mpr separator] using ih
    | keep no_dash no_underscore _ ih => simpa [isSeparator, no_dash, no_underscore] using ih
  · rintro rfl
    induction cs with
    | nil => exact .nil
    | cons c cs ih =>
        by_cases separator : c = '-' ∨ c = '_'
        · simpa [isSeparator_iff.mpr separator] using Strips.drop separator ih
        · obtain ⟨no_dash, no_underscore⟩ := not_or.mp separator
          simpa [isSeparator, no_dash, no_underscore] using Strips.keep no_dash no_underscore ih

namespace PhonemePolicy

theorem strips_iff_eq_write (phoneme written : String) :
    Strips phoneme.toList written.toList ↔ written = stripSeparators.write phoneme := by
  rw [strips_iff, write, ← String.toList_inj, String.toList_ofList]

theorem write_eq_self_iff {phoneme : String} :
    stripSeparators.write phoneme = phoneme ↔ SeparatorFree phoneme := by
  rw [separatorFree_iff, write, ← String.toList_inj, String.toList_ofList, List.filter_eq_self]
  simp

theorem separatorFree_write (phoneme : String) :
    SeparatorFree (stripSeparators.write phoneme) := by
  rw [separatorFree_iff, write, String.toList_ofList]
  intro c mem
  simpa using (List.mem_filter.mp mem).2

theorem write_write (phoneme : String) :
    stripSeparators.write (stripSeparators.write phoneme) = stripSeparators.write phoneme :=
  write_eq_self_iff.mpr (separatorFree_write phoneme)

end PhonemePolicy

/-! ## Words without separators -/

/-- The same token, and phoneme by phoneme what is left without separators. -/
def Word.StripsTo (word word' : Word) : Prop :=
  word.token = word'.token ∧
    List.Forall₂ (fun p q : String => Strips p.toList q.toList) word.phonemes word'.phonemes

def WordList.StripsTo (w w' : WordList) : Prop :=
  List.Forall₂ Word.StripsTo w.words w'.words

def Word.stripped (word : Word) : Word :=
  { word with phonemes := word.phonemes.map PhonemePolicy.stripSeparators.write }

theorem map_token_stripped (words : List Word) :
    (words.map Word.stripped).map Word.token = words.map Word.token := by
  rw [List.map_map]
  rfl

def WordList.stripped (w : WordList) : WordList :=
  ⟨w.words.map Word.stripped, by rw [map_token_stripped]; exact w.distinct⟩

theorem forall₂_iff_eq_map {α β : Type} {R : α → β → Prop} {f : α → β}
    (one : ∀ a b, R a b ↔ b = f a) {as : List α} {bs : List β} :
    List.Forall₂ R as bs ↔ bs = as.map f := by
  have graph : R = fun a b => f a = b := by
    funext a b
    exact propext ((one a b).trans eq_comm)
  rw [graph, ← List.forall₂_map_left_iff (R := Eq), List.forall₂_eq_eq_eq, eq_comm]

theorem Word.stripsTo_iff (word word' : Word) :
    word.StripsTo word' ↔ word' = word.stripped := by
  rw [StripsTo, forall₂_iff_eq_map PhonemePolicy.strips_iff_eq_write]
  constructor
  · rintro ⟨token, phonemes⟩
    cases word'
    cases token
    cases phonemes
    rfl
  · rintro rfl
    exact ⟨rfl, rfl⟩

theorem WordList.stripsTo_iff {w w' : WordList} : w.StripsTo w' ↔ w' = w.stripped := by
  rw [StripsTo, forall₂_iff_eq_map Word.stripsTo_iff, WordList.ext_iff]
  rfl

theorem WordList.tokens_stripped (w : WordList) : w.stripped.tokens = w.tokens :=
  map_token_stripped w.words

theorem Word.stripped_stripped (word : Word) : word.stripped.stripped = word.stripped := by
  simp [stripped, Function.comp_def, PhonemePolicy.write_write]

theorem WordList.stripped_stripped (w : WordList) : w.stripped.stripped = w.stripped := by
  apply WordList.ext
  simp [stripped, Function.comp_def, Word.stripped_stripped]

/-! ## The text of a dictionary -/

namespace Dictionary

theorem render_stripSeparators (w : WordList) :
    render .stripSeparators w = render .verbatim w.stripped := by
  have lines : line .stripSeparators = line .verbatim ∘ Word.stripped := by
    funext word
    simp [line, Word.stripped, Function.comp_def, PhonemePolicy.write]
  rw [render, render, WordList.stripped, List.map_map, lines]

theorem toList_render (policy : PhonemePolicy) (w : WordList) :
    (render policy w).toList = w.words.flatMap fun word => word.token.toList ++
      ((word.phonemes.flatMap fun phoneme => ' ' :: (policy.write phoneme).toList) ++ ['\n']) := by
  simp [render, line, String.toList_join, List.flatMap_map]

/-- The separators that stand in a dictionary without those of its phonemes are those of its
tokens. -/
theorem filter_separators (w : WordList) :
    (render .stripSeparators w).toList.filter isSeparator =
      w.tokens.flatMap fun token => token.toList.filter isSeparator := by
  have none_left : ∀ phonemes : List String, (phonemes.flatMap fun phoneme =>
      (' ' :: (PhonemePolicy.stripSeparators.write phoneme).toList).filter isSeparator) = [] := by
    intro phonemes
    refine List.flatMap_eq_nil_iff.mpr fun phoneme _ => List.filter_eq_nil_iff.mpr ?_
    have free := separatorFree_iff.mp (PhonemePolicy.separatorFree_write phoneme)
    simpa [isSeparator] using free
  have no_feed : ['\n'].filter isSeparator = [] := by decide
  simp only [toList_render, WordList.tokens, List.flatMap_map, List.filter_flatMap,
    List.filter_append, none_left, no_feed, List.append_nil]

theorem filter_others (w : WordList) :
    (render .stripSeparators w).toList.filter (fun c => !isSeparator c) =
      (render .verbatim w).toList.filter fun c => !isSeparator c := by
  simp [toList_render, List.filter_flatMap, List.filter_cons, PhonemePolicy.write]

/-- Separators may be deleted from the whole text where no token holds one, and nowhere else. -/
theorem strips_render_iff (w : WordList) :
    Strips (render .verbatim w).toList (render .stripSeparators w).toList ↔
      ∀ token ∈ w.tokens, SeparatorFree token := by
  have same : Strips (render .verbatim w).toList (render .stripSeparators w).toList ↔
      (render .stripSeparators w).toList.filter isSeparator = [] := by
    rw [strips_iff, ← filter_others, eq_comm, List.filter_eq_self, List.filter_eq_nil_iff]
    simp
  rw [same, filter_separators, List.flatMap_eq_nil_iff]
  refine forall₂_congr fun token _ => ?_
  rw [separatorFree_iff, List.filter_eq_nil_iff]
  simp

/-- The main result: what the stripping of separators does to a dictionary, and where it may be
taken for a deletion in the text. -/
theorem stripping_projects (w : WordList) :
    ∃ w' : WordList, (∀ v, w.StripsTo v ↔ v = w') ∧ w'.tokens = w.tokens ∧
      render .stripSeparators w = render .verbatim w' ∧
      render .stripSeparators w' = render .stripSeparators w ∧
      (render .stripSeparators w).toList.filter isSeparator =
        (w.tokens.flatMap fun token => token.toList.filter isSeparator) ∧
      (Strips (render .verbatim w).toList (render .stripSeparators w).toList ↔
        ∀ token ∈ w.tokens, SeparatorFree token) := by
  refine ⟨w.stripped, fun v => WordList.stripsTo_iff, w.tokens_stripped,
    render_stripSeparators w, ?_, filter_separators w, strips_render_iff w⟩
  rw [render_stripSeparators, render_stripSeparators, WordList.stripped_stripped]

/-- A token keeps its separator, and a phoneme made of nothing else becomes empty. -/
example : render .stripSeparators ⟨[⟨"check-in", ["CH_", "-"]⟩], by decide⟩ = "check-in CH \n" := by
  decide

end Dictionary
end SpeechConfig
