/-
# `SpeechConfig.Proofs.Text.Tokens` — the tokens of a text, told without the scan

`Text.tokens` goes through a text once and carries the open run along.  `Splits`
says what comes out without going through anything: white space between the
tokens belongs to none, and each token is a run that is not empty, holds no
white space, and ends where the text does or where white space begins.

The two agree, `tokens_eq_iff`, so a text falls into its tokens in one way only.
-/
import SpeechConfig.Text.Blank

namespace SpeechConfig.Text

/-- `Splits cs runs`: the characters `cs` fall into `runs` at white space. -/
inductive Splits : List Char → List (List Char) → Prop
  | nil : Splits [] []
  | space {c : Char} {cs : List Char} {runs : List (List Char)} :
      isSpace c = true → Splits cs runs → Splits (c :: cs) runs
  | run {word cs : List Char} {runs : List (List Char)} :
      word ≠ [] → (∀ c ∈ word, isSpace c = false) →
      (∀ c ∈ cs.head?, isSpace c = true) → Splits cs runs →
      Splits (word ++ cs) (word :: runs)

def FallsInto (s : String) (tokens : List String) : Prop :=
  Splits s.toList (tokens.map String.toList)

theorem Splits.isSpace_eq_false {cs : List Char} {runs : List (List Char)} (h : Splits cs runs) :
    ∀ run ∈ runs, ∀ c ∈ run, isSpace c = false := by
  induction h with
  | nil => exact fun _ mem => absurd mem List.not_mem_nil
  | space _ _ ih => exact ih
  | run _ unspaced _ _ ih => exact List.forall_mem_cons.mpr ⟨unspaced, ih⟩

/-! ## The scan follows the split -/

theorem runsFrom_append {word : List Char} (h : ∀ c ∈ word, isSpace c = false) :
    ∀ (acc cs : List Char), runsFrom acc (word ++ cs) = runsFrom (word.reverse ++ acc) cs := by
  induction word with
  | nil => intro acc cs; rfl
  | cons c word ih =>
      intro acc cs
      have hc : isSpace c = false := h c List.mem_cons_self
      rw [List.cons_append, runsFrom, if_neg (by simp [hc]),
        ih (fun x hx => h x (List.mem_cons_of_mem _ hx))]
      simp

theorem runsFrom_close {acc : List Char} (hacc : acc ≠ []) :
    ∀ {cs : List Char}, (∀ c ∈ cs.head?, isSpace c = true) →
      runsFrom acc cs = acc.reverse :: runsFrom [] cs
  | [], _ => by simp [runsFrom, hacc]
  | c :: cs, h => by
      have hc : isSpace c = true := h c rfl
      simp [runsFrom, hc, hacc]

theorem runsFrom_of_splits {cs : List Char} {runs : List (List Char)} (h : Splits cs runs) :
    runsFrom [] cs = runs := by
  induction h with
  | nil => rfl
  | space hc _ ih => simpa [runsFrom, hc] using ih
  | @run word cs runs hne hword hhead _ ih =>
      rw [runsFrom_append hword, List.append_nil,
        runsFrom_close (by simpa using hne) hhead, List.reverse_reverse, ih]

theorem Splits.closed {acc cs : List Char} {runs : List (List Char)} (hacc : acc ≠ [])
    (h : ∀ c ∈ acc, isSpace c = false) (hhead : ∀ c ∈ cs.head?, isSpace c = true)
    (rest : Splits cs runs) : Splits (acc.reverse ++ cs) (acc.reverse :: runs) :=
  .run (by simpa using hacc) (fun c hc => h c (List.mem_reverse.mp hc)) hhead rest

/-- With a run open, the scan splits the run together with what is to come. -/
theorem splits_runsFrom :
    ∀ (cs acc : List Char), (∀ c ∈ acc, isSpace c = false) →
      Splits (acc.reverse ++ cs) (runsFrom acc cs) := by
  intro cs
  induction cs with
  | nil =>
      intro acc h
      by_cases hacc : acc = []
      · subst hacc; exact .nil
      · rw [runsFrom_close hacc (by simp)]
        exact Splits.nil.closed hacc h (by simp)
  | cons c cs ih =>
      intro acc h
      cases hc : isSpace c with
      | true =>
          have here : Splits (c :: cs) (runsFrom [] (c :: cs)) := by
            have tail : Splits cs (runsFrom [] cs) := ih [] (by simp)
            simpa [runsFrom, hc] using Splits.space hc tail
          by_cases hacc : acc = []
          · subst hacc; exact here
          · rw [runsFrom_close hacc (by simpa using hc)]
            exact here.closed hacc h (by simpa using hc)
      | false =>
          have longer : ∀ x ∈ c :: acc, isSpace x = false := by
            intro x hx
            rcases List.mem_cons.mp hx with rfl | hx
            · exact hc
            · exact h x hx
          rw [runsFrom, if_neg (by simp [hc])]
          simpa using ih (c :: acc) longer

/-! ## Tokens -/

theorem toList_map_ofList (runs : List (List Char)) :
    (runs.map String.ofList).map String.toList = runs := by
  simp [List.map_map, Function.comp_def]

/-- The tokens of a text are the one way in which it falls at white space. -/
theorem tokens_eq_iff {s : String} {ts : List String} : tokens s = ts ↔ FallsInto s ts := by
  constructor
  · intro h
    have split : Splits s.toList (runsFrom [] s.toList) := by
      simpa using splits_runsFrom s.toList [] (by simp)
    rw [← h, FallsInto, tokens, toList_map_ofList]
    exact split
  · intro h
    rw [tokens, runsFrom_of_splits h]
    simp [List.map_map, Function.comp_def]

theorem fallsInto_tokens (s : String) : FallsInto s (tokens s) :=
  tokens_eq_iff.mp rfl

end SpeechConfig.Text
