/-
# `SpeechConfig.Proofs.Vocabulary.FirstOffence` — validation finds the first offence

## What is proved, with every binder written out

For every request `r` — any word list, any rules, any sentences:

    r.validate = .ok ()     ↔  every entry is admitted, and there are words or sentences
    r.validate = .error e   ↔  ∃ p, r.Fails p e ∧ no position before p fails

The right-hand sides do not mention the check.  `Admits` and `Offends` speak of one
entry and of the ways in which it falls into tokens; `Fails` says what is wrong at a
position; `Position.Before` orders the positions: rules by their number, then the
vocabulary as a whole, then sentences by their number.

## Why least positions need no search

At one position at most one thing is wrong (`fails_unique`), and of two positions
one is before the other unless they are the same.  So a failure at a least
position is the only one, and the scan need only be shown to stop at one.
-/
import SpeechConfig.Proofs.Text.Tokens
import SpeechConfig.Vocabulary.Validation

namespace SpeechConfig

/-! ## One entry -/

namespace WordList

/-- An entry that may be used: not blank, and itself a word or made of words. -/
def Admits (w : WordList) (text : String) : Prop :=
  Text.isBlank text = false ∧
    (w.contains text = true ∨
      ∃ tokens, Text.FallsInto text tokens ∧ ∀ token ∈ tokens, w.contains token = true)

/-- `w.Offends o e`: the entry at `o` may not be used, and `e` says why.  The token
that is reported has only words before it. -/
inductive Offends (w : WordList) (o : Origin) : Failure → Prop
  | blank : Text.isBlank o.text = true → Offends w o (.blankEntry o)
  | missing {before after : List String} {token : String} :
      Text.isBlank o.text = false → w.contains o.text = false →
      Text.FallsInto o.text (before ++ token :: after) →
      (∀ word ∈ before, w.contains word = true) → w.contains token = false →
      Offends w o (.missingWord token o)

variable {w : WordList} {o : Origin} {e : Failure}

theorem check_eq_ok_iff : w.check o = .ok () ↔ w.Admits o.text := by
  unfold check Admits
  cases Text.isBlank o.text with
  | true => simp
  | false =>
      cases w.contains o.text with
      | true => simp
      | false =>
          simp only [Bool.false_eq_true, if_false, false_or, true_and]
          constructor
          · intro h
            refine ⟨Text.tokens o.text, Text.fallsInto_tokens _, ?_⟩
            split at h
            · cases h
            · next none_missing => simpa using none_missing
          · rintro ⟨tokens, split, all⟩
            rw [Text.tokens_eq_iff.mpr split, List.find?_eq_none.mpr (by simpa using all)]

theorem check_eq_error_iff : w.check o = .error e ↔ w.Offends o e := by
  unfold check
  constructor
  · intro h
    cases hb : Text.isBlank o.text with
    | true =>
        rw [hb, if_pos rfl] at h
        exact Except.error.inj h ▸ .blank hb
    | false =>
        cases hc : w.contains o.text with
        | true => simp [hb, hc] at h
        | false =>
            simp only [hb, hc, Bool.false_eq_true, if_false] at h
            split at h
            · next token found =>
                obtain ⟨missing, before, after, split, known⟩ :=
                  List.find?_eq_some_iff_append.mp found
                rw [← Except.error.inj h]
                exact .missing hb hc (Text.tokens_eq_iff.mp split) (by simpa using known)
                  (by simpa using missing)
            · cases h
  · intro h
    cases h with
    | blank hb => rw [if_pos hb]
    | missing hb hc split known missing =>
        rw [if_neg (by simp [hb]), if_neg (by simp [hc]), Text.tokens_eq_iff.mpr split,
          List.find?_eq_some_iff_append.mpr
            ⟨by simpa using missing, _, _, rfl, by simpa using known⟩]

theorem Offends.unique {f : Failure} (h : w.Offends o e) (h' : w.Offends o f) : e = f :=
  Except.error.inj ((check_eq_error_iff.mpr h).symm.trans (check_eq_error_iff.mpr h'))

theorem Offends.not_admits (h : w.Offends o e) : ¬ w.Admits o.text := by
  intro admitted
  have := (check_eq_error_iff.mpr h).symm.trans (check_eq_ok_iff.mpr admitted)
  cases this

/-! ## The entries of a list -/

theorem checkFrom_eq_ok_iff {c : Collection} :
    ∀ {texts : List String} {index : Nat},
      w.checkFrom c index texts = .ok () ↔ ∀ text ∈ texts, w.Admits text := by
  intro texts
  induction texts with
  | nil => intro index; simp [checkFrom]
  | cons text rest ih =>
      intro index
      have first : w.check ⟨c, index, text⟩ = .ok () ↔ w.Admits text := check_eq_ok_iff
      rw [checkFrom, List.forall_mem_cons, ← first, ← @ih (index + 1)]
      cases w.check ⟨c, index, text⟩ with
      | ok _ => simp
      | error _ => simp

/-- The check of a list stops at the first entry that offends, and numbers it from
the number of the first entry on. -/
theorem checkFrom_error {c : Collection} :
    ∀ {texts : List String} {index : Nat}, w.checkFrom c index texts = .error e →
      ∃ i text, texts[i]? = some text ∧ w.Offends ⟨c, index + i, text⟩ e ∧
        ∀ j < i, ∀ earlier ∈ texts[j]?, w.Admits earlier := by
  intro texts
  induction texts with
  | nil => intro index h; cases h
  | cons text rest ih =>
      intro index h
      rw [checkFrom] at h
      cases hc : w.check ⟨c, index, text⟩ with
      | error f =>
          rw [hc] at h
          refine ⟨0, text, rfl, ?_, fun j hj => absurd hj (Nat.not_lt_zero j)⟩
          exact Except.error.inj h ▸ check_eq_error_iff.mp hc
      | ok _ =>
          rw [hc] at h
          -- what is found in the rest stands one place further on in the list
          obtain ⟨i, found, at_i, offends, before⟩ := ih h
          refine ⟨i + 1, found, by simpa using at_i, ?_, ?_⟩
          · rwa [Nat.add_right_comm, Nat.add_assoc] at offends
          · intro j hj earlier at_j
            cases j with
            | zero =>
                obtain rfl : text = earlier := by simpa using at_j
                exact check_eq_ok_iff.mp hc
            | succ j => exact before j (by omega) earlier (by simpa using at_j)

end WordList

/-! ## The whole request -/

namespace Request

/-- A place where validation can fail.  Rules and sentences are numbered from one. -/
inductive Position where
  | rule (index : Nat)
  | vocabulary
  | sentence (index : Nat)
deriving DecidableEq, Repr

/-- The order in which a request is read: rules, the vocabulary, sentences. -/
inductive Position.Before : Position → Position → Prop
  | rules {i j : Nat} : i < j → Before (.rule i) (.rule j)
  | ruleVocabulary {i : Nat} : Before (.rule i) .vocabulary
  | ruleSentence {i j : Nat} : Before (.rule i) (.sentence j)
  | vocabularySentence {j : Nat} : Before .vocabulary (.sentence j)
  | sentences {i j : Nat} : i < j → Before (.sentence i) (.sentence j)

/-- `r.Fails p e`: at position `p` something is wrong with the request, namely `e`. -/
inductive Fails (r : Request) : Position → Failure → Prop
  | rule {i : Nat} {text : String} {e : Failure} :
      r.grammar[i]? = some text → r.words.Offends ⟨.grammar, i + 1, text⟩ e →
      Fails r (.rule (i + 1)) e
  | vocabulary : r.words.words = [] → r.sentences = [] → Fails r .vocabulary .emptyVocabulary
  | sentence {i : Nat} {text : String} {e : Failure} :
      r.sentences[i]? = some text → r.words.Offends ⟨.sentences, i + 1, text⟩ e →
      Fails r (.sentence (i + 1)) e

/-- `e` is what is wrong at a position before which nothing is. -/
def FirstOffence (r : Request) (e : Failure) : Prop :=
  ∃ p, r.Fails p e ∧ ∀ q f, r.Fails q f → ¬ q.Before p

def Sound (r : Request) : Prop :=
  (∀ text ∈ r.grammar, r.words.Admits text) ∧ (∀ text ∈ r.sentences, r.words.Admits text) ∧
    ¬ (r.words.words = [] ∧ r.sentences = [])

theorem Position.before_or_eq_or_before (p q : Position) : p.Before q ∨ p = q ∨ q.Before p := by
  cases p with
  | rule i =>
      cases q with
      | rule j =>
          rcases Nat.lt_trichotomy i j with h | h | h
          · exact Or.inl (.rules h)
          · exact Or.inr (Or.inl (h ▸ rfl))
          · exact Or.inr (Or.inr (.rules h))
      | vocabulary => exact Or.inl .ruleVocabulary
      | sentence j => exact Or.inl .ruleSentence
  | vocabulary =>
      cases q with
      | rule j => exact Or.inr (Or.inr .ruleVocabulary)
      | vocabulary => exact Or.inr (Or.inl rfl)
      | sentence j => exact Or.inl .vocabularySentence
  | sentence i =>
      cases q with
      | rule j => exact Or.inr (Or.inr .ruleSentence)
      | vocabulary => exact Or.inr (Or.inr .vocabularySentence)
      | sentence j =>
          rcases Nat.lt_trichotomy i j with h | h | h
          · exact Or.inl (.sentences h)
          · exact Or.inr (Or.inl (h ▸ rfl))
          · exact Or.inr (Or.inr (.sentences h))

theorem fails_unique {r : Request} {p : Position} {e f : Failure} (h : r.Fails p e)
    (h' : r.Fails p f) : e = f := by
  cases h with
  | rule at_i offends =>
      cases h' with
      | rule at_i' offends' =>
          obtain rfl := Option.some.inj (at_i.symm.trans at_i')
          exact offends.unique offends'
  | vocabulary _ _ =>
      cases h' with
      | vocabulary _ _ => rfl
  | sentence at_i offends =>
      cases h' with
      | sentence at_i' offends' =>
          obtain rfl := Option.some.inj (at_i.symm.trans at_i')
          exact offends.unique offends'

theorem FirstOffence.unique {r : Request} {e f : Failure} (h : r.FirstOffence e)
    (h' : r.FirstOffence f) : e = f := by
  obtain ⟨p, fails, least⟩ := h
  obtain ⟨q, fails', least'⟩ := h'
  rcases Position.before_or_eq_or_before p q with before | rfl | before
  · exact absurd before (least' p e fails)
  · exact fails_unique fails fails'
  · exact absurd before (least q f fails')

theorem Sound.not_fails {r : Request} (sound : r.Sound) {p : Position} {e : Failure} :
    ¬ r.Fails p e := by
  intro fails
  cases fails with
  | rule at_i offends =>
      exact offends.not_admits (sound.1 _ (List.mem_of_getElem? at_i))
  | vocabulary no_words no_sentences => exact sound.2.2 ⟨no_words, no_sentences⟩
  | sentence at_i offends =>
      exact offends.not_admits (sound.2.1 _ (List.mem_of_getElem? at_i))

/-! ## What the passes say -/

variable {r : Request} {e : Failure}

theorem validateGrammar_eq_ok_iff :
    r.validateGrammar = .ok () ↔ ∀ text ∈ r.grammar, r.words.Admits text :=
  WordList.checkFrom_eq_ok_iff

theorem validateSentences_eq_ok_iff :
    r.validateSentences = .ok () ↔
      (∀ text ∈ r.sentences, r.words.Admits text) ∧
        ¬ (r.words.words = [] ∧ r.sentences = []) := by
  have nothing : (r.sentences.isEmpty && r.words.isEmpty) = true ↔
      r.words.words = [] ∧ r.sentences = [] := by
    simp [WordList.isEmpty, and_comm]
  unfold validateSentences
  by_cases h : r.words.words = [] ∧ r.sentences = []
  · rw [if_pos (nothing.mpr h)]
    simp [h]
  · rw [if_neg (fun both => h (nothing.mp both)), WordList.checkFrom_eq_ok_iff]
    exact ⟨fun all => ⟨all, h⟩, fun both => both.1⟩

theorem firstOffence_of_validateGrammar (h : r.validateGrammar = .error e) :
    r.FirstOffence e := by
  obtain ⟨i, text, at_i, offends, before⟩ := WordList.checkFrom_error h
  rw [Nat.add_comm] at offends
  refine ⟨.rule (i + 1), .rule at_i offends, ?_⟩
  rintro q f fails earlier
  cases fails with
  | @rule j _ _ at_j offends' =>
      cases earlier with
      | rules hj => exact offends'.not_admits (before j (by omega) _ at_j)
  | vocabulary _ _ => cases earlier
  | sentence _ _ => cases earlier

/-- A failing pass over the sentences reports the empty vocabulary or else the first
sentence that offends; both come after the rules, which are all admitted. -/
theorem firstOffence_of_validateSentences (rules : ∀ text ∈ r.grammar, r.words.Admits text)
    (h : r.validateSentences = .error e) : r.FirstOffence e := by
  have no_rule : ∀ {i : Nat} {f : Failure}, ¬ r.Fails (.rule i) f := by
    intro i f fails
    cases fails with
    | rule at_i offends => exact offends.not_admits (rules _ (List.mem_of_getElem? at_i))
  unfold validateSentences at h
  split at h
  · next nothing =>
      rw [Bool.and_eq_true, List.isEmpty_iff, WordList.isEmpty, List.isEmpty_iff] at nothing
      obtain rfl := Except.error.inj h
      refine ⟨.vocabulary, .vocabulary nothing.2 nothing.1, ?_⟩
      rintro q f fails earlier
      cases earlier with
      | ruleVocabulary => exact no_rule fails
  · next something =>
      obtain ⟨i, text, at_i, offends, before⟩ := WordList.checkFrom_error h
      rw [Nat.add_comm] at offends
      refine ⟨.sentence (i + 1), .sentence at_i offends, ?_⟩
      rintro q f fails earlier
      cases fails with
      | rule at_j offends' => exact no_rule (.rule at_j offends')
      | vocabulary no_words no_sentences => simp [no_sentences] at at_i
      | @sentence j _ _ at_j offends' =>
          cases earlier with
          | sentences hj => exact offends'.not_admits (before j (by omega) _ at_j)

theorem validate_eq_ok_iff : r.validate = .ok () ↔ r.Sound := by
  unfold validate Sound
  rw [← validateGrammar_eq_ok_iff, ← validateSentences_eq_ok_iff]
  cases r.validateGrammar with
  | ok _ => simp
  | error _ => simp

theorem firstOffence_of_validate (h : r.validate = .error e) : r.FirstOffence e := by
  unfold validate at h
  split at h
  · next rules =>
      exact firstOffence_of_validateSentences (validateGrammar_eq_ok_iff.mp rules) h
  · next failed =>
      obtain rfl := Except.error.inj h
      exact firstOffence_of_validateGrammar failed

/-- Validation accepts exactly the sound requests, and of any other it reports the
offence that comes first. -/
theorem validate_reports_first_offence (r : Request) :
    (r.validate = .ok () ↔ r.Sound) ∧ ∀ e, r.validate = .error e ↔ r.FirstOffence e := by
  refine ⟨validate_eq_ok_iff, fun e => ⟨firstOffence_of_validate, fun first => ?_⟩⟩
  cases h : r.validate with
  | ok _ =>
      obtain ⟨p, fails, -⟩ := first
      exact absurd fails (validate_eq_ok_iff.mp h).not_fails
  | error f => rw [first.unique (firstOffence_of_validate h)]

end Request
end SpeechConfig
