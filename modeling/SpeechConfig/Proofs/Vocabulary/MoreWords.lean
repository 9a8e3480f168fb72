/-
# `SpeechConfig.Proofs.Vocabulary.MoreWords` — with more words validation fails no earlier

## What is proved, with every binder written out

For all word lists `w` and `w'`, all rules and all sentences, let `r` be the request with `w`, and
`r'` the one with `w'`.  If every token of `w` is a token of `w'`, then

    r.validate = .ok ()     →  r'.validate = .ok ()
    r'.validate = .error e' →  ∃ place' place e,
      r'.StopsAt place' e' ∧ r.StopsAt place e ∧ place.NotAfter place'

and if the tokens are the same ones, whatever their order and their phonemes, the answers are the
same, what is reported included.

## Places

A place is a position (`Position`: a rule, the vocabulary, a sentence) and, in an entry, how many
tokens are passed before the one that is missing.  Nothing is passed in a blank entry.

## What more words can do

More words can turn an entry into a word, so that its tokens are not looked at any more; they never
turn a word into an entry that is looked at.  So what offends under more words offends under fewer,
in the same entry and at the same token or before it (`OffendsAt.of_more`), and the first offence
of a request does not come later.
-/
import SpeechConfig.Proofs.Vocabulary.FirstOffence

namespace SpeechConfig

/-! ## One entry -/

namespace WordList

/-- `w.OffendsAt o k e`: the entry at `o` may not be used, `e` says why, and `k` tokens are passed
before that is seen. -/
inductive OffendsAt (w : WordList) (o : Origin) : Nat → Failure → Prop
  | blank : Text.isBlank o.text = true → OffendsAt w o 0 (.blankEntry o)
  | missing {before after : List String} {token : String} :
      Text.isBlank o.text = false → w.contains o.text = false →
      Text.FallsInto o.text (before ++ token :: after) →
      (∀ word ∈ before, w.contains word = true) → w.contains token = false →
      OffendsAt w o before.length (.missingWord token o)

variable {w w' : WordList} {o : Origin} {e f : Failure} {k j : Nat}

theorem offends_iff : w.Offends o e ↔ ∃ k, w.OffendsAt o k e := by
  constructor
  · intro h
    cases h with
    | blank blank => exact ⟨_, .blank blank⟩
    | missing visible other split known missing =>
        exact ⟨_, .missing visible other split known missing⟩
  · rintro ⟨k, h⟩
    cases h with
    | blank blank => exact .blank blank
    | missing visible other split known missing => exact .missing visible other split known missing

theorem OffendsAt.unique (h : w.OffendsAt o k e) (h' : w.OffendsAt o j f) : k = j := by
  cases h with
  | blank blank =>
      cases h' with
      | blank _ => rfl
      | missing visible => cases blank.symm.trans visible
  | @missing before after token visible _ split known missing =>
      cases h' with
      | blank blank => cases blank.symm.trans visible
      | @missing before' after' token' _ _ split' known' missing' =>
          -- both are the words at the front of the tokens
          have front : ∀ {before after : List String} {token : String},
              (∀ word ∈ before, w.contains word = true) → w.contains token = false →
              (before ++ token :: after).takeWhile w.contains = before := by
            intro before after token known missing
            rw [List.takeWhile_append_of_pos known,
              List.takeWhile_cons_of_neg (by simp [missing]), List.append_nil]
          have same : before ++ token :: after = before' ++ token' :: after' :=
            (Text.tokens_eq_iff.mpr split).symm.trans (Text.tokens_eq_iff.mpr split')
          rw [← front known missing, same, front known' missing']

/-- What offends under more words offends under fewer, at the same token or before it. -/
theorem OffendsAt.of_more (more : ∀ token ∈ w.tokens, token ∈ w'.tokens)
    (h : w'.OffendsAt o k e) : ∃ j f, w.OffendsAt o j f ∧ j ≤ k := by
  have fewer : ∀ {token : String}, w'.contains token = false → w.contains token = false := by
    intro token missing
    rw [← Bool.not_eq_true, contains_iff] at missing ⊢
    exact mt (more token) missing
  cases h with
  | blank blank => exact ⟨0, _, .blank blank, Nat.le_refl 0⟩
  | @missing before after token visible other split known missing =>
      -- the first of these tokens that is no word of the shorter list
      obtain ⟨first, found⟩ : ∃ first,
          (before ++ [token]).find? (fun word => !w.contains word) = some first := by
        refine Option.isSome_iff_exists.mp (List.find?_isSome.mpr ⟨token, by simp, ?_⟩)
        simp [fewer missing]
      obtain ⟨first_missing, front, rest, whole, front_known⟩ :=
        List.find?_eq_some_iff_append.mp found
      have split_first : Text.FallsInto o.text (front ++ first :: (rest ++ after)) := by
        have regrouped : before ++ token :: after = front ++ first :: (rest ++ after) := by
          simpa using congrArg (· ++ after) whole
        exact regrouped ▸ split
      have length := congrArg List.length whole
      simp only [List.length_append, List.length_cons, List.length_nil] at length
      exact ⟨front.length, _, .missing visible (fewer other) split_first
        (by simpa using front_known) (by simpa using first_missing), by omega⟩

theorem check_congr (same : ∀ token, w.contains token = w'.contains token) :
    w.check o = w'.check o := by
  simp only [check, same]

theorem checkFrom_congr (same : ∀ token, w.contains token = w'.contains token) (c : Collection) :
    ∀ {texts : List String} {index : Nat},
      w.checkFrom c index texts = w'.checkFrom c index texts := by
  intro texts
  induction texts with
  | nil => intro index; rfl
  | cons text rest ih =>
      intro index
      rw [checkFrom, checkFrom, check_congr same, ih]

end WordList

/-! ## The whole request -/

namespace Request

/-- A position, and how many tokens of its entry are passed. -/
structure Place where
  position : Position
  passed : Nat
deriving DecidableEq, Repr

/-- The one place is the other, or comes before it. -/
def Place.NotAfter (p q : Place) : Prop :=
  p.position.Before q.position ∨ p.position = q.position ∧ p.passed ≤ q.passed

/-- `r.FailsAt place e`: at this place something is wrong with the request, namely `e`. -/
inductive FailsAt (r : Request) : Place → Failure → Prop
  | rule {i k : Nat} {text : String} {e : Failure} :
      r.grammar[i]? = some text → r.words.OffendsAt ⟨.grammar, i + 1, text⟩ k e →
      FailsAt r ⟨.rule (i + 1), k⟩ e
  | vocabulary : r.words.words = [] → r.sentences = [] →
      FailsAt r ⟨.vocabulary, 0⟩ .emptyVocabulary
  | sentence {i k : Nat} {text : String} {e : Failure} :
      r.sentences[i]? = some text → r.words.OffendsAt ⟨.sentences, i + 1, text⟩ k e →
      FailsAt r ⟨.sentence (i + 1), k⟩ e

/-- Validation reports `e`, which is wrong at this place, and nothing is wrong before it. -/
structure StopsAt (r : Request) (place : Place) (e : Failure) : Prop where
  reported : r.validate = .error e
  wrong : r.FailsAt place e
  first : ∀ other f, r.FailsAt other f → place.NotAfter other

variable {r : Request} {e f : Failure} {p : Position} {k j : Nat} {place : Place}

theorem fails_iff : r.Fails p e ↔ ∃ k, r.FailsAt ⟨p, k⟩ e := by
  constructor
  · intro h
    cases h with
    | rule at_i offends =>
        obtain ⟨k, offends⟩ := WordList.offends_iff.mp offends
        exact ⟨k, .rule at_i offends⟩
    | vocabulary no_words no_sentences => exact ⟨0, .vocabulary no_words no_sentences⟩
    | sentence at_i offends =>
        obtain ⟨k, offends⟩ := WordList.offends_iff.mp offends
        exact ⟨k, .sentence at_i offends⟩
  · rintro ⟨k, h⟩
    cases h with
    | rule at_i offends => exact .rule at_i (WordList.offends_iff.mpr ⟨k, offends⟩)
    | vocabulary no_words no_sentences => exact .vocabulary no_words no_sentences
    | sentence at_i offends => exact .sentence at_i (WordList.offends_iff.mpr ⟨k, offends⟩)

theorem FailsAt.unique (h : r.FailsAt ⟨p, k⟩ e) (h' : r.FailsAt ⟨p, j⟩ f) : k = j := by
  cases h with
  | rule at_i offends =>
      cases h' with
      | rule at_i' offends' =>
          obtain rfl := Option.some.inj (at_i.symm.trans at_i')
          exact offends.unique offends'
  | vocabulary _ _ =>
      cases h' with
      | vocabulary _ _ => rfl
  | sentence at_i offends =>
      cases h' with
      | sentence at_i' offends' =>
          obtain rfl := Option.some.inj (at_i.symm.trans at_i')
          exact offends.unique offends'

theorem exists_stopsAt (h : r.validate = .error e) : ∃ place, r.StopsAt place e := by
  obtain ⟨p, fails, least⟩ := firstOffence_of_validate h
  obtain ⟨k, wrong⟩ := fails_iff.mp fails
  refine ⟨⟨p, k⟩, h, wrong, ?_⟩
  rintro ⟨q, j⟩ f wrong'
  rcases Position.before_or_eq_or_before p q with before | rfl | before
  · exact .inl before
  · exact .inr ⟨rfl, Nat.le_of_eq (wrong.unique wrong')⟩
  · exact absurd before (least q f (fails_iff.mpr ⟨j, wrong'⟩))

theorem exists_stopsAt_of_failsAt (wrong : r.FailsAt place e) :
    ∃ first f, r.StopsAt first f ∧ first.NotAfter place := by
  cases h : r.validate with
  | ok _ => exact absurd (fails_iff.mpr ⟨_, wrong⟩) (validate_eq_ok_iff.mp h).not_fails
  | error f =>
      obtain ⟨first, stops⟩ := exists_stopsAt h
      exact ⟨first, f, stops, stops.first place e wrong⟩

variable {w w' : WordList} {grammar sentences : List String}

/-- What is wrong with more words is wrong with fewer, at the same token or before it. -/
theorem FailsAt.of_more (more : ∀ token ∈ w.tokens, token ∈ w'.tokens)
    (h : FailsAt ⟨w', grammar, sentences⟩ place e) :
    ∃ j f, FailsAt ⟨w, grammar, sentences⟩ ⟨place.position, j⟩ f ∧ j ≤ place.passed := by
  cases h with
  | rule at_i offends =>
      obtain ⟨j, f, offends, le⟩ := offends.of_more more
      exact ⟨j, f, .rule at_i offends, le⟩
  | vocabulary no_words no_sentences =>
      have none : w.words = [] := by
        refine List.eq_nil_iff_forall_not_mem.mpr fun word among => ?_
        have token := more word.token (List.mem_map_of_mem among)
        simp only [WordList.tokens] at token
        rw [no_words] at token
        exact absurd token List.not_mem_nil
      exact ⟨0, _, .vocabulary none no_sentences, Nat.le_refl 0⟩
  | sentence at_i offends =>
      obtain ⟨j, f, offends, le⟩ := offends.of_more more
      exact ⟨j, f, .sentence at_i offends, le⟩

theorem exists_stopsAt_of_more (more : ∀ token ∈ w.tokens, token ∈ w'.tokens)
    (h : validate ⟨w', grammar, sentences⟩ = .error e) :
    ∃ place' place f, StopsAt ⟨w', grammar, sentences⟩ place' e ∧
      StopsAt ⟨w, grammar, sentences⟩ place f ∧ place.NotAfter place' := by
  obtain ⟨place', stops'⟩ := exists_stopsAt h
  obtain ⟨j, _, wrong, le⟩ := stops'.wrong.of_more more
  obtain ⟨place, f, stops, before | ⟨same, le'⟩⟩ := exists_stopsAt_of_failsAt wrong
  · exact ⟨place', place, f, stops', stops, .inl before⟩
  · exact ⟨place', place, f, stops', stops, .inr ⟨same, Nat.le_trans le' le⟩⟩

/-- Validation asks which tokens are words, and nothing else. -/
theorem validate_congr (same : ∀ token, token ∈ w.tokens ↔ token ∈ w'.tokens) :
    validate ⟨w, grammar, sentences⟩ = validate ⟨w', grammar, sentences⟩ := by
  have known : ∀ token, w.contains token = w'.contains token := by
    intro token
    rw [Bool.eq_iff_iff, WordList.contains_iff, WordList.contains_iff, same]
  have empty : w.isEmpty = w'.isEmpty := by
    have none : ∀ v : WordList, v.isEmpty = true ↔ ∀ token, token ∉ v.tokens := by
      intro v
      rw [WordList.isEmpty, List.isEmpty_iff, ← List.eq_nil_iff_forall_not_mem, WordList.tokens,
        List.map_eq_nil_iff]
    simp only [Bool.eq_iff_iff, none, same]
  simp only [validate, validateGrammar, validateSentences, WordList.checkFrom_congr known, empty]

/-- The main result: more words never make a valid request invalid, and never bring the first
offence forward; and of the words only the tokens count. -/
theorem validate_of_more_words (w w' : WordList) (grammar sentences : List String)
    (more : ∀ token ∈ w.tokens, token ∈ w'.tokens) :
    let r : Request := ⟨w, grammar, sentences⟩
    let r' : Request := ⟨w', grammar, sentences⟩
    (r.validate = .ok () → r'.validate = .ok ()) ∧
    (∀ e', r'.validate = .error e' → ∃ place' place e, r'.StopsAt place' e' ∧
      r.StopsAt place e ∧ place.NotAfter place') ∧
    ((∀ token ∈ w'.tokens, token ∈ w.tokens) → r.validate = r'.validate) := by
  intro r r'
  refine ⟨fun valid => ?_, fun e' => exists_stopsAt_of_more more, fun fewer => ?_⟩
  · cases h : r'.validate with
    | ok _ => rfl
    | error e' =>
        obtain ⟨_, _, e, _, stops, _⟩ := exists_stopsAt_of_more more h
        cases valid.symm.trans stops.reported
  · exact validate_congr fun token => ⟨more token, fewer token⟩

/-- A phrase among the words lets a whole rule pass, so that the offence is found in the next. -/
theorem validate_of_more_words_phrase :
    let w : WordList := ⟨[⟨"yes", ["Y"]⟩], by decide⟩
    let w' : WordList := ⟨[⟨"no way", []⟩, ⟨"yes", ["Y"]⟩], by decide⟩
    let r : Request := ⟨w, ["no way", "yes maybe"], []⟩
    let r' : Request := ⟨w', ["no way", "yes maybe"], []⟩
    (∀ token ∈ w.tokens, token ∈ w'.tokens) ∧
      r.validate = .error (.missingWord "no" ⟨.grammar, 1, "no way"⟩) ∧
      r'.validate = .error (.missingWord "maybe" ⟨.grammar, 2, "yes maybe"⟩) ∧
      ∃ place' place e, r'.StopsAt place' (.missingWord "maybe" ⟨.grammar, 2, "yes maybe"⟩) ∧
        r.StopsAt place e ∧ place.NotAfter place' := by
  intro w w' r r'
  have more : ∀ token ∈ w.tokens, token ∈ w'.tokens := by decide
  have fails' : r'.validate = .error (.missingWord "maybe" ⟨.grammar, 2, "yes maybe"⟩) := rfl
  exact ⟨more, rfl, fails',
    (validate_of_more_words w w' ["no way", "yes maybe"] [] more).2.1 _ fails'⟩

end Request
end SpeechConfig
