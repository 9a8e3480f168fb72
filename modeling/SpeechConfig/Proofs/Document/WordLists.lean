/-
# `SpeechConfig.Proofs.Document.WordLists` — a word list and its document

## What is proved, with every binder written out

For all words `words`, in any order and with any repetitions of tokens, and every text `text` of
the object that has them as its members in this order:

    WordList.ofList words = .ok w ↔ w.words = words
    WordList.ofList words = .error token ↔ FirstRepeat words token
    WordList.ofList words = .ok w → readDocument WordList.read text = .ok w
    WordList.ofList words = .error token →
      readDocument WordList.read text = .error (.mismatch (.duplicateWord token))

so the document and the call come to the same list, or refuse the same token in the same words;
and a list that comes about is written as that object.

## One induction for both

The reader takes the words one after another as `WordList.insertAll` does, and both stop at the
first token that is present (`ofMembers_entries`).  That this is the first token to repeat an
earlier one is a fact about insertion alone.
-/
import SpeechConfig.Document.Vocabulary
import SpeechConfig.Failure
import SpeechConfig.Proofs.Json.Meaning

namespace SpeechConfig

open Json (Fault IsDocument)

/-! ## Lists of strings -/

namespace Json

variable {v : Json} {items : List Json} {xs : List String}

theorem mapM_ofString_eq_ok_iff {expected : String} :
    items.mapM (ofString expected) = .ok xs ↔ items = xs.map .string := by
  induction items generalizing xs with
  | nil =>
      cases xs with
      | nil => exact ⟨fun _ => rfl, fun _ => rfl⟩
      | cons x xs => exact ⟨nofun, nofun⟩
  | cons item rest ih =>
      simp only [List.mapM_cons, bind_eq_ok_iff, ofString_eq_ok_iff, ih]
      constructor
      · rintro ⟨s, rfl, ys, rfl, ⟨⟩⟩
        rfl
      · intro h
        cases xs with
        | nil => cases h
        | cons x xs =>
            obtain ⟨rfl, rfl⟩ := List.cons.inj h
            exact ⟨x, rfl, xs, rfl, rfl⟩

def ofStrings : Json → Except Fault (List String) :=
  ofList (ofString "a string")

theorem reads_strings : Reads readStrings ofStrings :=
  (reads_string "a string").list

theorem ofStrings_eq_ok_iff : ofStrings v = .ok xs ↔ v = strings xs := by
  cases v with
  | list items => simp [ofStrings, ofList, mapM_ofString_eq_ok_iff, strings]
  | null | bool _ | number _ | string _ | object _ => simp [ofStrings, ofList, strings]

end Json

namespace WordList

variable {w w' : WordList} {words : List Word} {word : Word} {token : String}

/-! ## Words one after another -/

theorem not_nodup_of_present (present : word.token ∈ w.tokens) :
    ¬ ((w.words ++ word :: words).map Word.token).Nodup := by
  intro distinct
  rw [List.map_append, List.map_cons, List.nodup_append] at distinct
  exact distinct.2.2 _ present _ List.mem_cons_self rfl

theorem not_present_of_insert? {v : WordList} (took : w.insert? word = some v) :
    word.token ∉ w.tokens := by
  intro present
  rw [insert?_eq_none_iff.mpr present] at took
  cases took

theorem insertAll_eq_ok_iff : w.insertAll words = .ok w' ↔ w'.words = w.words ++ words := by
  induction words generalizing w with
  | nil =>
      rw [insertAll, List.append_nil]
      exact ⟨fun h => by rw [Except.ok.inj h], fun h => by rw [WordList.ext h]⟩
  | cons word rest ih =>
      rw [insertAll]
      cases took : w.insert? word with
      | none =>
          have present : word.token ∈ w.tokens := insert?_eq_none_iff.mp took
          exact ⟨nofun, fun h => absurd (h ▸ w'.distinct) (not_nodup_of_present present)⟩
      | some v =>
          simp only
          rw [ih, words_insert? took, List.append_assoc, List.singleton_append]

theorem insertAll_eq_error_iff :
    w.insertAll words = .error token ↔ ∃ before word behind, words = before ++ word :: behind ∧
      ((w.words ++ before).map Word.token).Nodup ∧ word.token ∈ (w.words ++ before).map Word.token ∧
      word.token = token := by
  induction words generalizing w with
  | nil => simp [insertAll]
  | cons first rest ih =>
      rw [insertAll]
      cases took : w.insert? first with
      | none =>
          have present : first.token ∈ w.tokens := insert?_eq_none_iff.mp took
          constructor
          · intro h
            have refused : first.token = token := Except.error.inj h
            refine ⟨[], first, rest, rfl, ?_, ?_, refused⟩
            · rw [List.append_nil]
              exact w.distinct
            · rw [List.append_nil]
              exact present
          · rintro ⟨before, word, behind, split, distinct, -, rfl⟩
            cases before with
            | nil => rw [(List.cons.inj split).1]
            | cons word' before =>
                obtain ⟨rfl, -⟩ := List.cons.inj split
                exact absurd distinct (not_nodup_of_present present)
      | some v =>
          simp only
          rw [ih, words_insert? took]
          constructor
          · rintro ⟨before, word, behind, rfl, distinct, repeated, same⟩
            exact ⟨first :: before, word, behind, rfl, by simpa using distinct,
              by simpa using repeated, same⟩
          · rintro ⟨before, word, behind, split, distinct, repeated, same⟩
            cases before with
            | nil =>
                obtain ⟨rfl, rfl⟩ := List.cons.inj split
                rw [List.append_nil] at repeated
                exact absurd repeated (not_present_of_insert? took)
            | cons word' before =>
                obtain ⟨rfl, rfl⟩ := List.cons.inj split
                exact ⟨before, word, behind, rfl, by simpa using distinct, by simpa using repeated,
                  same⟩

/-- The first token that an earlier word has. -/
def FirstRepeat (words : List Word) (token : String) : Prop :=
  ∃ before word behind, words = before ++ word :: behind ∧ (before.map Word.token).Nodup ∧
    word.token ∈ before.map Word.token ∧ word.token = token

theorem ofList_eq_ok_iff : ofList words = .ok w ↔ w.words = words := by
  simp [ofList, insertAll_eq_ok_iff, empty]

theorem ofList_eq_error_iff : ofList words = .error token ↔ FirstRepeat words token := by
  simp [ofList, insertAll_eq_error_iff, empty, FirstRepeat]

/-! ## Word lists as functions of values -/

/-- A word as a member of an object. -/
def entry (word : Word) : String × Json :=
  (word.token, Json.strings word.phonemes)

def objectOf (words : List Word) : Json :=
  .object (words.map entry)

def ofMembers (w : WordList) : List (String × Json) → Except Fault WordList
  | [] => .ok w
  | (token, value) :: rest => do
    let phonemes ← Json.ofStrings value
    match w.insert? ⟨token, phonemes⟩ with
    | some w => w.ofMembers rest
    | none => .error (.mismatch (.duplicateWord token))

def ofJson : Json → Except Fault WordList
  | .object members => empty.ofMembers members
  | v => .error (Json.unfit "a map from word to its phoneme list" v)

theorem readWords_eq {members : List (String × Json)} {first : Bool} {cs rest : List Char} {n : Nat}
    (spelt : Json.SpellsMembers first members cs) (few : members.length < n) :
    readWords n first w (cs ++ rest) = (w.ofMembers members).map fun x => (x, rest) := by
  induction members generalizing first cs n w with
  | nil =>
      obtain ⟨n, rfl⟩ := Nat.exists_eq_succ_of_ne_zero (Nat.ne_of_gt few)
      cases spelt with
      | nil hgap =>
          rw [List.append_assoc, List.singleton_append, readWords,
            Json.bind_of_ok (Json.nextKey_close hgap), ofMembers]
          exact Json.bind_of_ok (@Json.closeObject_close [] rest Json.Blank.nil)
  | cons member others ih =>
      obtain ⟨n, rfl⟩ := Nat.exists_eq_succ_of_ne_zero (Nat.ne_zero_of_lt few)
      cases spelt with
      | @cons _ token value _ before behind colon gap cs ds hbefore hbehind hcolon hgap value_spelt
          spelt =>
          have strings := Json.reads_strings.append value_spelt hgap (spelt.ends rest)
          simp only [List.append_assoc, List.cons_append]
          rw [readWords, Json.bind_of_ok (Json.nextKey_entry hbefore hbehind), ofMembers]
          simp only
          rw [Json.bind_of_ok (Json.takeColon_append hcolon), Json.bind_of_map strings]
          cases Json.ofStrings value with
          | error fault => rfl
          | ok phonemes =>
              simp only [bind, Except.bind]
              cases w.insert? ⟨token, phonemes⟩ with
              | none => rfl
              | some v => exact ih spelt (Nat.lt_of_succ_lt_succ few)

theorem reads : Json.Reads read ofJson := by
  refine Json.Reads.onNext fun {v c cs rest} spelt ends => ?_
  cases v with
  | object members =>
      generalize same : c :: cs = text at spelt
      cases spelt with
      | object spelt =>
          obtain ⟨rfl, rfl⟩ := List.cons.inj same
          have few := spelt.length_lt
          rw [if_pos rfl]
          exact readWords_eq spelt (by simp only [List.length_append]; omega)
  | null | bool _ | number _ | string _ | list _ =>
      rw [if_neg (by simp [spelt.brace_iff]), Json.wrongKind_append spelt ends]
      rfl

theorem ofMembers_entries : w.ofMembers (words.map entry) = match w.insertAll words with
    | .ok w => .ok w
    | .error token => .error (.mismatch (.duplicateWord token)) := by
  induction words generalizing w with
  | nil => rfl
  | cons word rest ih =>
      have phonemes := Json.ofStrings_eq_ok_iff.mpr (rfl : Json.strings word.phonemes = _)
      rw [List.map_cons, entry, ofMembers, phonemes, insertAll]
      simp only [bind, Except.bind]
      cases w.insert? word with
      | none => rfl
      | some v => exact ih

/-- The main result: the document of words and the call with these words agree. -/
theorem documents_agree (words : List Word) :
    (∀ w, ofList words = .ok w ↔ w.words = words) ∧
    (∀ token, ofList words = .error token ↔ FirstRepeat words token) ∧
    (objectOf words).IsDocument (objectOf words).compact ∧
    (∀ text, (objectOf words).IsDocument text →
      (∀ w, ofList words = .ok w → Json.readDocument read text = .ok w) ∧
      (∀ token, ofList words = .error token →
        Json.readDocument read text = .error (.mismatch (.duplicateWord token)) ∧
        Fault.message (.mismatch (.duplicateWord token)) =
          Failure.message (.duplicateWord token))) ∧
    ((words.map Word.token).Nodup →
      ∃ w, ofList words = .ok w ∧ w.toJson.compact = (objectOf words).compact) := by
  refine ⟨fun w => ofList_eq_ok_iff, fun token => ofList_eq_error_iff,
    Json.isDocument_compact _, fun text doc => ?_, fun distinct => ?_⟩
  · have answer : Json.readDocument read text = empty.ofMembers (words.map entry) :=
      reads.readDocument doc
    rw [ofMembers_entries] at answer
    refine ⟨fun w taken => ?_, fun token refused => ⟨?_, rfl⟩⟩
    · rw [answer, show empty.insertAll words = .ok w from taken]
    · rw [answer, show empty.insertAll words = .error token from refused]
  · exact ⟨⟨words, distinct⟩, ofList_eq_ok_iff.mpr rfl, rfl⟩

end WordList
end SpeechConfig
