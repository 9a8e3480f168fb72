/-
# `SpeechConfig.Proofs.Vocabulary.InsertionOrder` — a word list is a map that keeps its order

## What is proved, with every binder written out

For all calls `calls` and `calls'` of an insertion, in any order and with any repetitions, each
run from the empty list:

* a call is refused exactly if an earlier call had its token, by `duplicateWord` with that token,
  and the list stays as it is;
* what is seen of the list at the end is the map with the words taken, in their order (`Shows`);
* two lists at the end of runs are equal, index and all, if their entries are.

## Two structures in step

A list as it is held in memory is an array of entries and an index from tokens to positions
(`Indexed`).  Nothing in its type keeps the two in step.  The invariant that does is `Holds`: the
entries are the words of a `WordList`, and a token's position is that of the first word with this
token.  As tokens are distinct, that word is the only one.
-/
import Mathlib.Data.List.Nodup
import Mathlib.Data.String.Basic
import SpeechConfig.Vocabulary.Indexed

namespace SpeechConfig

namespace WordList

variable {w : WordList} {word : Word} {token : String}

/-- The list after a call: a word that is refused leaves it as it is. -/
def offer (w : WordList) (word : Word) : WordList :=
  (w.insert? word).getD w

def offers (w : WordList) (calls : List Word) : WordList :=
  calls.foldl offer w

theorem mem_tokens_offer :
    token ∈ (w.offer word).tokens ↔ token ∈ w.tokens ∨ token = word.token := by
  unfold offer
  cases taken : w.insert? word with
  | none =>
      have present := insert?_eq_none_iff.mp taken
      exact ⟨.inl, fun h => h.elim id (· ▸ present)⟩
  | some v =>
      rw [Option.getD_some, tokens, words_insert? taken, tokens]
      simp

theorem eq_of_token_eq {v : Word} (hv : v ∈ w.words) (hword : word ∈ w.words)
    (same : v.token = word.token) : v = word :=
  List.inj_on_of_nodup_map w.distinct hv hword same

theorem phonemes?_of_mem (h : word ∈ w.words) : w.phonemes? word.token = some word.phonemes := by
  unfold phonemes?
  cases found : w.words.find? fun v => v.token == word.token with
  | none => exact absurd (beq_self_eq_true _) (List.find?_eq_none.mp found word h)
  | some v =>
      have same : v.token = word.token := by simpa using List.find?_some found
      rw [eq_of_token_eq (List.mem_of_find?_eq_some found) h same]
      rfl

theorem phonemes?_eq_none (absent : ∀ word ∈ w.words, word.token ≠ token) :
    w.phonemes? token = none := by
  rw [phonemes?, Option.map_eq_none_iff, List.find?_eq_none]
  simpa using absent

end WordList

namespace Indexed

/-- Calls one after another: their answers, and the list at the end. -/
def insertEach : Indexed → List Word → List (Except Failure Unit) × Indexed
  | l, [] => ([], l)
  | l, word :: rest =>
    let call := l.insert word
    let calls := call.2.insertEach rest
    (call.1 :: calls.1, calls.2)

def taken (calls : List Word) (answers : List (Except Failure Unit)) : List Word :=
  (calls.zip answers).filterMap fun
    | (word, .ok ()) => some word
    | (_, .error _) => none

/-- The answer to a call behind calls with these tokens. -/
def answerBehind (tokens : List String) (word : Word) : Except Failure Unit :=
  if word.token ∈ tokens then .error (.duplicateWord word.token) else .ok ()

/-- What is seen of a list that is the map with these words, in this order. -/
structure Shows (l : Indexed) (words : List Word) : Prop where
  iterates : l.entries.toList = words
  distinct : (words.map Word.token).Nodup
  tokens : l.tokens = words.map Word.token
  size : l.size = words.length
  isEmpty : l.isEmpty = true ↔ words = []
  contains (token : String) : l.contains token = true ↔ ∃ word ∈ words, word.token = token
  finds : ∀ word ∈ words, l.phonemes word.token = .ok (some word.phonemes)
  misses (token : String) : (∀ word ∈ words, word.token ≠ token) → l.phonemes token = .ok none
  refuses (word : Word) : l.contains word.token = true →
    l.insert word = (.error (.duplicateWord word.token), l)
  takes (word : Word) : l.contains word.token = false →
    (l.insert word).1 = .ok () ∧ (l.insert word).2.entries.toList = words ++ [word]

/-- Nothing distinguishes a `WordList` from a list in memory. -/
structure SeenAs (l : Indexed) (w : WordList) : Prop where
  words : w.words = l.entries.toList
  tokens : w.tokens = l.tokens
  size : w.size = l.size
  isEmpty : w.isEmpty = l.isEmpty
  contains (token : String) : w.contains token = l.contains token
  phonemes (token : String) : .ok (w.phonemes? token) = l.phonemes token
  refuses (word : Word) : w.insert? word = none ↔
    (l.insert word).1 = .error (.duplicateWord word.token)
  takes (word : Word) (v : WordList) : w.insert? word = some v →
    v.words = (l.insert word).2.entries.toList

/-- A list holds the words of a `WordList`, and its index the position of the first word with
each token. -/
structure Holds (l : Indexed) (w : WordList) : Prop where
  entries : l.entries.toList = w.words
  positions (token : String) :
    l.positions[token]? = w.words.findIdx? fun word => word.token == token

variable {l l' : Indexed} {w : WordList} {calls : List Word}

namespace Holds

theorem empty : Indexed.empty.Holds WordList.empty :=
  ⟨rfl, fun _ => Std.ExtHashMap.getElem?_empty⟩

theorem tokens (h : l.Holds w) : l.tokens = w.tokens :=
  congrArg (List.map Word.token) h.entries

theorem size (h : l.Holds w) : l.size = w.size :=
  congrArg List.length h.entries

theorem isEmpty (h : l.Holds w) : l.isEmpty = w.isEmpty := by
  rw [Indexed.isEmpty, ← Array.isEmpty_toList, h.entries, WordList.isEmpty]

theorem contains (h : l.Holds w) (token : String) : l.contains token = w.contains token := by
  rw [Indexed.contains, Std.ExtHashMap.contains_eq_isSome_getElem?, h.positions,
    Bool.eq_iff_iff, WordList.contains_iff]
  simp [WordList.tokens]

/-- A position of the index is that of an entry. -/
theorem phonemes (h : l.Holds w) (token : String) : l.phonemes token = .ok (w.phonemes? token) := by
  unfold Indexed.phonemes
  rw [h.positions, WordList.phonemes?, List.find?_eq_bind_findIdx?_getElem?]
  cases found : w.words.findIdx? fun word => word.token == token with
  | none => rfl
  | some i =>
      obtain ⟨bound, -⟩ := List.findIdx?_eq_some_iff_getElem.mp found
      have entry : l.entries[i]? = some w.words[i] := by
        rw [← Array.getElem?_toList, h.entries, List.getElem?_eq_getElem bound]
      simp [entry, bound]

/-- What a call does: it is refused and changes nothing, or the word stands behind all others
and is filed under its token. -/
theorem insert (h : l.Holds w) (word : Word) :
    (word.token ∈ w.tokens ∧ w.offer word = w ∧
      l.insert word = (.error (.duplicateWord word.token), l)) ∨
    (word.token ∉ w.tokens ∧ (w.offer word).words = w.words ++ [word] ∧
      (l.insert word).1 = .ok () ∧ (l.insert word).2.Holds (w.offer word)) := by
  have present : l.contains word.token = true ↔ word.token ∈ w.tokens := by
    rw [h.contains, WordList.contains_iff]
  cases took : w.insert? word with
  | none =>
      have known := WordList.insert?_eq_none_iff.mp took
      refine .inl ⟨known, by rw [WordList.offer, took]; rfl, ?_⟩
      rw [Indexed.insert, if_pos (present.mpr known)]
  | some v =>
      have fresh : word.token ∉ w.tokens := fun known => by
        rw [WordList.insert?_eq_none_iff.mpr known] at took
        cases took
      have offered : w.offer word = v := by rw [WordList.offer, took]; rfl
      have words := WordList.words_insert? took
      have inserts : l.insert word =
          (.ok (), ⟨l.entries.push word, l.positions.insert word.token l.size⟩) := by
        rw [Indexed.insert, if_neg (fun known => fresh (present.mp known))]
      rw [offered, inserts]
      refine .inr ⟨fresh, words, rfl, by rw [Array.toList_push, h.entries, words], fun token => ?_⟩
      rw [Std.ExtHashMap.getElem?_insert, words, List.findIdx?_append, h.positions, h.size]
      by_cases same : word.token = token
      · -- the word is the first with its token, as none of the others has it
        have unseen : w.words.findIdx? (fun v => v.token == token) = none := by
          rw [List.findIdx?_eq_none_iff]
          intro v hv
          have other : v.token ≠ word.token := fun eq => fresh (eq ▸ List.mem_map_of_mem hv)
          simpa [← same] using other
        simp [unseen, same, WordList.size]
      · simp [same]

theorem answer (h : l.Holds w) (word : Word) : (l.insert word).1 = answerBehind w.tokens word := by
  unfold answerBehind
  obtain ⟨known, -, refused⟩ | ⟨fresh, -, taken, -⟩ := h.insert word
  · rw [if_pos known, refused]
  · rw [if_neg fresh, taken]

theorem offer (h : l.Holds w) (word : Word) : (l.insert word).2.Holds (w.offer word) := by
  obtain ⟨-, same, refused⟩ | ⟨-, -, -, holds⟩ := h.insert word
  · rw [same, refused]
    exact h
  · exact holds

theorem insertEach (h : l.Holds w) (calls : List Word) :
    (l.insertEach calls).2.Holds (w.offers calls) ∧
      (w.offers calls).words = w.words ++ taken calls (l.insertEach calls).1 := by
  induction calls generalizing l w with
  | nil => exact ⟨h, (List.append_nil _).symm⟩
  | cons word rest ih =>
      obtain ⟨holds, words⟩ := ih (h.offer word)
      refine ⟨holds, words.trans ?_⟩
      obtain ⟨-, same, refused⟩ | ⟨-, grown, took, -⟩ := h.insert word
      · rw [same, Indexed.insertEach, taken]
        simp only [refused]
        rfl
      · rw [grown, List.append_assoc, Indexed.insertEach, taken]
        simp only [took]
        rfl

theorem answers (h : l.Holds w) {i : Nat} {word : Word} (at_i : calls[i]? = some word) :
    (l.insertEach calls).1[i]? =
      some (answerBehind (w.tokens ++ (calls.take i).map Word.token) word) := by
  induction calls generalizing l w i with
  | nil => simp at at_i
  | cons first rest ih =>
      cases i with
      | zero =>
          obtain rfl : first = word := by simpa using at_i
          simp [Indexed.insertEach, h.answer]
      | succ i =>
          have behind := ih (h.offer first) at_i
          rw [Indexed.insertEach, List.getElem?_cons_succ, behind]
          simp [answerBehind, WordList.mem_tokens_offer, or_assoc]

end Holds

theorem Holds.shows (h : l.Holds w) : l.Shows w.words where
  iterates := h.entries
  distinct := w.distinct
  tokens := h.tokens
  size := h.size
  isEmpty := by rw [h.isEmpty, WordList.isEmpty, List.isEmpty_iff]
  contains token := by
    rw [h.contains, WordList.contains_iff, WordList.tokens, List.mem_map]
  finds word at_word := by rw [h.phonemes, WordList.phonemes?_of_mem at_word]
  misses token absent := by rw [h.phonemes, WordList.phonemes?_eq_none absent]
  refuses word present := by rw [Indexed.insert, if_pos present]
  takes word absent := by
    rw [Indexed.insert, absent, if_neg Bool.false_ne_true, Array.toList_push, h.entries]
    exact ⟨rfl, rfl⟩

/-- A list is seen as the `WordList` whose words it holds. -/
theorem Holds.seenAs (h : l.Holds w) : l.SeenAs w where
  words := h.entries.symm
  tokens := h.tokens.symm
  size := h.size.symm
  isEmpty := h.isEmpty.symm
  contains token := (h.contains token).symm
  phonemes token := (h.phonemes token).symm
  refuses word := by
    rw [WordList.insert?_eq_none_iff, h.answer, answerBehind]
    split <;> simp_all
  takes word v took := by
    rw [(h.offer word).entries, WordList.offer, took, Option.getD_some]

theorem Holds.eq_iff {w' : WordList} (h : l.Holds w) (h' : l'.Holds w') :
    l = l' ↔ l.entries = l'.entries := by
  refine ⟨congrArg Indexed.entries, fun same => ?_⟩
  have words : w.words = w'.words := by rw [← h.entries, ← h'.entries, same]
  have positions : l.positions = l'.positions :=
    Std.ExtHashMap.ext_getElem? fun token => by rw [h.positions, h'.positions, words]
  cases l
  cases l'
  simp_all

/-- The main result: after every run of calls the list is the ordered map with the words taken,
taken are those whose token no earlier call had, the entries determine the index, and the
`WordList` of the same calls is seen as this list. -/
theorem insertion_ordered (calls calls' : List Word) :
    let run := empty.insertEach calls
    let run' := empty.insertEach calls'
    run.2.Shows (taken calls run.1) ∧
      (∀ i word, calls[i]? = some word →
        run.1[i]? = some (answerBehind ((calls.take i).map Word.token) word)) ∧
      (run.2 = run'.2 ↔ run.2.entries = run'.2.entries) ∧
      run.2.SeenAs (WordList.empty.offers calls) := by
  intro run run'
  obtain ⟨holds, words⟩ := Holds.empty.insertEach calls
  obtain ⟨holds', -⟩ := Holds.empty.insertEach calls'
  have shows := holds.shows
  rw [words] at shows
  exact ⟨shows, fun _ _ => Holds.empty.answers, holds.eq_iff holds', holds.seenAs⟩

end Indexed
end SpeechConfig
