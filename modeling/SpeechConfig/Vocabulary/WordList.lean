/-
# Word lists

The vocabulary of a recogniser: words with their phonemes, in the order in which
they were given, no token twice.  The list is its own view — `words` is what
iteration sees, and look-up finds the one word with a token.
-/
namespace SpeechConfig

/-- A word: the token that texts refer to, and the phonemes it is spoken with. -/
structure Word where
  token : String
  phonemes : List String
deriving DecidableEq, Repr, Inhabited

/-- Words in the order of their insertion, with pairwise distinct tokens. -/
@[ext] structure WordList where
  words : List Word
  distinct : (words.map Word.token).Nodup
deriving DecidableEq, Repr

namespace WordList

def empty : WordList :=
  ⟨[], by simp⟩

instance : Inhabited WordList := ⟨empty⟩

def tokens (w : WordList) : List String :=
  w.words.map Word.token

def contains (w : WordList) (token : String) : Bool :=
  w.tokens.contains token

def phonemes? (w : WordList) (token : String) : Option (List String) :=
  (w.words.find? fun word => word.token == token).map Word.phonemes

def size (w : WordList) : Nat :=
  w.words.length

def isEmpty (w : WordList) : Bool :=
  w.words.isEmpty

theorem distinct_append_singleton {ws : List Word} {word : Word}
    (h : (ws.map Word.token).Nodup) (fresh : word.token ∉ ws.map Word.token) :
    ((ws ++ [word]).map Word.token).Nodup := by
  rw [List.map_append, List.nodup_append]
  refine ⟨h, by simp, ?_⟩
  intro a ha b hb heq
  simp only [List.map_cons, List.map_nil, List.mem_singleton] at hb
  exact fresh (by rw [← hb, ← heq]; exact ha)

/-- Puts a word at the end; refused when its token is present. -/
def insert? (w : WordList) (word : Word) : Option WordList :=
  if fresh : word.token ∈ w.words.map Word.token then none
  else some ⟨w.words ++ [word], distinct_append_singleton w.distinct fresh⟩

/-- Inserts words one after another; the first token that is already present is
the error. -/
def insertAll (w : WordList) : List Word → Except String WordList
  | [] => .ok w
  | word :: rest =>
    match w.insert? word with
    | some w' => w'.insertAll rest
    | none => .error word.token

/-- The list of the given words, or the first token that repeats an earlier one. -/
def ofList (words : List Word) : Except String WordList :=
  empty.insertAll words

/-! ## What the operations do to the view -/

theorem contains_iff {w : WordList} {token : String} :
    w.contains token = true ↔ token ∈ w.tokens := by
  simp [contains]

/-- A word is refused exactly when its token is present. -/
theorem insert?_eq_none_iff {w : WordList} {word : Word} :
    w.insert? word = none ↔ word.token ∈ w.tokens := by
  unfold insert? tokens
  split
  · rename_i present
    exact ⟨fun _ => present, fun _ => rfl⟩
  · rename_i fresh
    exact ⟨fun h => (nomatch h), fun present => absurd present fresh⟩

/-- A word that is taken stands behind all others. -/
theorem words_insert? {w v : WordList} {word : Word} (h : w.insert? word = some v) :
    v.words = w.words ++ [word] := by
  unfold insert? at h
  split at h
  · exact nomatch h
  · rw [← Option.some.inj h]

end WordList
end SpeechConfig
