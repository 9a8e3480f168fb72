/-
# Word lists in memory

A word list held as an array of entries with an index from tokens to positions, so
that looking up a token does not go through the words.  Nothing in the type keeps
the two in step: insertion does.
-/
import Std.Data.ExtHashMap
import SpeechConfig.Failure

namespace SpeechConfig

/-- A word list in memory: the entries, and the position of each token among them. -/
structure Indexed where
  entries : Array Word
  positions : Std.ExtHashMap String Nat

namespace Indexed

def empty : Indexed :=
  ⟨#[], ∅⟩

def tokens (l : Indexed) : List String :=
  l.entries.toList.map Word.token

def size (l : Indexed) : Nat :=
  l.entries.size

def isEmpty (l : Indexed) : Bool :=
  l.entries.isEmpty

def contains (l : Indexed) (token : String) : Bool :=
  l.positions.contains token

/-- The phonemes of the entry at the position of this token.  A position behind the last entry
is an error. -/
def phonemes (l : Indexed) (token : String) : Except Nat (Option (List String)) :=
  match l.positions[token]? with
  | none => .ok none
  | some i =>
    match l.entries[i]? with
    | none => .error i
    | some word => .ok (some word.phonemes)

/-- Puts a word at the end and its position into the index; refused when its token is present. -/
def insert (l : Indexed) (word : Word) : Except Failure Unit × Indexed :=
  if l.contains word.token then (.error (.duplicateWord word.token), l)
  else (.ok (), ⟨l.entries.push word, l.positions.insert word.token l.size⟩)

end Indexed
end SpeechConfig
