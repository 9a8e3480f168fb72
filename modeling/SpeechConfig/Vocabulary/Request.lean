/-
# Requests

What a caller asks for: a vocabulary, the grammar rules to recognise, and the
sentences to learn from.  An entry of either list is known by its place.
-/
import SpeechConfig.Vocabulary.WordList
import SpeechConfig.Text.Quoted

namespace SpeechConfig

/-- A vocabulary with the rules and sentences over it. -/
structure Request where
  words : WordList
  grammar : List String
  sentences : List String
deriving DecidableEq, Repr, Inhabited

/-- The two lists of entries in a request. -/
inductive Collection where
  | grammar
  | sentences
deriving DecidableEq, Repr

/-- The place of an entry: its list, its number there counted from one, and its
text. -/
structure Origin where
  collection : Collection
  index : Nat
  text : String
deriving DecidableEq, Repr

/-- The place as diagnostics name it. -/
def Origin.describe (o : Origin) : String :=
  let kind := match o.collection with
    | .grammar => "grammar rule"
    | .sentences => "sentence"
  kind ++ " #" ++ Nat.repr o.index ++ " (" ++ Text.quoted o.text ++ ")"

end SpeechConfig
