/-
# Training corpora

One line per sentence between the marks for its start and end.  Without sentences
the words themselves are the corpus, one line each.
-/
import SpeechConfig.Vocabulary.Request

namespace SpeechConfig

/-- The text of a corpus, and whether words stood in for sentences. -/
structure Corpus where
  text : String
  fromWords : Bool
deriving DecidableEq, Repr

namespace Corpus

def line (sentence : String) : String :=
  "<s> " ++ sentence ++ " </s>\n"

/-- The sentences to write: those given, or else one per word. -/
def bodies (w : WordList) (sentences : List String) : List String :=
  if sentences.isEmpty then w.tokens else sentences

/-- The corpus of a vocabulary and sentences over it. -/
def render (w : WordList) (sentences : List String) : Corpus :=
  ⟨String.join ((bodies w sentences).map line), sentences.isEmpty⟩

end Corpus
end SpeechConfig
