/-
# Pronunciation dictionaries

One line per word: its token, then its phonemes, each behind a space.
-/
import SpeechConfig.Vocabulary.WordList

namespace SpeechConfig

/-- How phonemes are written: as they are, or without `-` and `_`. -/
inductive PhonemePolicy where
  | verbatim
  | stripSeparators
deriving DecidableEq, Repr, Inhabited

/-- A character that joins the parts of a phoneme's name. -/
def isSeparator (c : Char) : Bool :=
  c == '-' || c == '_'

/-- The written form of a phoneme. -/
def PhonemePolicy.write : PhonemePolicy → String → String
  | .verbatim, phoneme => phoneme
  | .stripSeparators, phoneme =>
    String.ofList (phoneme.toList.filter fun c => !isSeparator c)

namespace Dictionary

def line (policy : PhonemePolicy) (word : Word) : String :=
  word.token ++ String.join (word.phonemes.map fun p => " " ++ policy.write p) ++ "\n"

def render (policy : PhonemePolicy) (w : WordList) : String :=
  String.join (w.words.map (line policy))

end Dictionary
end SpeechConfig
