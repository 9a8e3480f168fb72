/-
# Vocabulary documents

The JSON form of word lists and requests.  A word list is an object from tokens
to phoneme lists, in the order of the words; a token that comes twice is refused
as soon as its second value is read.
-/
import SpeechConfig.Json.Read
import SpeechConfig.Json.Value
import SpeechConfig.Vocabulary.Request

namespace SpeechConfig

def Json.strings (xs : List String) : Json :=
  .list (xs.map .string)

def Json.readStrings : Json.Reader (List String) :=
  Json.readList (Json.readString "a string")

namespace WordList

def toJson (w : WordList) : Json :=
  .object (w.words.map fun word => (word.token, Json.strings word.phonemes))

/-- Reads words up to the end of the object behind those of `w`; every word takes
a character, so the length of the text bounds their number. -/
def readWords : Nat → Bool → WordList → Json.Reader WordList
  | 0, _, _ => fun _ => .error (.truncated .object)
  | n + 1, first, w => do
    match ← Json.nextKey first with
    | none =>
      Json.closeObject
      return w
    | some token =>
      Json.takeColon
      let phonemes ← Json.readStrings
      match w.insert? ⟨token, phonemes⟩ with
      | some w => readWords n false w
      | none => throw (.mismatch (.duplicateWord token))

def read : Json.Reader WordList :=
  Json.onNext fun c cs =>
    if c = '\x7b' then readWords (cs.length + 1) true .empty cs
    else .error (Json.wrongKind "a map from word to its phoneme list" c cs)

end WordList

namespace Request

def toJson (r : Request) : Json :=
  .object [("words", r.words.toJson), ("grammar", Json.strings r.grammar),
    ("sentences", Json.strings r.sentences)]

/-- The members of a request document; only the words must be there. -/
def shape : Json.Shape Request where
  name := "VocabularyRequest"
  start := ⟨.empty, [], []⟩
  fields := [
    ⟨"words", true, do let w ← WordList.read; return fun r => { r with words := w }⟩,
    ⟨"grammar", false, do let xs ← Json.readStrings; return fun r => { r with grammar := xs }⟩,
    ⟨"sentences", false, do let xs ← Json.readStrings; return fun r => { r with sentences := xs }⟩]

def ofText (text : String) : Except Json.Fault Request :=
  Json.readDocument shape.read text

end Request
end SpeechConfig
