/-
# Validation

A request is sound when every entry of its grammar and of its sentences is a word
or falls into words, none is blank, and there is something to build a corpus
from.  The check reports the first offence: rules in order, then the empty
vocabulary, then sentences in order.
-/
import SpeechConfig.Failure
import SpeechConfig.Text.Blank

namespace SpeechConfig

/-- Checks one entry: it must not be blank, and unless it is a word itself each
of its tokens must be one. -/
def WordList.check (w : WordList) (o : Origin) : Except Failure Unit :=
  if Text.isBlank o.text then .error (.blankEntry o)
  else if w.contains o.text then .ok ()
  else match (Text.tokens o.text).find? fun t => !w.contains t with
    | some token => .error (.missingWord token o)
    | none => .ok ()

/-- Checks the entries of a list in order, the first of them being number `index`. -/
def WordList.checkFrom (w : WordList) (c : Collection) (index : Nat) :
    List String → Except Failure Unit
  | [] => .ok ()
  | text :: rest =>
    match w.check ⟨c, index, text⟩ with
    | .ok () => w.checkFrom c (index + 1) rest
    | .error e => .error e

namespace Request

def validateGrammar (r : Request) : Except Failure Unit :=
  r.words.checkFrom .grammar 1 r.grammar

/-- Checks that a corpus can be built, then the sentences. -/
def validateSentences (r : Request) : Except Failure Unit :=
  if r.sentences.isEmpty && r.words.isEmpty then .error .emptyVocabulary
  else r.words.checkFrom .sentences 1 r.sentences

def validate (r : Request) : Except Failure Unit :=
  match r.validateGrammar with
  | .ok () => r.validateSentences
  | .error e => .error e

end Request
end SpeechConfig
