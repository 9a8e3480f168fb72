/-
# Failures

Everything that can go wrong between a request and a configured recogniser, as
causes; the wording is in `Failure.message` alone.
-/
import SpeechConfig.Path
import SpeechConfig.Vocabulary.Request
import SpeechConfig.FileSystem.Fault
import SpeechConfig.Json.Fault

namespace SpeechConfig

inductive SettingsFault where
  | grammarName (name : String)
  | document (path : Path) (fault : Json.Fault)
deriving DecidableEq, Repr

/-- A reason for which no configuration comes about. -/
inductive Failure where
  | missingWord (token : String) (origin : Origin)
  | blankEntry (origin : Origin)
  | duplicateWord (token : String)
  | emptyVocabulary
  | compile (script : Path) (detail : String)
  | settings (fault : SettingsFault)
  | io (fault : FileSystem.Fault)
deriving DecidableEq, Repr

def SettingsFault.message : SettingsFault → String
  | .grammarName name => "grammar name `" ++ name ++ "` is not a plain identifier"
  | .document path fault => path.text ++ ": " ++ fault.message

def Failure.message : Failure → String
  | .missingWord token origin =>
    "word `" ++ token ++ "` is not in words but exists in " ++ origin.describe
  | .blankEntry origin => origin.describe ++ " is blank"
  | .duplicateWord token => Json.duplicateWordMessage token
  | .emptyVocabulary => "word list is empty and there are no sentences to build a corpus from"
  | .compile script detail =>
    "language model compiler failed (" ++ script.text ++ "): " ++ detail
  | .settings fault => "settings error: " ++ fault.message
  | .io fault => "IO error: " ++ fault.message

/-- Whether the request itself is at fault. -/
def Failure.isValidation : Failure → Bool
  | .missingWord _ _ | .blankEntry _ | .duplicateWord _ | .emptyVocabulary => true
  | .compile _ _ | .settings _ | .io _ => false

end SpeechConfig
