/-
# Configuration bundles

What the recognition engine is started with: where its parts are and which
grammar, dictionary and language model it is to use.
-/
import SpeechConfig.Path

namespace SpeechConfig

/-- The configuration of a recognition engine. -/
structure Bundle where
  jarPath : String
  configurationPath : Path
  acousticModel : Path
  grammarName : String
  grammarFolder : Path
  dictionary : Path
  languageModel : Path
  grammarDisabled : Bool
deriving DecidableEq, Repr, Inhabited

end SpeechConfig
