/-
# Log lines

What a run reports beside its result: warnings, and the lines of a compiler.
-/
namespace SpeechConfig

/-- How much a log line matters. -/
inductive Level where
  | warn
  | info
  | debug
deriving DecidableEq, Repr

structure LogLine where
  level : Level
  text : String
deriving DecidableEq, Repr

def LogLine.warn (text : String) : LogLine := ⟨.warn, text⟩

end SpeechConfig
