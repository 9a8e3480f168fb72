/-
# Policies

The decisions a configuration makes about its files, the presets that make them
together, and the names by which texts choose among them.
-/
import SpeechConfig.Artifact.Dictionary
import SpeechConfig.Artifact.Grammar
import SpeechConfig.Text.Blank

namespace SpeechConfig

inductive ModelFormat where
  | bin
  | dmp
deriving DecidableEq, Repr, Inhabited

def ModelFormat.extension : ModelFormat → String
  | .bin => "bin"
  | .dmp => "dmp"

def ModelFormat.fileName (f : ModelFormat) : String :=
  "sentences.lm." ++ f.extension

/-- Where the model of a corpus is expected: next to it. -/
def ModelFormat.modelOf (f : ModelFormat) (corpus : Path) : Path :=
  corpus.withFileName f.fileName

/-- Whether a failing compiler fails the run. -/
inductive CompileMode where
  | legacy
  | strict
deriving DecidableEq, Repr, Inhabited

/-- When the grammar counts as switched off. -/
inductive GrammarDisabledPolicy where
  | whenEmpty
  | whenNonEmpty
deriving DecidableEq, Repr, Inhabited

def GrammarDisabledPolicy.disables : GrammarDisabledPolicy → Nat → Bool
  | .whenEmpty, rules => rules == 0
  | .whenNonEmpty, rules => rules != 0

/-- Whether a request is checked before anything is written, or each list just
before the file made from it. -/
inductive ValidationTiming where
  | upfront
  | interleaved
deriving DecidableEq, Repr, Inhabited

/-- A preset of policies. -/
inductive Variant where
  | standard
  | classic
deriving DecidableEq, Repr, Inhabited

structure Policies where
  phonemes : PhonemePolicy
  quoting : RuleQuoting
  modelFormat : ModelFormat
  grammarDisabled : GrammarDisabledPolicy
deriving DecidableEq, Repr

def Variant.policies : Variant → Policies
  | .standard => ⟨.stripSeparators, .quoted, .bin, .whenEmpty⟩
  | .classic => ⟨.verbatim, .bare, .dmp, .whenNonEmpty⟩

/-! ## Choices in words -/

def Variant.ofText? (raw : String) : Option Variant :=
  let word := Text.lowerAscii (Text.trim raw)
  if word ∈ ["standard", "default"] then some .standard
  else if word ∈ ["classic", "legacy"] then some .classic
  else none

def CompileMode.ofText? (raw : String) : Option CompileMode :=
  let word := Text.lowerAscii (Text.trim raw)
  if word ∈ ["legacy", "lenient"] then some .legacy
  else if word ∈ ["strict"] then some .strict
  else none

def flagOfText? (raw : String) : Option Bool :=
  let word := Text.lowerAscii (Text.trim raw)
  if word ∈ ["1", "true", "yes", "on"] then some true
  else if word ∈ ["0", "false", "no", "off"] then some false
  else none

end SpeechConfig
