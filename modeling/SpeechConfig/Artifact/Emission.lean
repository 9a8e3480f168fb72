/-
# Emission

Writes the dictionary, the grammar and the corpus of a request into a directory,
in this order and each in one step, and says what was written.  A failure leaves
the files before it complete and those behind it as they were.
-/
import SpeechConfig.Artifact.Corpus
import SpeechConfig.Digest.Sha256
import SpeechConfig.FileSystem.Operations
import SpeechConfig.Settings.Policy
import SpeechConfig.Vocabulary.Validation

namespace SpeechConfig

/-- A file that was written: where, its fingerprint and its size. -/
structure Artifact where
  path : Path
  sha256 : String
  bytes : Nat
deriving DecidableEq, Repr

/-- The files of a request. -/
structure ArtifactSet where
  dictionary : Artifact
  grammar : Artifact
  corpus : Artifact
  productions : Nat
  corpusFromWords : Bool
deriving DecidableEq, Repr

/-- Where and how the files of a request are written. -/
structure EmitPlan where
  dir : Path
  grammarName : String
  phonemes : PhonemePolicy
  quoting : RuleQuoting
  timing : ValidationTiming
deriving DecidableEq, Repr

/-- A step that changes files and may fail; what it did before it failed stays. -/
abbrev FileStep := ExceptT Failure (StateM FileSystem)

namespace FileStep

/-- A step on a single place. -/
def ofChange (change : FileSystem → Except FileSystem.Fault FileSystem) : FileStep Unit :=
  fun fs => match change fs with
    | .ok fs => (.ok (), fs)
    | .error fault => (.error (.io fault), fs)

def mkdirAll (dir : Path) : FileStep Unit :=
  fun fs => match fs.mkdirAll dir with
    | (.ok (), fs) => (.ok (), fs)
    | (.error fault, fs) => (.error (.io fault), fs)

/-- A check that changes nothing. -/
def check (result : Except Failure Unit) : FileStep Unit :=
  fun fs => (result, fs)

end FileStep

namespace Artifact

/-- What is reported of a text written to a path. -/
def ofText (path : Path) (text : String) : Artifact :=
  ⟨path, Digest.sha256 text.toUTF8, text.utf8ByteSize⟩

/-- Writes a text to a path in one step. -/
def emit (path : Path) (text : String) : FileStep Artifact := do
  FileStep.ofChange fun fs => fs.replace path text.toUTF8
  return ofText path text

end Artifact

namespace EmitPlan

def dictionaryPath (plan : EmitPlan) : Path :=
  plan.dir.join "custom.dict"

def grammarPath (plan : EmitPlan) : Path :=
  Grammar.fileIn plan.dir plan.grammarName

def corpusPath (plan : EmitPlan) : Path :=
  plan.dir.join "sentences.txt"

/-- A check that is made only between the files. -/
def checkBetween (plan : EmitPlan) (result : Except Failure Unit) : FileStep Unit :=
  match plan.timing with
  | .upfront => FileStep.check (.ok ())
  | .interleaved => FileStep.check result

/-- Writes the three files of a request. -/
def emit (plan : EmitPlan) (r : Request) : FileStep ArtifactSet := do
  if Grammar.plainName plan.grammarName ≠ plan.grammarName then
    throw (.settings (.grammarName plan.grammarName))
  FileStep.mkdirAll plan.dir
  let dictionary ← Artifact.emit plan.dictionaryPath (Dictionary.render plan.phonemes r.words)
  plan.checkBetween r.validateGrammar
  let grammar ← Artifact.emit plan.grammarPath
    (Grammar.render plan.grammarName r.grammar plan.quoting)
  plan.checkBetween r.validateSentences
  let text := Corpus.render r.words r.sentences
  let corpus ← Artifact.emit plan.corpusPath text.text
  return ⟨dictionary, grammar, corpus, r.grammar.length, text.fromWords⟩

end EmitPlan
end SpeechConfig
