/-
# Settings

Where the recognition engine is installed, where its files go and under which
policies they are written.  Settings are normal when their names are usable as
they stand: no blank file or pack name, a plain grammar name, and no empty working
directory.
-/
import SpeechConfig.Settings.Policy

namespace SpeechConfig

/-- The installation of the recognition engine. -/
structure Layout where
  jarsDir : Path
  jarFile : String
  wrapperDir : Path
  languageModelsDir : Path
  languagePack : String
  acousticModelDir : Path
deriving DecidableEq, Repr

namespace Layout

def defaultJarFile : String := "sphinx4-core-1.0-SNAPSHOT.jar"

def defaultLanguagePack : String := "greekPack"

def default : Layout where
  jarsDir := ⟨"/opt/sphinx4"⟩
  jarFile := defaultJarFile
  wrapperDir := ⟨"/opt/sphinx4/wrapper"⟩
  languageModelsDir := ⟨"/opt/sphinx4/language_models"⟩
  languagePack := defaultLanguagePack
  acousticModelDir := ⟨"/opt/sphinx4/acoustic_model"⟩

instance : Inhabited Layout := ⟨default⟩

/-- The class path of the engine and its wrapper. -/
def classPath (l : Layout) : String :=
  ".:" ++ (l.jarsDir.join l.jarFile).text ++ ":" ++ (l.wrapperDir.join "src").text

def packDir (l : Layout) : Path :=
  l.languageModelsDir.join l.languagePack

def baseConfiguration (l : Layout) : Path :=
  l.packDir.join "default.config.xml"

def defaultWorkDir (l : Layout) : Path :=
  l.languageModelsDir.join "tmp_language_pack"

/-- The language model compiler: the script that shows its output, or the silent
one. -/
def compilerScript (l : Layout) (verbose : Bool) : Path :=
  l.packDir.join (if verbose then "run.sh" else "run_silent.sh")

/-- A text without white space at its ends, or another if nothing is left. -/
def orIfBlank (raw fallback : String) : String :=
  if (Text.trim raw).isEmpty then fallback else Text.trim raw

def normalize (l : Layout) : Layout :=
  { l with
    jarFile := orIfBlank l.jarFile defaultJarFile
    languagePack := orIfBlank l.languagePack defaultLanguagePack }

end Layout

/-- Everything that decides how a request becomes a configuration.  Policies that
are set win over those of the preset. -/
structure Settings where
  layout : Layout
  workDir : Option Path
  grammarName : String
  variant : Variant
  phonemePolicy : Option PhonemePolicy
  ruleQuoting : Option RuleQuoting
  modelFormat : Option ModelFormat
  grammarDisabledPolicy : Option GrammarDisabledPolicy
  validationTiming : ValidationTiming
  compileMode : CompileMode
  allowCompilerOutput : Bool
deriving DecidableEq, Repr

namespace Settings

def default : Settings where
  layout := .default
  workDir := none
  grammarName := Grammar.defaultName
  variant := .standard
  phonemePolicy := none
  ruleQuoting := none
  modelFormat := none
  grammarDisabledPolicy := none
  validationTiming := .upfront
  compileMode := .legacy
  allowCompilerOutput := false

instance : Inhabited Settings := ⟨default⟩

def normalize (s : Settings) : Settings :=
  { s with
    layout := s.layout.normalize
    grammarName := Grammar.plainName s.grammarName
    workDir := s.workDir.filter fun d => !d.text.isEmpty }

/-- The policies in force. -/
def policies (s : Settings) : Policies :=
  let preset := s.variant.policies
  { phonemes := s.phonemePolicy.getD preset.phonemes
    quoting := s.ruleQuoting.getD preset.quoting
    modelFormat := s.modelFormat.getD preset.modelFormat
    grammarDisabled := s.grammarDisabledPolicy.getD preset.grammarDisabled }

/-- The working directory: the one that is set, or the one of the installation. -/
def workDirectory (s : Settings) : Path :=
  s.workDir.getD s.layout.defaultWorkDir

def compilerScript (s : Settings) : Path :=
  s.layout.compilerScript s.allowCompilerOutput

end Settings
end SpeechConfig
