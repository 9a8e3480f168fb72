/-
# Generators

From a request to a configured engine: check the request, write its files, have
the language model compiled, and name everything in a bundle.  The compiler is
called once if the files are complete, and not at all otherwise.
-/
import SpeechConfig.Artifact.Emission
import SpeechConfig.Bundle
import SpeechConfig.Compiler.Script
import SpeechConfig.Settings.Basic

namespace SpeechConfig

/-- A bundle with the files it names. -/
structure Generation where
  bundle : Bundle
  artifacts : ArtifactSet
deriving DecidableEq, Repr

/-- A call to the compiler: the corpus, and the files as they were then. -/
structure Call where
  corpus : Path
  files : FileSystem

/-- Everything a run leaves behind; `record` is what its compiler has recorded of it. -/
structure Outcome (α : Type) where
  result : Except Failure α
  files : FileSystem
  log : List LogLine
  calls : List Call
  record : List Path

def Outcome.map {α β : Type} (f : α → β) (o : Outcome α) : Outcome β :=
  ⟨o.result.map f, o.files, o.log, o.calls, o.record⟩

/-- Settings that are normal, with a compiler. -/
structure Generator where
  settings : Settings
  compiler : Compiler

namespace Generator

/-- A generator for settings, which are made normal. -/
def new (s : Settings) (compiler : Compiler) : Generator :=
  ⟨s.normalize, compiler⟩

def scriptOf (s : Settings) : Script where
  path := s.compilerScript
  format := s.policies.modelFormat
  mode := s.compileMode
  verbose := s.allowCompilerOutput

/-- A generator whose compiler is the script of its language pack. -/
def withScript (s : Settings) (programs : Programs) : Generator :=
  new s ((scriptOf s.normalize).toCompiler programs)

def plan (g : Generator) (dir : Path) : EmitPlan where
  dir := dir
  grammarName := g.settings.grammarName
  phonemes := g.settings.policies.phonemes
  quoting := g.settings.policies.quoting
  timing := g.settings.validationTiming

/-- The check that is made before anything is written. -/
def checkFirst (g : Generator) (r : Request) : Except Failure Unit :=
  match g.settings.validationTiming with
  | .upfront => r.validate
  | .interleaved => .ok ()

/-- The bundle of a request whose files are written and whose model is named. -/
def bundle (g : Generator) (r : Request) (dir : Path) (artifacts : ArtifactSet)
    (languageModel : Path) : Bundle where
  jarPath := g.settings.layout.classPath
  configurationPath := g.settings.layout.baseConfiguration
  acousticModel := g.settings.layout.acousticModelDir
  grammarName := g.settings.grammarName
  grammarFolder := dir
  dictionary := artifacts.dictionary.path
  languageModel := languageModel
  grammarDisabled := g.settings.policies.grammarDisabled.disables r.grammar.length

/-- Compiles the corpus of written files and names everything in a bundle. -/
def finish (g : Generator) (r : Request) (dir : Path) (artifacts : ArtifactSet)
    (fs : FileSystem) : Outcome Generation :=
  let compiled := g.compiler.compile artifacts.corpus.path fs
  ⟨compiled.result.map fun model => ⟨g.bundle r dir artifacts model, artifacts⟩,
    compiled.files, compiled.log, [⟨artifacts.corpus.path, fs⟩], compiled.record⟩

/-- Turns a request into a configuration in a directory. -/
def generate (g : Generator) (r : Request) (dir : Path) (fs : FileSystem) :
    Outcome Generation :=
  match g.checkFirst r with
  | .error e => ⟨.error e, fs, [], [], []⟩
  | .ok () =>
    match (g.plan dir).emit r fs with
    | (.error e, fs) => ⟨.error e, fs, [], [], []⟩
    | (.ok artifacts, fs) => g.finish r dir artifacts fs

/-- The same, for the bundle alone. -/
def configure (g : Generator) (r : Request) (dir : Path) (fs : FileSystem) : Outcome Bundle :=
  (g.generate r dir fs).map Generation.bundle

/-- Configures in the working directory of the settings. -/
def configureDefault (g : Generator) (r : Request) (fs : FileSystem) : Outcome Bundle :=
  g.configure r g.settings.workDirectory fs

end Generator
end SpeechConfig
