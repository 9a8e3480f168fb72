/-
# Settings documents

The JSON form of settings and of the engine's installation.  Every member may be
missing and then keeps its default.
-/
import SpeechConfig.Json.Read
import SpeechConfig.Json.Value
import SpeechConfig.Settings.Basic

namespace SpeechConfig

open Json (Choice Reader Shape)

/-! ## Names of choices -/

def PhonemePolicy.names : Choice PhonemePolicy :=
  ⟨("verbatim", .verbatim), ("stripSeparators", .stripSeparators)⟩

def RuleQuoting.names : Choice RuleQuoting :=
  ⟨("quoted", .quoted), ("bare", .bare)⟩

def ModelFormat.names : Choice ModelFormat :=
  ⟨("bin", .bin), ("dmp", .dmp)⟩

def CompileMode.names : Choice CompileMode :=
  ⟨("legacy", .legacy), ("strict", .strict)⟩

def GrammarDisabledPolicy.names : Choice GrammarDisabledPolicy :=
  ⟨("whenEmpty", .whenEmpty), ("whenNonEmpty", .whenNonEmpty)⟩

def ValidationTiming.names : Choice ValidationTiming :=
  ⟨("upfront", .upfront), ("interleaved", .interleaved)⟩

def Variant.names : Choice Variant :=
  ⟨("standard", .standard), ("classic", .classic)⟩

/-! ## Values of members -/

def Json.optional {α : Type} (write : α → Json) : Option α → Json
  | none => .null
  | some x => write x

/-- A choice, written by its name. -/
def Json.choice {α : Type} [DecidableEq α] (c : Choice α) (x : α) : Json :=
  .string (c.name x)

def Path.toJson (p : Path) : Json :=
  .string p.text

def Path.read : Reader Path := do
  return ⟨← Json.readString "path string"⟩

namespace Layout

def toJson (l : Layout) : Json :=
  .object [("jarsDir", l.jarsDir.toJson), ("jarFile", .string l.jarFile),
    ("wrapperDir", l.wrapperDir.toJson), ("languageModelsDir", l.languageModelsDir.toJson),
    ("languagePack", .string l.languagePack), ("acousticModelDir", l.acousticModelDir.toJson)]

def shape : Shape Layout where
  name := "EngineLayout"
  start := .default
  fields := [
    ⟨"jarsDir", false, do let p ← Path.read; return fun l => { l with jarsDir := p }⟩,
    ⟨"jarFile", false, do
      let s ← Json.readString "a string"; return fun l => { l with jarFile := s }⟩,
    ⟨"wrapperDir", false, do let p ← Path.read; return fun l => { l with wrapperDir := p }⟩,
    ⟨"languageModelsDir", false, do
      let p ← Path.read; return fun l => { l with languageModelsDir := p }⟩,
    ⟨"languagePack", false, do
      let s ← Json.readString "a string"; return fun l => { l with languagePack := s }⟩,
    ⟨"acousticModelDir", false, do
      let p ← Path.read; return fun l => { l with acousticModelDir := p }⟩]

def ofText (text : String) : Except Json.Fault Layout :=
  Json.readDocument shape.read text

end Layout

namespace Settings

def toJson (s : Settings) : Json :=
  .object [("layout", s.layout.toJson),
    ("workDir", Json.optional Path.toJson s.workDir),
    ("grammarName", .string s.grammarName),
    ("variant", Json.choice Variant.names s.variant),
    ("phonemePolicy", Json.optional (Json.choice PhonemePolicy.names) s.phonemePolicy),
    ("ruleQuoting", Json.optional (Json.choice RuleQuoting.names) s.ruleQuoting),
    ("modelFormat", Json.optional (Json.choice ModelFormat.names) s.modelFormat),
    ("grammarDisabledPolicy",
      Json.optional (Json.choice GrammarDisabledPolicy.names) s.grammarDisabledPolicy),
    ("validationTiming", Json.choice ValidationTiming.names s.validationTiming),
    ("compileMode", Json.choice CompileMode.names s.compileMode),
    ("allowCompilerOutput", .bool s.allowCompilerOutput)]

def shape : Shape Settings where
  name := "GeneratorConfig"
  start := .default
  fields := [
    ⟨"layout", false, do let l ← Layout.shape.read; return fun s => { s with layout := l }⟩,
    ⟨"workDir", false, do
      let d ← Json.readOptional Path.read; return fun s => { s with workDir := d }⟩,
    ⟨"grammarName", false, do
      let n ← Json.readString "a string"; return fun s => { s with grammarName := n }⟩,
    ⟨"variant", false, do let v ← Variant.names.read; return fun s => { s with variant := v }⟩,
    ⟨"phonemePolicy", false, do
      let p ← Json.readOptional PhonemePolicy.names.read
      return fun s => { s with phonemePolicy := p }⟩,
    ⟨"ruleQuoting", false, do
      let q ← Json.readOptional RuleQuoting.names.read
      return fun s => { s with ruleQuoting := q }⟩,
    ⟨"modelFormat", false, do
      let f ← Json.readOptional ModelFormat.names.read
      return fun s => { s with modelFormat := f }⟩,
    ⟨"grammarDisabledPolicy", false, do
      let p ← Json.readOptional GrammarDisabledPolicy.names.read
      return fun s => { s with grammarDisabledPolicy := p }⟩,
    ⟨"validationTiming", false, do
      let t ← ValidationTiming.names.read; return fun s => { s with validationTiming := t }⟩,
    ⟨"compileMode", false, do
      let m ← CompileMode.names.read; return fun s => { s with compileMode := m }⟩,
    ⟨"allowCompilerOutput", false, do
      let b ← Json.readBool; return fun s => { s with allowCompilerOutput := b }⟩]

def ofText (text : String) : Except Json.Fault Settings :=
  Json.readDocument shape.read text

end Settings
end SpeechConfig
