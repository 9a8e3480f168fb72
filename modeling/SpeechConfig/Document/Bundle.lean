/-
# Bundle documents

The JSON form of a configuration bundle, with the keys the engine looks for.
Every member must be there.
-/
import SpeechConfig.Bundle
import SpeechConfig.Document.Settings

namespace SpeechConfig.Bundle

def toJson (b : Bundle) : Json :=
  .object [("jar_path", .string b.jarPath),
    ("configuration_path", b.configurationPath.toJson),
    ("acoustic_model", b.acousticModel.toJson), ("grammar_name", .string b.grammarName),
    ("grammar_folder", b.grammarFolder.toJson), ("dictionary", b.dictionary.toJson),
    ("language_model", b.languageModel.toJson), ("grammar_disabled", .bool b.grammarDisabled)]

def shape : Json.Shape Bundle where
  name := "ConfigurationBundle"
  start := ⟨"", ⟨""⟩, ⟨""⟩, "", ⟨""⟩, ⟨""⟩, ⟨""⟩, false⟩
  fields := [
    ⟨"jar_path", true, do
      let s ← Json.readString "a string"; return fun b => { b with jarPath := s }⟩,
    ⟨"configuration_path", true, do
      let p ← Path.read; return fun b => { b with configurationPath := p }⟩,
    ⟨"acoustic_model", true, do
      let p ← Path.read; return fun b => { b with acousticModel := p }⟩,
    ⟨"grammar_name", true, do
      let s ← Json.readString "a string"; return fun b => { b with grammarName := s }⟩,
    ⟨"grammar_folder", true, do
      let p ← Path.read; return fun b => { b with grammarFolder := p }⟩,
    ⟨"dictionary", true, do let p ← Path.read; return fun b => { b with dictionary := p }⟩,
    ⟨"language_model", true, do
      let p ← Path.read; return fun b => { b with languageModel := p }⟩,
    ⟨"grammar_disabled", true, do
      let d ← Json.readBool; return fun b => { b with grammarDisabled := d }⟩]

def ofText (text : String) : Except Json.Fault Bundle :=
  Json.readDocument shape.read text

end SpeechConfig.Bundle
