/-
# `SpeechConfig.Proofs.Generator.OneCall` — a run calls its compiler once or not at all

## What is proved, with every binder written out

For all settings `s`, every request `r`, path `dir` and file system `fs`, let `run c` be the run
with the compiler `c`.  One of two things holds:

    ∃ e files, ∀ c, run c = ⟨.error e, files, [], [], []⟩
    ∃ files answer, ∀ c, run c = ⟨result, files', log, [⟨corpus, files⟩], record⟩

where in the second `corpus` is the path `sentences.txt` in `dir`, and `result` (up to `answer`),
`files'`, `log` and `record` are those of `c.compile corpus files`; the three files of the request
stand in `files`.

## Why this says how often

The compiler is bound after the files and the answer.  A compiler may count in a file how often it
was asked, and for what: a run that asked twice, or for another corpus, would leave the second
count, and the equation allows the first one alone.
-/
import SpeechConfig.Proofs.Generator.Timing

namespace SpeechConfig

namespace Outcome

variable {α β γ : Type} {o : Outcome α} {f : α → β} {b : β} {e : Failure}

theorem map_map (f : α → β) (f' : β → γ) (o : Outcome α) :
    (o.map f).map f' = o.map (f' ∘ f) := by
  obtain ⟨result, files, log, calls, record⟩ := o
  cases result with
  | ok a => rfl
  | error e => rfl

theorem map_result_eq_ok (h : (o.map f).result = .ok b) : ∃ a, o.result = .ok a ∧ f a = b := by
  obtain ⟨result, files, log, calls, record⟩ := o
  cases result with
  | ok a => exact ⟨a, rfl, Except.ok.inj h⟩
  | error e => cases h

/-- The run is over before its compiler is called: that might be any. -/
def Uncalled (run : Compiler → Outcome α) : Prop :=
  ∃ e files, ∀ c, run c = ⟨.error e, files, [], [], []⟩

/-- The run hands these files to its compiler once, for this corpus, and is over with the answer. -/
def CallsOnce (run : Compiler → Outcome α) (corpus : Path) (files : FileSystem) : Prop :=
  ∃ answer : Path → α, ∀ c,
    let compiled := c.compile corpus files
    run c = ⟨compiled.result.map answer, compiled.files, compiled.log, [⟨corpus, files⟩],
      compiled.record⟩

theorem Uncalled.map {run : Compiler → Outcome α} (h : Uncalled run) (f : α → β) :
    Uncalled fun c => (run c).map f := by
  obtain ⟨e, files, ran⟩ := h
  refine ⟨e, files, fun c => ?_⟩
  simp only [ran c]
  rfl

theorem CallsOnce.map {run : Compiler → Outcome α} {corpus : Path} {files : FileSystem}
    (h : CallsOnce run corpus files) (f : α → β) :
    CallsOnce (fun c => (run c).map f) corpus files := by
  obtain ⟨answer, ran⟩ := h
  refine ⟨f ∘ answer, fun c => ?_⟩
  simp only [ran c, Outcome.map]
  cases (c.compile corpus files).result with
  | ok model => rfl
  | error e => rfl

theorem CallsOnce.stub {run : Compiler → Outcome α} {corpus : Path} {files : FileSystem}
    (h : CallsOnce run corpus files) (format : ModelFormat) :
    ∃ a, run (.stub format) = ⟨.ok a, files, [], [⟨corpus, files⟩], [corpus]⟩ := by
  obtain ⟨answer, ran⟩ := h
  exact ⟨answer (format.modelOf corpus), ran (.stub format)⟩

end Outcome

namespace Generator

variable {s : Settings} {r : Request} {dir : Path} {fs : FileSystem}

/-- A run up to the call of its compiler. -/
def prepare (g : Generator) (r : Request) (dir : Path) (fs : FileSystem) :
    Except Failure ArtifactSet × FileSystem :=
  match g.checkFirst r with
  | .error e => (.error e, fs)
  | .ok () => (g.plan dir).emit r fs

theorem generate_eq_prepare (g : Generator) (r : Request) (dir : Path) (fs : FileSystem) :
    g.generate r dir fs = match g.prepare r dir fs with
      | (.error e, files) => ⟨.error e, files, [], [], []⟩
      | (.ok artifacts, files) => g.finish r dir artifacts files := by
  unfold prepare
  cases first : g.checkFirst r with
  | error e => rw [generate, first]
  | ok _ =>
      rcases emitted : (g.plan dir).emit r fs with ⟨e | artifacts, files⟩
      · exact generate_of_emit_error first emitted
      · exact generate_of_emit_ok first emitted

/-- The compiler has no share in what comes before it. -/
theorem prepare_new (s : Settings) (c c' : Compiler) :
    (new s c).prepare r dir fs = (new s c').prepare r dir fs := rfl

/-- The three files of a request stand in the directory that the path led to when it had been
made, with the texts that the settings make of the request. -/
def Wrote (s : Settings) (r : Request) (dir : Path) (fs files : FileSystem) : Prop :=
  let name := Grammar.plainName s.grammarName
  ∃ made passed there, fs.mkdirAll dir = (.ok (), made) ∧ made.Leads dir passed there ∧
    ∀ file ∈ [("custom.dict", Dictionary.render s.policies.phonemes r.words),
        (name ++ ".gram", Grammar.render name r.grammar s.policies.quoting),
        ("sentences.txt", (Corpus.render r.words r.sentences).text)],
      files.node? (file.1 :: there) = some (.file file.2.toUTF8)

variable {c : Compiler} {artifacts : ArtifactSet} {files : FileSystem}

theorem artifacts_of_prepare (prepared : (new s c).prepare r dir fs = (.ok artifacts, files)) :
    artifacts = ((new s c).plan dir).artifacts r := by
  unfold prepare at prepared
  split at prepared
  · cases (Prod.mk.inj prepared).1
  · exact (EmitPlan.emit_eq_ok prepared).2.1

theorem wrote_of_prepare (prepared : (new s c).prepare r dir fs = (.ok artifacts, files)) :
    Wrote s r dir fs files := by
  unfold prepare at prepared
  split at prepared
  · cases (Prod.mk.inj prepared).1
  obtain ⟨made, passed, there, makes, leads, -, -, rfl⟩ := EmitPlan.placed_of_emit prepared
  refine ⟨made, passed, there, makes, leads, ?_⟩
  have texts : (((new s c).plan dir).steps r).map (fun step => (step.name, step.text)) =
      [("custom.dict", Dictionary.render s.policies.phonemes r.words),
        (Grammar.plainName s.grammarName ++ ".gram",
          Grammar.render (Grammar.plainName s.grammarName) r.grammar s.policies.quoting),
        ("sentences.txt", (Corpus.render r.words r.sentences).text)] := by
    rw [EmitPlan.steps, dictionaryStep_plan, grammarStep_plan, grammarName_new, policies_new]
    rfl
  rw [← texts, List.forall_mem_map]
  intro step h
  exact FileSystem.node?_putFiles_of_mem (EmitPlan.nodup_steps ((new s c).plan dir) r) h

/-- A run is over before the call, or with the answer to one call for its corpus, made when its
three files stood. -/
theorem generate_calls (s : Settings) (r : Request) (dir : Path) (fs : FileSystem) :
    Outcome.Uncalled (fun c => (new s c).generate r dir fs) ∨
      ∃ files, Wrote s r dir fs files ∧
        Outcome.CallsOnce (fun c => (new s c).generate r dir fs) (dir.join "sentences.txt")
          files := by
  let stub : Compiler := .stub s.policies.modelFormat
  rcases prepared : (new s stub).prepare r dir fs with ⟨e | artifacts, files⟩
  · refine .inl ⟨e, files, fun c => (generate_eq_prepare (new s c) r dir fs).trans ?_⟩
    rw [prepare_new s c stub, prepared]
  · refine .inr ⟨files, wrote_of_prepare prepared,
      fun model => ⟨(new s stub).bundle r dir artifacts model, artifacts⟩,
      fun c => (generate_eq_prepare (new s c) r dir fs).trans ?_⟩
    rw [prepare_new s c stub, prepared]
    obtain rfl := artifacts_of_prepare prepared
    rfl

end Generator
end SpeechConfig
