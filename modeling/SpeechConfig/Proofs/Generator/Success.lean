/-
# `SpeechConfig.Proofs.Generator.Success` — what a successful run guarantees

## What is proved, with every binder written out

For all settings, every format of models, every request, path and file system, if the run
with the stub compiler answers with a generation `gen`, then

* the request is sound, whatever the timing of its checks;
* in the directory `there` that the path led to when the files were written, the three
  entries are regular files with the texts that the settings make of the request;
* every artifact has the path, the size and the fingerprint of its file;
* the bundle names these files, the grammar's name and the model's place.

## By path and by place

Each file can be read by the path that its artifact has, if the way to the directory does
not pass the entry `sentences.txt` of that same directory.  It can pass it when that entry
is a link, `sentences.txt` to `.` for one: the corpus then replaces the link, and the path
ends at a file before it comes to the directory.  This is the only exception, and in it none
of the three files is found by its path (`cut_off`).
-/
import SpeechConfig.Proofs.Generator.Timing

namespace SpeechConfig

/-! ## What is handed over -/

/-- A file of a request: what is reported of it, its name and its text. -/
structure Delivery where
  artifact : Artifact
  name : String
  text : String

/-- The file stands in the directory, and the report of it is true. -/
structure Delivery.Stands (d : Delivery) (files : FileSystem) (dir : Path) (there : Location) :
    Prop where
  path : d.artifact.path = dir.join d.name
  node : files.node? (d.name :: there) = some (.file d.text.toUTF8)
  bytes : d.artifact.bytes = d.text.toUTF8.size
  sha256 : d.artifact.sha256 = Digest.sha256 d.text.toUTF8

namespace Generation

/-- The three files of a request under a name and under policies. -/
def deliveries (gen : Generation) (name : String) (p : Policies) (r : Request) :
    List Delivery :=
  [⟨gen.artifacts.dictionary, "custom.dict", Dictionary.render p.phonemes r.words⟩,
    ⟨gen.artifacts.grammar, name ++ ".gram", Grammar.render name r.grammar p.quoting⟩,
    ⟨gen.artifacts.corpus, "sentences.txt", (Corpus.render r.words r.sentences).text⟩]

/-- The bundle is about the files, and about the directory they were asked for in. -/
structure Agrees (gen : Generation) (name : String) (p : Policies) (format : ModelFormat)
    (r : Request) (dir : Path) : Prop where
  dictionary : gen.bundle.dictionary = gen.artifacts.dictionary.path
  grammar : gen.bundle.grammarFolder.join (gen.bundle.grammarName ++ ".gram") =
    gen.artifacts.grammar.path
  grammarFolder : gen.bundle.grammarFolder = dir
  grammarName : gen.bundle.grammarName = name
  declared : ∃ productions, Grammar.render name r.grammar p.quoting =
    Grammar.header gen.bundle.grammarName ++ productions
  languageModel : gen.bundle.languageModel = format.modelOf gen.artifacts.corpus.path
  grammarDisabled : gen.bundle.grammarDisabled = p.grammarDisabled.disables r.grammar.length
  productions : gen.artifacts.productions = r.grammar.length
  corpusFromWords : gen.artifacts.corpusFromWords = r.sentences.isEmpty

end Generation

theorem Corpus.render_ne_empty {w : WordList} {sentences : List String}
    (h : ¬ (w.words = [] ∧ sentences = [])) : (Corpus.render w sentences).text ≠ "" := by
  have something : Corpus.bodies w sentences ≠ [] := by
    unfold Corpus.bodies
    cases sentences with
    | nil => simpa [WordList.tokens] using h
    | cons sentence rest => simp
  obtain ⟨body, rest, bodies⟩ := List.exists_cons_of_ne_nil something
  intro empty
  have characters := congrArg String.toList empty
  simp [Corpus.render, bodies, Corpus.line] at characters

namespace Generator

variable {g : Generator} {format : ModelFormat} {r : Request} {dir : Path} {fs : FileSystem}
  {gen : Generation}

/-! ## A run that succeeds -/

theorem generate_eq_ok (stub : g.compiler = .stub format)
    (ok : (g.generate r dir fs).result = .ok gen) :
    g.checkFirst r = .ok () ∧
      (g.plan dir).emit r fs = (.ok gen.artifacts, (g.generate r dir fs).files) ∧
      gen.bundle = g.bundle r dir gen.artifacts (format.modelOf gen.artifacts.corpus.path) := by
  cases first : g.checkFirst r with
  | error e =>
      rw [generate, first] at ok
      cases ok
  | ok _ =>
      rcases emitted : (g.plan dir).emit r fs with ⟨e | artifacts, files⟩
      · rw [generate_of_emit_error first emitted] at ok
        cases ok
      · rw [generate_of_emit_ok first emitted, finish, stub] at ok ⊢
        obtain rfl := Except.ok.inj ok
        exact ⟨rfl, rfl, rfl⟩

/-- Whatever the timing, a run that succeeds has made all the checks. -/
theorem sound_of_ok {made files : FileSystem} (first : g.checkFirst r = .ok ())
    (writes : Writes dir made ((g.plan dir).steps r) files) : r.Sound := by
  have grammar := writes.guard ((g.plan dir).grammarStep r) (by simp [EmitPlan.steps])
  have sentences := writes.guard ((g.plan dir).corpusStep r) (by simp [EmitPlan.steps])
  exact Request.validate_eq_ok_iff.mp
    ((validate_eq_ok_iff_checks g r dir).mpr ⟨first, grammar, sentences⟩)

theorem agrees_of_ok (artifacts : gen.artifacts = (g.plan dir).artifacts r)
    (bundle : gen.bundle = g.bundle r dir gen.artifacts
      (format.modelOf gen.artifacts.corpus.path)) :
    gen.Agrees g.settings.grammarName g.settings.policies format r dir where
  dictionary := by rw [bundle]; rfl
  grammar := by rw [bundle, artifacts]; rfl
  grammarFolder := by rw [bundle]; rfl
  grammarName := by rw [bundle]; rfl
  declared := by rw [bundle]; exact ⟨_, rfl⟩
  languageModel := by rw [bundle]; rfl
  grammarDisabled := by rw [bundle]; rfl
  productions := by rw [artifacts]; rfl
  corpusFromWords := by rw [artifacts]; rfl

theorem deliveries_eq (artifacts : gen.artifacts = (g.plan dir).artifacts r) :
    gen.deliveries g.settings.grammarName g.settings.policies r =
      ((g.plan dir).steps r).map fun step =>
        ⟨.ofText (dir.join step.name) step.text, step.name, step.text⟩ := by
  rw [Generation.deliveries, artifacts]
  rfl

theorem stands_of_ok {made files : FileSystem} {there : Location} {steps : List Step}
    (distinct : (steps.map Step.name).Nodup) (placed : files = made.putFiles there steps) :
    ∀ step ∈ steps, Delivery.Stands
      ⟨.ofText (dir.join step.name) step.text, step.name, step.text⟩ files dir there := by
  intro step h
  refine ⟨rfl, ?_, rfl, rfl⟩
  rw [placed]
  exact FileSystem.node?_putFiles_of_mem distinct h

theorem link_of_makesWay {made : FileSystem} {l : Location} {target : Path}
    (way : FileSystem.MakesWay fs made dir) (link : made.node? l = some (.link target)) :
    fs.node? l = some (.link target) := by
  rcases way.node l with same | ⟨-, stands, -⟩
  · exact same ▸ link
  · cases link.symm.trans stands

/-- The files of a run that has done all its steps: where they stand, and whether they are
found by their paths. -/
theorem deliveries_of_ok {made files : FileSystem}
    (plain : Grammar.isPlain g.settings.grammarName = true)
    (artifacts : gen.artifacts = (g.plan dir).artifacts r)
    (makes : fs.mkdirAll dir = (.ok (), made))
    (writes : Writes dir made ((g.plan dir).steps r) files) :
    ∃ passed there, made.Leads dir passed there ∧
      (∀ d ∈ gen.deliveries g.settings.grammarName g.settings.policies r,
        d.Stands files dir there) ∧
      ("sentences.txt" :: there ∉ passed →
        ∀ d ∈ gen.deliveries g.settings.grammarName g.settings.policies r,
          files.read d.artifact.path = .ok d.text.toUTF8) ∧
      ("sentences.txt" :: there ∈ passed →
        (∃ target, fs.node? ("sentences.txt" :: there) = some (.link target)) ∧
          ∀ d ∈ gen.deliveries g.settings.grammarName g.settings.policies r,
            files.read d.artifact.path = .error .notDirectory) := by
  have names : ∀ step ∈ (g.plan dir).steps r, FileSystem.IsEntryName step.name :=
    EmitPlan.isEntryName_steps plain
  have distinct := EmitPlan.nodup_steps (g.plan dir) r
  obtain ⟨passed, there, leads⟩ := writes.leads EmitPlan.isEntryName_dictionary
  obtain ⟨fits, before, placed⟩ := (writes_iff leads names distinct).mp writes
  rw [deliveries_eq artifacts]
  simp only [List.forall_mem_map]
  refine ⟨passed, there, leads, stands_of_ok distinct placed, fun apart => ?_, fun cut => ?_⟩
  · refine writes.read names distinct leads fun step h => ?_
    rw [EmitPlan.steps_concat] at h before
    rw [List.dropLast_concat] at before
    rcases List.mem_append.mp h with h | h
    · exact before step h
    · obtain rfl := List.mem_singleton.mp h
      exact apart
  · have way := FileSystem.makesWay_of_mkdirAll makes
    have no_directory := (fits ((g.plan dir).corpusStep r) (by simp [EmitPlan.steps])).free
    have link : ∃ target, fs.node? ("sentences.txt" :: there) = some (.link target) := by
      rcases (leads.passed_node _ cut).2 with directory | ⟨target, link⟩
      · exact absurd directory no_directory
      · exact ⟨target, link_of_makesWay way link⟩
    rw [EmitPlan.steps_concat] at writes names distinct ⊢
    exact ⟨link, writes.read_cut_off names distinct leads cut⟩

/-! ## A way that passes the corpus -/

def spoken : Request := ⟨assent, ["yes"], ["yes"]⟩

/-- A link, under the name of the corpus, to the directory it lies in. -/
def loopback : FileSystem := (FileSystem.bare []).put ["sentences.txt"] (.link ⟨"."⟩)

def loop : Path := ⟨"sentences.txt"⟩

theorem node?_loopback : loopback.node? ["sentences.txt"] = some (.link ⟨"."⟩) :=
  FileSystem.node?_put_self _ (by decide)

theorem mkdirAll_loop : loopback.mkdirAll loop = (.ok (), loopback) := by
  rfl

theorem leads_loop : loopback.Leads loop [["sentences.txt"]] [] := by
  have parts : FileSystem.segments loop = ["sentences.txt"] := by decide
  have behind : FileSystem.segments ⟨"."⟩ ++ [] = ["."] := by decide
  refine ⟨39, ?_⟩
  rw [parts]
  refine .link ⟨by decide, by decide, by decide, by decide⟩ node?_loopback ?_
  rw [behind]
  exact .idle (Or.inr rfl) .here

theorem fits_loopback {name : String} (path : FileSystem.checkPath (loop.join name) = .ok ())
    (short : name.utf8ByteSize ≤ FileSystem.longestName) (text : String) :
    Step.Fits ⟨.ok (), name, text⟩ loopback loop [] := by
  refine ⟨rfl, path, short, ?_⟩
  by_cases link : name = "sentences.txt"
  · rw [link, node?_loopback]
    simp
  · have nothing : loopback.node? [name] = (FileSystem.bare []).node? [name] :=
      FileSystem.node?_put_of_ne _ (by simpa using Ne.symm link)
    rw [nothing]
    simp [FileSystem.node?, FileSystem.bare, FileSystem.onTheWay]

/-- The run comes through: two files are put beside the link, and the third in its place.
Then the way to the first is cut. -/
theorem generate_loopback {g : Generator} (stub : g.compiler = .stub format)
    (name : g.settings.grammarName = "custom") :
    ∃ gen, (g.generate spoken loop loopback).result = .ok gen ∧
      gen.artifacts.dictionary.path = loop.join "custom.dict" ∧
      (g.generate spoken loop loopback).files.read (loop.join "custom.dict") =
        .error .notDirectory := by
  obtain ⟨first, rules, sentences⟩ :=
    (validate_eq_ok_iff_checks g spoken loop).mp (by decide +kernel)
  obtain ⟨plain, file⟩ := plan_of_custom name loop
  have fits : ∀ step ∈ (g.plan loop).steps spoken, step.Fits loopback loop [] := by
    rw [EmitPlan.steps, dictionaryStep_plan, grammarStep_plan, EmitPlan.corpusStep, rules,
      sentences, file]
    simp only [List.forall_mem_cons]
    exact ⟨fits_loopback (by decide) (by decide) _, fits_loopback (by decide) (by decide) _,
      fits_loopback (by decide) (by decide) _, by simp⟩
  have apart : ∀ step ∈ ((g.plan loop).steps spoken).dropLast,
      [step.name] ∉ [["sentences.txt"]] := by
    rw [EmitPlan.steps_concat, List.dropLast_concat, dictionaryStep_plan, grammarStep_plan, file]
    simp
  have names := EmitPlan.isEntryName_steps (r := spoken) plain
  have distinct := EmitPlan.nodup_steps (g.plan loop) spoken
  have writes := (writes_iff leads_loop names distinct).mpr ⟨fits, apart, rfl⟩
  have emitted := EmitPlan.emit_of_run plain mkdirAll_loop (List.append_nil _).symm writes .done
  rw [EmitPlan.steps_concat] at writes names distinct
  let artifacts := (g.plan loop).artifacts spoken
  let model := format.modelOf artifacts.corpus.path
  have unread := writes.read_cut_off names distinct leads_loop List.mem_cons_self _
    List.mem_cons_self
  rw [generate_of_emit_ok first emitted, finish, stub]
  have path : artifacts.dictionary.path = loop.join "custom.dict" := by
    simp only [artifacts, EmitPlan.artifacts, Artifact.ofText, EmitPlan.dictionaryPath, plan]
  exact ⟨⟨g.bundle spoken loop artifacts model, artifacts⟩, rfl, path, unread⟩

theorem grammarName_default :
    (new .default (.stub .bin)).settings.grammarName = "custom" := by
  rw [grammarName_new]
  decide

/-! ## Every run that succeeds -/

/-- What a successful run guarantees of the request, the bundle and the three files. -/
theorem generate_guarantees (s : Settings) (format : ModelFormat) (r : Request) (dir : Path)
    (fs : FileSystem) (gen : Generation)
    (ok : ((new s (.stub format)).generate r dir fs).result = .ok gen) :
    let files := ((new s (.stub format)).generate r dir fs).files
    let name := Grammar.plainName s.grammarName
    r.Sound ∧ gen.Agrees name s.policies format r dir ∧
      (Corpus.render r.words r.sentences).text ≠ "" ∧
      ∃ made passed there, fs.mkdirAll dir = (.ok (), made) ∧ made.Leads dir passed there ∧
        (∀ d ∈ gen.deliveries name s.policies r, d.Stands files dir there) ∧
        ("sentences.txt" :: there ∉ passed →
          ∀ d ∈ gen.deliveries name s.policies r,
            files.read d.artifact.path = .ok d.text.toUTF8) ∧
        ("sentences.txt" :: there ∈ passed →
          (∃ target, fs.node? ("sentences.txt" :: there) = some (.link target)) ∧
            ∀ d ∈ gen.deliveries name s.policies r,
              files.read d.artifact.path = .error .notDirectory) := by
  obtain ⟨first, emitted, bundle⟩ := generate_eq_ok rfl ok
  have plain := isPlain_new s (.stub format)
  rw [← grammarName_new s (.stub format), ← policies_new s (.stub format)]
  intro files name
  obtain ⟨-, artifacts, made, makes, writes⟩ := EmitPlan.emit_eq_ok emitted
  have sound := sound_of_ok first writes
  obtain ⟨passed, there, leads, delivered⟩ := deliveries_of_ok plain artifacts makes writes
  exact ⟨sound, agrees_of_ok artifacts bundle, Corpus.render_ne_empty sound.2.2,
    made, passed, there, makes, leads, delivered⟩

theorem generate_guarantees_loopback : ∃ gen,
    ((new .default (.stub .bin)).generate spoken loop loopback).result = .ok gen ∧
      spoken.Sound ∧
      gen.Agrees (Grammar.plainName Settings.default.grammarName) Settings.default.policies .bin
        spoken loop ∧
      ∃ made passed there, loopback.mkdirAll loop = (.ok (), made) ∧
        made.Leads loop passed there ∧
        ∀ d ∈ gen.deliveries (Grammar.plainName Settings.default.grammarName)
            Settings.default.policies spoken,
          d.Stands ((new .default (.stub .bin)).generate spoken loop loopback).files loop
            there := by
  obtain ⟨gen, ok, -⟩ := generate_loopback rfl grammarName_default
  obtain ⟨sound, agrees, -, made, passed, there, makes, leads, stands, -⟩ :=
    generate_guarantees .default .bin spoken loop loopback gen ok
  exact ⟨gen, ok, sound, agrees, made, passed, there, makes, leads, stands⟩

/-- A successful run whose dictionary is not found by its path. -/
theorem loopback_cut_off : ∃ gen,
    ((new .default (.stub .bin)).generate spoken loop loopback).result = .ok gen ∧
      gen.artifacts.dictionary.path = loop.join "custom.dict" ∧
      ((new .default (.stub .bin)).generate spoken loop loopback).files.read
        (loop.join "custom.dict") = .error .notDirectory := by
  exact generate_loopback rfl grammarName_default

end Generator
end SpeechConfig
