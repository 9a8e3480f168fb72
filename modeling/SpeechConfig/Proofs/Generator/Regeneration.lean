/-
# `SpeechConfig.Proofs.Generator.Regeneration` — the same run once more, and runs after others

## What is proved, with every binder written out

For all settings, every format of models, every request, path and file system, if the run
with the stub compiler answers with a generation `gen` and leaves `files`, then

* every other run of the same request to the same path that succeeds, from whatever file system
  and behind whatever runs of other requests, answers with `gen` too, and both leave the same
  three texts, which are those of this request;
* the run from `files` leaves `files`, and it answers with `gen` again:

      g.generate r dir files = ⟨.ok gen, files, [], [⟨corpus, files⟩], [corpus]⟩

  with `corpus` the path `sentences.txt` in the directory.

## The one run that cannot be repeated

The second half has an exception.  If the way to the directory passes the entry `sentences.txt`
of that same directory, that entry was a link and the corpus has cut the way: the second run fails
with a fault of the file system, and again leaves `files` (`PassesCorpus`, `loopback_runs_once`).

## Why nothing survives

What a run answers with does not depend on files at all (`generation`), and a file is put as a
whole.  That a second run finds its directory, its entries and its texts as the first left them
is `Leads.mkdirAll` for the directory and `putFiles_of_stand` for the texts.
-/
import SpeechConfig.Proofs.FileSystem.Standing
import SpeechConfig.Proofs.Generator.Success

namespace SpeechConfig

theorem FileSystem.putFiles_of_stand {fs : FileSystem} {there : Location} :
    ∀ {steps : List Step},
      (∀ step ∈ steps, fs.node? (step.name :: there) = some (.file step.text.toUTF8)) →
      fs.putFiles there steps = fs := by
  intro steps
  induction steps with
  | nil => intro _; rfl
  | cons step rest ih =>
      intro stand
      rw [putFiles_cons, put_of_node? (List.cons_ne_nil _ _) (stand step List.mem_cons_self)]
      exact ih fun s h => stand s (List.mem_cons_of_mem _ h)

theorem EmitPlan.emit_of_unmade {plan : EmitPlan} {r : Request} {fs made : FileSystem}
    {fault : FileSystem.Fault} (plain : Grammar.isPlain plan.grammarName = true)
    (makes : fs.mkdirAll plan.dir = (.error fault, made)) :
    plan.emit r fs = (.error (.io fault), made) := by
  rw [emit_eq, if_neg (not_not_intro (Grammar.plainName_eq_self_iff.mpr plain)), makes]

namespace Generator

/-- The way to a directory, when that is made, passes the entry of the corpus in it. -/
def PassesCorpus (fs : FileSystem) (dir : Path) : Prop :=
  ∃ made passed there, fs.mkdirAll dir = (.ok (), made) ∧ made.Leads dir passed there ∧
    "sentences.txt" :: there ∈ passed

/-- What a run with a stub answers with: the files have no share in it. -/
def generation (g : Generator) (format : ModelFormat) (r : Request) (dir : Path) : Generation :=
  let artifacts := (g.plan dir).artifacts r
  ⟨g.bundle r dir artifacts (format.modelOf artifacts.corpus.path), artifacts⟩

/-- The files that runs of these requests leave, one behind the other, whether they succeed or
not. -/
def filesAfter (g : Generator) (dir : Path) (earlier : List Request) (fs : FileSystem) :
    FileSystem :=
  earlier.foldl (fun fs r => (g.generate r dir fs).files) fs

/-- The three files of a generation stand, with the texts that the settings make of the request,
in the directory that the path led to when it had been made.  They are found by their paths,
unless that way passed the corpus, whose entry was a link then. -/
def Delivers (s : Settings) (r : Request) (dir : Path) (fs files : FileSystem)
    (gen : Generation) : Prop :=
  ∃ made passed there, fs.mkdirAll dir = (.ok (), made) ∧ made.Leads dir passed there ∧
    ("sentences.txt" :: there ∈ passed →
      ∃ target, fs.node? ("sentences.txt" :: there) = some (.link target)) ∧
    ∀ d ∈ gen.deliveries (Grammar.plainName s.grammarName) s.policies r,
      d.Stands files dir there ∧
      files.read d.artifact.path =
        if "sentences.txt" :: there ∈ passed then .error .notDirectory else .ok d.text.toUTF8

variable {s : Settings} {g : Generator} {format : ModelFormat} {r : Request} {dir : Path}
  {fs : FileSystem} {gen : Generation}

/-! ## What a run that succeeds has done -/

theorem eq_generation_of_ok (stub : g.compiler = .stub format)
    (ok : (g.generate r dir fs).result = .ok gen) : gen = g.generation format r dir := by
  obtain ⟨-, emitted, bundle⟩ := generate_eq_ok stub ok
  obtain ⟨-, artifacts, -⟩ := EmitPlan.emit_eq_ok emitted
  obtain ⟨b, set⟩ := gen
  simp only at artifacts bundle
  subst artifacts
  subst bundle
  rfl

theorem delivers_of_ok (ok : ((new s (.stub format)).generate r dir fs).result = .ok gen) :
    Delivers s r dir fs ((new s (.stub format)).generate r dir fs).files gen := by
  obtain ⟨-, emitted, -⟩ := generate_eq_ok rfl ok
  obtain ⟨-, artifacts, made, makes, writes⟩ := EmitPlan.emit_eq_ok emitted
  obtain ⟨passed, there, leads, stands, apart, cut⟩ :=
    deliveries_of_ok (isPlain_new s (.stub format)) artifacts makes writes
  rw [grammarName_new, policies_new] at stands apart cut
  refine ⟨made, passed, there, makes, leads, fun passes => (cut passes).1,
    fun d h => ⟨stands d h, ?_⟩⟩
  split
  · next passes => exact (cut passes).2 d h
  · next passes => exact apart passes d h

theorem placed_of_ok (stub : g.compiler = .stub format)
    (ok : (g.generate r dir fs).result = .ok gen) :
    ∃ made passed there, fs.mkdirAll dir = (.ok (), made) ∧ made.Leads dir passed there ∧
      (∀ step ∈ (g.plan dir).steps r, step.Fits made dir there) ∧
      (∀ step ∈ [(g.plan dir).dictionaryStep r, (g.plan dir).grammarStep r],
        step.name :: there ∉ passed) ∧
      (g.generate r dir fs).files = made.putFiles there ((g.plan dir).steps r) := by
  obtain ⟨-, emitted, -⟩ := generate_eq_ok stub ok
  exact EmitPlan.placed_of_emit emitted

theorem passesCorpus_iff {made : FileSystem} {passed : List Location} {there : Location}
    (makes : fs.mkdirAll dir = (.ok (), made)) (leads : made.Leads dir passed there) :
    PassesCorpus fs dir ↔ "sentences.txt" :: there ∈ passed := by
  constructor
  · rintro ⟨made', passed', there', makes', leads', passes⟩
    obtain rfl := (Prod.mk.inj (makes.symm.trans makes')).2
    obtain ⟨rfl, rfl⟩ := leads.unique leads'
    exact passes
  · intro passes
    exact ⟨made, passed, there, makes, leads, passes⟩

/-! ## The second run -/

theorem checkPath_of_fits {made : FileSystem} {there : Location}
    (fits : ∀ step ∈ (g.plan dir).steps r, step.Fits made dir there) (something : dir.text ≠ "") :
    FileSystem.checkPath dir = .ok () :=
  FileSystem.checkPath_of_join EmitPlan.isEntryName_dictionary something
    (fits ((g.plan dir).dictionaryStep r) (by simp [EmitPlan.steps])).path

/-- Where the way to the directory is still there, the run finds all as it would leave it. -/
theorem generate_again (stub : g.compiler = .stub format)
    (ok : (g.generate r dir fs).result = .ok gen) (apart : ¬ PassesCorpus fs dir) :
    g.generate r dir (g.generate r dir fs).files =
      ⟨.ok gen, (g.generate r dir fs).files, [],
        [⟨dir.join "sentences.txt", (g.generate r dir fs).files⟩], [dir.join "sentences.txt"]⟩ := by
  obtain ⟨first, emitted, -⟩ := generate_eq_ok stub ok
  obtain ⟨plain, -, -⟩ := EmitPlan.emit_eq_ok emitted
  obtain ⟨made, passed, there, makes, leads, fits, before, placed⟩ := placed_of_ok stub ok
  rw [passesCorpus_iff makes leads] at apart
  rw [placed]
  have names : ∀ step ∈ (g.plan dir).steps r, FileSystem.IsEntryName step.name :=
    EmitPlan.isEntryName_steps plain
  have distinct := EmitPlan.nodup_steps (g.plan dir) r
  have apart_all : ∀ step ∈ (g.plan dir).steps r, step.name :: there ∉ passed := by
    rw [EmitPlan.steps_concat, List.forall_mem_append]
    exact ⟨before, List.forall_mem_singleton.mpr apart⟩
  have stand : ∀ step ∈ (g.plan dir).steps r,
      (made.putFiles there ((g.plan dir).steps r)).node? (step.name :: there) =
        some (.file step.text.toUTF8) :=
    fun step h => FileSystem.node?_putFiles_of_mem distinct h
  have leads' := leads.putFiles apart_all
  have makes' := leads'.mkdirAll (checkPath_of_fits fits)
  have fits' : ∀ step ∈ (g.plan dir).steps r,
      step.Fits (made.putFiles there ((g.plan dir).steps r)) dir there := by
    intro step h
    obtain ⟨guard, path, short, -⟩ := fits step h
    exact ⟨guard, path, short, by simp [stand step h]⟩
  have writes := (writes_iff leads' names distinct).mpr
    ⟨fits', before, (FileSystem.putFiles_of_stand stand).symm⟩
  have emitted' := EmitPlan.emit_of_run plain makes' (List.append_nil _).symm writes .done
  rw [generate_of_emit_ok first emitted', finish, stub, eq_generation_of_ok stub ok]
  rfl

/-- Where the corpus has cut the way, the run cannot make the directory, and changes nothing. -/
theorem generate_cut_off (stub : g.compiler = .stub format)
    (ok : (g.generate r dir fs).result = .ok gen) (passes : PassesCorpus fs dir) :
    ∃ fault, g.generate r dir (g.generate r dir fs).files =
      ⟨.error (.io fault), (g.generate r dir fs).files, [], [], []⟩ := by
  obtain ⟨first, emitted, -⟩ := generate_eq_ok stub ok
  obtain ⟨plain, -, -⟩ := EmitPlan.emit_eq_ok emitted
  obtain ⟨made, passed, there, makes, leads, fits, before, placed⟩ := placed_of_ok stub ok
  rw [passesCorpus_iff makes leads] at passes
  obtain ⟨fault, makes'⟩ := (leads.putFiles before).mkdirAll_put passes
    (checkPath_of_fits fits (leads.text_ne_empty passes))
  rw [placed, EmitPlan.steps_concat, FileSystem.putFiles_concat]
  exact ⟨fault, generate_of_emit_error first (EmitPlan.emit_of_unmade plain makes')⟩

theorem exists_ok {α : Type} {result : Except Failure α} (h : result.isOk = true) :
    ∃ a, result = .ok a := by
  cases result with
  | ok a => exact ⟨a, rfl⟩
  | error e => cases h

/-! ## Every run that succeeds -/

/-- A run that succeeds answers what every other such run of its request answers, and leaves
the texts that it leaves, whatever ran before; and once more it changes nothing. -/
theorem regeneration_changes_nothing (s : Settings) (format : ModelFormat) (r : Request)
    (dir : Path) (fs : FileSystem) (gen : Generation)
    (ok : ((new s (.stub format)).generate r dir fs).result = .ok gen) :
    let g := new s (.stub format)
    let files := (g.generate r dir fs).files
    Delivers s r dir fs files gen ∧
      (∀ (fs' : FileSystem) (earlier : List Request) (gen' : Generation),
        let before := g.filesAfter dir earlier fs'
        (g.generate r dir before).result = .ok gen' →
          gen' = gen ∧ Delivers s r dir before (g.generate r dir before).files gen) ∧
      (PassesCorpus fs dir ∧
          (∃ fault, g.generate r dir files = ⟨.error (.io fault), files, [], [], []⟩) ∨
        ¬ PassesCorpus fs dir ∧
          g.generate r dir files = ⟨.ok gen, files, [], [⟨dir.join "sentences.txt", files⟩],
            [dir.join "sentences.txt"]⟩) := by
  intro g files
  refine ⟨delivers_of_ok ok, ?_, ?_⟩
  · intro fs' earlier gen' before ok'
    have same : gen' = gen :=
      (eq_generation_of_ok rfl ok').trans (eq_generation_of_ok rfl ok).symm
    exact ⟨same, same ▸ delivers_of_ok ok'⟩
  · by_cases passes : PassesCorpus fs dir
    · exact Or.inl ⟨passes, generate_cut_off rfl ok passes⟩
    · exact Or.inr ⟨passes, generate_again rfl ok passes⟩

/-- From a link under the name of the corpus, by a path that does not pass it: the second run
and a run behind one that failed find no difference. -/
theorem regeneration_changes_nothing_beside :
    let g := new .default (.stub .bin)
    let files := (g.generate spoken ⟨"."⟩ loopback).files
    let before := g.filesAfter ⟨"."⟩ [unsaid, spoken, unsaid] (.bare [])
    ∃ gen, (g.generate spoken ⟨"."⟩ loopback).result = .ok gen ∧
      (g.generate spoken ⟨"."⟩ before).result = .ok gen ∧
      g.generate spoken ⟨"."⟩ files = ⟨.ok gen, files, [], [⟨⟨"./sentences.txt"⟩, files⟩],
        [⟨"./sentences.txt"⟩]⟩ := by
  intro g files before
  have here : FileSystem.segments ⟨"."⟩ = ["."] := by decide
  have leads : loopback.Leads ⟨"."⟩ [] [] := by
    refine ⟨FileSystem.linkLimit, ?_⟩
    rw [here]
    exact .idle (Or.inr rfl) .here
  have apart : ¬ PassesCorpus loopback ⟨"."⟩ := by
    rw [passesCorpus_iff (leads.mkdirAll (by decide)) leads]
    exact List.not_mem_nil
  obtain ⟨gen, ok⟩ : ∃ gen, (g.generate spoken ⟨"."⟩ loopback).result = .ok gen :=
    exists_ok (by decide +kernel)
  obtain ⟨gen', ok'⟩ : ∃ gen', (g.generate spoken ⟨"."⟩ before).result = .ok gen' :=
    exists_ok (by decide +kernel)
  obtain ⟨-, others, again⟩ :=
    regeneration_changes_nothing .default .bin spoken ⟨"."⟩ loopback gen ok
  obtain ⟨rfl, -⟩ := others (.bare []) [unsaid, spoken, unsaid] gen' ok'
  rcases again with ⟨passes, -⟩ | ⟨-, again⟩
  · exact absurd passes apart
  · exact ⟨gen', ok, ok', again⟩

/-- The way along a link under the name of the corpus can be gone once. -/
theorem loopback_runs_once :
    let g := new .default (.stub .bin)
    let files := (g.generate spoken loop loopback).files
    ∃ gen, (g.generate spoken loop loopback).result = .ok gen ∧
      (g.generate spoken loop files).result = .error (.io .exists) := by
  intro g files
  obtain ⟨gen, ok, -⟩ := generate_loopback rfl grammarName_default
  exact ⟨gen, ok, by decide +kernel⟩

end Generator
end SpeechConfig
