/-
# `SpeechConfig.Proofs.Generator.Independence` — runs in different directories

## What is proved, with every binder written out

For all settings, formats and requests of two generators with stub compilers, and every file
system without symbolic links in which the paths `d₁` and `d₂` lead to different directories, one
of them inside the other or not, let `run₁` and `run₂` be the two runs.  Then

    (run₁ (run₂ fs).files).result = (run₁ fs).result
    (run₂ (run₁ fs).files).result = (run₂ fs).result
    (run₁ (run₂ fs).files).files = (run₂ (run₁ fs).files).files

whether the runs succeed, fail at once or fail between two files; and each compiler is handed the
same corpora.

## One run, seen from its directory

`Puts` says that a program answers the same in all file systems that look alike along the way to
its directory and in it, and puts the same files there.  A run of steps is such a program
(`exists_puts_writeAll`, by induction on the steps), and so are emission and generation.  Two of
them at different places do not see each other (`Puts.commute`), since no file is put over a
directory: the way to a nested directory stays open, even where it goes through an entry that the
outer run wants to replace.
-/
import SpeechConfig.Proofs.FileSystem.Footprint
import SpeechConfig.Proofs.Generator.Timing

namespace SpeechConfig

open FileSystem (Agrees Reaches IsEntryName)

variable {α β : Type} {fs : FileSystem} {dir : Path} {passed passed' : List Location}
  {there there' : Location} {files files' : List Step}

/-! ## Programs that keep to a directory -/

/-- In every file system that looks like `fs` there, the program answers `a` and puts these files
into the directory, none of them over a directory of `fs`. -/
structure Puts (fs : FileSystem) (passed : List Location) (there : Location)
    (program : FileSystem → α × FileSystem) (a : α) (files : List Step) : Prop where
  free : ∀ step ∈ files, fs.node? (step.name :: there) ≠ some .directory
  runs : ∀ fs', Agrees fs fs' passed there → program fs' = (a, fs'.putFiles there files)

theorem Puts.of_const {program : FileSystem → α × FileSystem} {a : α}
    (runs : ∀ fs', Agrees fs fs' passed there → program fs' = (a, fs')) :
    Puts fs passed there program a [] :=
  ⟨fun _ h => absurd h List.not_mem_nil, runs⟩

/-- A program at its directory is not changed by another at a different one, and the two leave
the same files in either order. -/
theorem Puts.commute {program : FileSystem → α × FileSystem}
    {program' : FileSystem → β × FileSystem} {dir' : Path} {a : α} {b : β}
    (puts : Puts fs passed there program a files)
    (puts' : Puts fs passed' there' program' b files') (reaches : fs.Reaches dir passed there)
    (reaches' : fs.Reaches dir' passed' there') (different : there ≠ there') :
    (program (program' fs).2).1 = (program fs).1 ∧
      (program' (program fs).2).1 = (program' fs).1 ∧
      (program (program' fs).2).2 = (program' (program fs).2).2 := by
  have alone := puts.runs fs (.refl fs passed there)
  have alone' := puts'.runs fs (.refl fs passed' there')
  have behind := puts.runs _ (reaches.agrees_putFiles different.symm puts'.free)
  have behind' := puts'.runs _ (reaches'.agrees_putFiles different puts.free)
  rw [alone, alone', behind, behind']
  exact ⟨rfl, rfl, FileSystem.putFiles_comm different files'⟩

/-! ## Steps, emission, generation -/

/-- A run of steps keeps to its directory: it breaks off at the same step, wherever else files
were put. -/
theorem exists_puts_writeAll {steps : List Step} :
    ∀ {fs : FileSystem}, fs.Reaches dir passed there →
      (∀ step ∈ steps, IsEntryName step.name) →
      ∃ result files, Puts fs passed there (writeAll dir steps) result files := by
  induction steps with
  | nil => intro fs _ _; exact ⟨_, _, .of_const fun _ _ => rfl⟩
  | cons step rest ih =>
      intro fs reaches names
      have name := names step List.mem_cons_self
      cases guard : step.guard with
      | error e => exact ⟨_, _, .of_const fun fs' _ => by rw [writeAll, guard]⟩
      | ok _ =>
          cases lands : fs.landing (dir.join step.name) with
          | error fault =>
              refine ⟨.error (.io fault), _, .of_const fun fs' same => ?_⟩
              rw [writeAll, guard, FileSystem.replace_eq_landing, reaches.landing_join name same,
                lands]
              rfl
          | ok l =>
              obtain ⟨-, -, _, _, leads, free, rfl⟩ :=
                (FileSystem.landing_join_eq_ok_iff name).mp lands
              obtain ⟨rfl, rfl⟩ := leads.unique reaches.leads
              obtain ⟨result, files, puts⟩ := ih (reaches.put free (.file step.text.toUTF8))
                fun s hs => names s (List.mem_cons_of_mem _ hs)
              refine ⟨result, step :: files, List.forall_mem_cons.mpr ⟨free, fun later h => ?_⟩,
                fun fs' same => ?_⟩
              · -- a later file may replace this one, but stands over no directory either
                intro directory
                refine puts.free later h ?_
                have apart : step.name :: _ ≠ later.name :: _ :=
                  fun same => free (same ▸ directory)
                rw [FileSystem.node?_put_of_ne _ apart, directory]
              · rw [writeAll, guard, FileSystem.replace_eq_landing,
                  reaches.landing_join name same, lands]
                exact puts.runs _ (same.put _ _)

theorem exists_puts_emit {plan : EmitPlan} (r : Request)
    (reaches : fs.Reaches plan.dir passed there) (plain : Grammar.isPlain plan.grammarName = true) :
    ∃ result files, Puts fs passed there (plan.emit r) result files := by
  obtain ⟨result, files, puts⟩ :=
    exists_puts_writeAll reaches (EmitPlan.isEntryName_steps (r := r) plain)
  refine ⟨result.map fun _ => plan.artifacts r, files, puts.free, fun fs' same => ?_⟩
  rw [EmitPlan.emit_eq, if_neg (not_not_intro (Grammar.plainName_eq_self_iff.mpr plain)),
    (reaches.of_agrees same).mkdirAll]
  simp only [puts.runs fs' same]

namespace Generator

/-- What a run is known by from outside: its result, the corpora that its compiler was handed,
and the files it leaves. -/
def visible (g : Generator) (r : Request) (dir : Path) (fs : FileSystem) :
    (Except Failure Generation × List Path) × FileSystem :=
  let o := g.generate r dir fs
  ((o.result, o.calls.map Call.corpus), o.files)

theorem exists_puts_visible {g : Generator} {format : ModelFormat} (r : Request)
    (stub : g.compiler = .stub format) (plain : Grammar.isPlain g.settings.grammarName = true)
    (reaches : fs.Reaches dir passed there) :
    ∃ answer files, Puts fs passed there (g.visible r dir) answer files := by
  cases first : g.checkFirst r with
  | error e =>
      refine ⟨(.error e, []), _, .of_const fun fs' _ => ?_⟩
      rw [visible, generate, first]
      rfl
  | ok _ =>
      have plan_plain : Grammar.isPlain (g.plan dir).grammarName = true := plain
      have plan_reaches : fs.Reaches (g.plan dir).dir passed there := reaches
      obtain ⟨result, files, puts⟩ := exists_puts_emit r plan_reaches plan_plain
      cases result with
      | error e =>
          refine ⟨(.error e, []), files, puts.free, fun fs' same => ?_⟩
          rw [visible, generate_of_emit_error first (puts.runs fs' same)]
          rfl
      | ok artifacts =>
          let model := format.modelOf artifacts.corpus.path
          refine ⟨(.ok ⟨g.bundle r dir artifacts model, artifacts⟩, [artifacts.corpus.path]), files,
            puts.free, fun fs' same => ?_⟩
          rw [visible, generate_of_emit_ok first (puts.runs fs' same), finish, stub]
          rfl

/-! ## Two runs -/

/-- Runs in different directories do not see each other, and can be made in either order. -/
theorem generate_independent (s₁ s₂ : Settings) (format₁ format₂ : ModelFormat)
    (r₁ r₂ : Request) (d₁ d₂ : Path) (fs : FileSystem) (no_links : fs.LinkFree)
    (stands₁ : fs.isDirectory d₁ = true) (stands₂ : fs.isDirectory d₂ = true)
    (different : fs.locate d₁ ≠ fs.locate d₂) :
    let run₁ := (new s₁ (.stub format₁)).generate r₁ d₁
    let run₂ := (new s₂ (.stub format₂)).generate r₂ d₂
    (run₁ (run₂ fs).files).result = (run₁ fs).result ∧
      (run₂ (run₁ fs).files).result = (run₂ fs).result ∧
      (run₁ (run₂ fs).files).files = (run₂ (run₁ fs).files).files ∧
      (run₁ (run₂ fs).files).calls.map Call.corpus = (run₁ fs).calls.map Call.corpus ∧
      (run₂ (run₁ fs).files).calls.map Call.corpus = (run₂ fs).calls.map Call.corpus := by
  intro run₁ run₂
  obtain ⟨passed₁, there₁, reaches₁, found₁⟩ :=
    FileSystem.reaches_of_isDirectory no_links stands₁
  obtain ⟨passed₂, there₂, reaches₂, found₂⟩ :=
    FileSystem.reaches_of_isDirectory no_links stands₂
  have apart : there₁ ≠ there₂ := fun same => different (by rw [found₁, found₂, same])
  obtain ⟨_, _, puts₁⟩ := exists_puts_visible r₁ rfl (isPlain_new s₁ (.stub format₁)) reaches₁
  obtain ⟨_, _, puts₂⟩ := exists_puts_visible r₂ rfl (isPlain_new s₂ (.stub format₂)) reaches₂
  obtain ⟨answer₁, answer₂, left⟩ := puts₁.commute puts₂ reaches₁ reaches₂ apart
  obtain ⟨result₁, corpora₁⟩ := Prod.mk.inj answer₁
  obtain ⟨result₂, corpora₂⟩ := Prod.mk.inj answer₂
  exact ⟨result₁, result₂, left, corpora₁, corpora₂⟩

/-- A run in a directory that has the name of the corpus of another run, around it: that one fails
at its corpus, the one inside comes through, and neither changes this for the other. -/
theorem generate_independent_nested :
    let r : Request := ⟨assent, ["yes"], ["yes"]⟩
    let outer := (new .default (.stub .bin)).generate r ⟨"."⟩
    let inner := (new .default (.stub .dmp)).generate r ⟨"sentences.txt"⟩
    (outer detoured).result = .error (.io .isDirectory) ∧ (inner detoured).result.isOk = true ∧
      (outer (inner detoured).files).result = (outer detoured).result ∧
      (inner (outer detoured).files).result = (inner detoured).result ∧
      (outer (inner detoured).files).files = (inner (outer detoured).files).files := by
  intro r outer inner
  have no_links : detoured.LinkFree := FileSystem.linkFree_bare.put (fun _ => by simp)
  have here : detoured.locate ⟨"."⟩ = .ok [] := by rfl
  have inside : detoured.locate ⟨"sentences.txt"⟩ = .ok ["sentences.txt"] := by rfl
  have different : detoured.locate ⟨"."⟩ ≠ detoured.locate ⟨"sentences.txt"⟩ := by
    rw [here, inside]
    simp
  obtain ⟨outer_same, inner_same, left, -⟩ := generate_independent .default .default .bin .dmp r r
    ⟨"."⟩ ⟨"sentences.txt"⟩ detoured no_links (by rfl) (by rfl) different
  exact ⟨by decide +kernel, by decide +kernel, outer_same, inner_same, left⟩

end Generator
end SpeechConfig
