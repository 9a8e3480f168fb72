/-
# `SpeechConfig.Proofs.Compiler.Modes` — the same script in legacy and in strict mode

## What is proved, with every binder written out

For every script (path, format of models, verbosity and shell), all programs, every corpus and
file system, let `legacy` and `strict` be the compilations in the two modes.  Then

    legacy.files = strict.files  ∧  legacy.output = strict.output  ∧  legacy.result = .ok model
    strict.result = .ok model  ↔  s.Succeeds programs (workDirOf corpus) fs

with `model` the model of the corpus by its name; and where the script does not succeed,
`strict` reports a failure of compilation that carries the script's path, and `legacy` has one
warning more in its log.

## Where a run can end

`RunsTo` lists the five ends of a run with what each leaves behind, in the order in which they
are come to: no file name, no copy, no start, an end that is no success, success.  What a
program does is a parameter: any files, any output and any end, or no start at all.
-/
import SpeechConfig.Compiler.Script

namespace SpeechConfig

/-- The lines of the log that a compiler printed. -/
def Compilation.output (c : Compilation) : List LogLine :=
  c.log.filter fun line => line.level != .warn

namespace Script

/-- The script comes to stand under a name in a directory: it is that file already, or it is
copied there. -/
inductive Stages (s : Script) (dir : Path) (name : String) (fs : FileSystem) : FileSystem → Prop
  | already {l : Location} : fs.locate s.path = .ok l → fs.locate (dir.join name) = .ok l →
      Stages s dir name fs fs
  | copied {staged : FileSystem} :
      (∀ l, fs.locate s.path = .ok l → fs.locate (dir.join name) ≠ .ok l) →
      fs.copy s.path (dir.join name) = .ok staged → Stages s dir name fs staged

/-- The shell can be started on the script in the directory, and comes to this end. -/
structure Starts (s : Script) (programs : Programs) (dir : Path) (name : String)
    (staged : FileSystem) (finished : Finished) : Prop where
  shell : '\x00' ∉ s.shell.text.toList
  there : ∃ inside, staged.enter dir = .ok inside ∧
    programs s.shell.text name inside = .ok finished

/-- The script has a file name, stands in the directory, is started there and does its work. -/
def Succeeds (s : Script) (programs : Programs) (dir : Path) (fs : FileSystem) : Prop :=
  ∃ name staged finished, s.path.fileName? = some name ∧ s.Stages dir name fs staged ∧
    s.Starts programs dir name staged finished ∧ finished.ending = .exit 0

/-- The ends of a run, each with the files and the lines it leaves. -/
inductive RunsTo (s : Script) (programs : Programs) (dir : Path) (fs : FileSystem) : Run → Prop
  | unnamed {detail : String} : s.path.fileName? = none →
      RunsTo s programs dir fs ⟨.error (s.failure detail), fs, []⟩
  | unstaged {name detail : String} : s.path.fileName? = some name →
      (∀ staged, ¬ s.Stages dir name fs staged) →
      RunsTo s programs dir fs ⟨.error (s.failure detail), fs, []⟩
  | unstarted {name detail : String} {staged : FileSystem} : s.path.fileName? = some name →
      s.Stages dir name fs staged → (∀ finished, ¬ s.Starts programs dir name staged finished) →
      RunsTo s programs dir fs ⟨.error (s.failure detail), staged, []⟩
  | failed {name detail : String} {staged : FileSystem} {finished : Finished} :
      s.path.fileName? = some name → s.Stages dir name fs staged →
      s.Starts programs dir name staged finished → finished.ending ≠ .exit 0 →
      RunsTo s programs dir fs ⟨.error (s.failure detail),
        { finished.files with workDir := fs.workDir }, s.report finished⟩
  | succeeded {name : String} {staged : FileSystem} {finished : Finished} :
      s.path.fileName? = some name → s.Stages dir name fs staged →
      s.Starts programs dir name staged finished → finished.ending = .exit 0 →
      RunsTo s programs dir fs ⟨.ok (),
        { finished.files with workDir := fs.workDir }, s.report finished⟩

variable {s : Script} {programs : Programs} {dir : Path} {name : String}
  {fs staged : FileSystem} {finished : Finished} {e : Failure} {ran : Run}

/-! ## The stages of a run -/

theorem samePlace_iff {p q : Path} :
    samePlace fs p q = true ↔ ∃ l, fs.locate p = .ok l ∧ fs.locate q = .ok l := by
  unfold samePlace
  cases fs.locate p with
  | error _ => simp
  | ok l =>
      cases fs.locate q with
      | error _ => simp
      | ok m =>
          rw [beq_iff_eq]
          constructor
          · rintro rfl
            exact ⟨l, rfl, rfl⟩
          · rintro ⟨_, ⟨⟩, ⟨⟩⟩
            rfl

theorem stage_eq_ok_iff : s.stage dir name fs = .ok staged ↔ s.Stages dir name fs staged := by
  rw [stage]
  split
  · next same =>
      obtain ⟨l, here, there⟩ := samePlace_iff.mp same
      constructor
      · intro h
        obtain rfl := Except.ok.inj h
        exact .already here there
      · intro h
        cases h with
        | already _ _ => rfl
        | copied apart _ => exact absurd there (apart l here)
  · next other =>
      have apart : ∀ l, fs.locate s.path = .ok l → fs.locate (dir.join name) ≠ .ok l :=
        fun l here there => other (samePlace_iff.mpr ⟨l, here, there⟩)
      constructor
      · intro h
        cases copied : fs.copy s.path (dir.join name) with
        | ok copy =>
            rw [copied] at h
            obtain rfl := Except.ok.inj h
            exact .copied apart copied
        | error fault =>
            rw [copied] at h
            cases h
      · intro h
        cases h with
        | already here there => exact absurd there (apart _ here)
        | copied _ copied => rw [copied]

theorem failure_of_stage (h : s.stage dir name fs = .error e) : ∃ detail, e = s.failure detail := by
  rw [stage] at h
  split at h
  · cases h
  · split at h
    · cases h
    · exact ⟨_, (Except.error.inj h).symm⟩

theorem start_eq_ok_iff :
    s.start programs dir name staged = .ok finished ↔
      s.Starts programs dir name staged finished := by
  by_cases nul : '\x00' ∈ s.shell.text.toList
  · have refused : ∀ p, s.start programs dir name staged ≠ .ok p := fun p h => by
      simp [start, nul, throw, throwThe, MonadExceptOf.throw, bind, Except.bind] at h
    exact ⟨fun h => absurd h (refused _), fun h => absurd nul h.shell⟩
  cases entered : staged.enter dir with
  | error fault =>
      have unentered : ∀ p, s.start programs dir name staged ≠ .ok p := fun p h => by
        simp [start, nul, entered, bind, Except.bind] at h
      refine ⟨fun h => absurd h (unentered _), fun h => ?_⟩
      obtain ⟨inside, there, _⟩ := h.there
      cases entered.symm.trans there
  | ok inside =>
      have ends : s.start programs dir name staged = .ok finished ↔
          programs s.shell.text name inside = .ok finished := by
        cases ended : programs s.shell.text name inside <;>
          simp [start, nul, entered, ended, bind, Except.bind]
      refine ends.trans ⟨fun h => ⟨nul, inside, entered, h⟩, fun h => ?_⟩
      obtain ⟨_, there, h⟩ := h.there
      obtain rfl := Except.ok.inj (entered.symm.trans there)
      exact h

theorem failure_of_start (h : s.start programs dir name staged = .error e) :
    ∃ detail, e = s.failure detail := by
  rw [start] at h
  dsimp only at h
  split at h
  · cases h
  · exact ⟨_, (Except.error.inj h).symm⟩

theorem verdict_eq_ok_iff : s.verdict finished = .ok () ↔ finished.ending = .exit 0 := by
  rw [verdict, Ending.isSuccess]
  split
  · next success => simpa using success
  · next failing => simpa using failing

theorem failure_of_verdict (h : s.verdict finished = .error e) :
    ∃ detail, e = s.failure detail := by
  rw [verdict] at h
  split at h
  · cases h
  · exact ⟨_, (Except.error.inj h).symm⟩

/-! ## The run -/

/-- Every run comes to one of the five ends. -/
theorem run_runsTo : s.RunsTo programs dir fs (s.run programs dir fs) := by
  unfold run
  split
  · next named => exact .unnamed named
  · next name named =>
      split
      · next e unstaged =>
          obtain ⟨detail, rfl⟩ := failure_of_stage unstaged
          refine .unstaged named fun staged h => ?_
          cases unstaged.symm.trans (stage_eq_ok_iff.mpr h)
      · next staged stages =>
          rw [stage_eq_ok_iff] at stages
          split
          · next e unstarted =>
              obtain ⟨detail, rfl⟩ := failure_of_start unstarted
              refine .unstarted named stages fun finished h => ?_
              cases unstarted.symm.trans (start_eq_ok_iff.mpr h)
          · next finished starts =>
              rw [start_eq_ok_iff] at starts
              cases done : s.verdict finished with
              | ok _ => exact .succeeded named stages starts (verdict_eq_ok_iff.mp done)
              | error e =>
                  obtain ⟨detail, rfl⟩ := failure_of_verdict done
                  refine .failed named stages starts fun success => ?_
                  cases done.symm.trans (verdict_eq_ok_iff.mpr success)

theorem Stages.unique {other : FileSystem} (h : s.Stages dir name fs staged)
    (h' : s.Stages dir name fs other) : staged = other :=
  Except.ok.inj ((stage_eq_ok_iff.mpr h).symm.trans (stage_eq_ok_iff.mpr h'))

theorem Starts.unique {other : Finished} (h : s.Starts programs dir name staged finished)
    (h' : s.Starts programs dir name staged other) : finished = other :=
  Except.ok.inj ((start_eq_ok_iff.mpr h).symm.trans (start_eq_ok_iff.mpr h'))

namespace RunsTo

theorem result_eq_ok_iff (h : s.RunsTo programs dir fs ran) :
    ran.result = .ok () ↔ s.Succeeds programs dir fs := by
  cases h with
  | unnamed named =>
      refine iff_of_false nofun ?_
      rintro ⟨name, _, _, named', _⟩
      cases named.symm.trans named'
  | unstaged named unstaged =>
      refine iff_of_false nofun ?_
      rintro ⟨name', staged, _, named', stages, _⟩
      obtain rfl := Option.some.inj (named.symm.trans named')
      exact absurd stages (unstaged staged)
  | unstarted named stages unstarted =>
      refine iff_of_false nofun ?_
      rintro ⟨name', staged', finished, named', stages', starts, _⟩
      obtain rfl := Option.some.inj (named.symm.trans named')
      obtain rfl := stages.unique stages'
      exact absurd starts (unstarted finished)
  | failed named stages starts failing =>
      refine iff_of_false nofun ?_
      rintro ⟨name', staged', finished', named', stages', starts', success⟩
      obtain rfl := Option.some.inj (named.symm.trans named')
      obtain rfl := stages.unique stages'
      obtain rfl := starts.unique starts'
      exact absurd success failing
  | succeeded named stages starts success =>
      exact ⟨fun _ => ⟨_, _, _, named, stages, starts, success⟩, fun _ => rfl⟩

theorem failure (h : s.RunsTo programs dir fs ran) (failed : ran.result = .error e) :
    ∃ detail, e = .compile s.path detail := by
  cases h with
  | unnamed | unstaged | unstarted | failed => exact ⟨_, (Except.error.inj failed).symm⟩
  | succeeded => cases failed

theorem log_printed (h : s.RunsTo programs dir fs ran) :
    (ran.log.filter fun line => line.level != .warn) = ran.log := by
  have printed (p : Finished) : ∀ line ∈ s.report p, (line.level != .warn) = true := by
    intro line h
    obtain ⟨_, _, rfl⟩ := List.mem_map.mp h
    cases s.verbose <;> rfl
  cases h with
  | unnamed | unstaged | unstarted => rfl
  | failed | succeeded => exact List.filter_eq_self.mpr (printed _)

end RunsTo

/-! ## The two modes -/

def Run.warnings (ran : Run) : List LogLine :=
  match ran.result with
  | .ok () => []
  | .error e => [.warn ("ignoring language model compiler failure: " ++ e.message)]

theorem Run.warnings_unprinted (ran : Run) :
    (ran.warnings.filter fun line => line.level != .warn) = [] := by
  unfold Run.warnings
  cases ran.result <;> rfl

theorem run_mode (m : CompileMode) : { s with mode := m }.run programs dir fs =
    s.run programs dir fs := rfl

theorem compile_strict (s : Script) (programs : Programs) (corpus : Path) (fs : FileSystem) :
    let ran := s.run programs (workDirOf corpus) fs
    { s with mode := .strict }.compile programs corpus fs =
      ⟨ran.result.map fun _ => s.format.modelOf corpus, ran.files, ran.log, []⟩ := by
  simp only [compile, run_mode]
  cases (s.run programs (workDirOf corpus) fs).result <;> rfl

theorem compile_legacy (s : Script) (programs : Programs) (corpus : Path) (fs : FileSystem) :
    let ran := s.run programs (workDirOf corpus) fs
    { s with mode := .legacy }.compile programs corpus fs =
      ⟨.ok (s.format.modelOf corpus), ran.files, ran.log ++ ran.warnings, []⟩ := by
  simp only [compile, run_mode, Run.warnings]
  cases (s.run programs (workDirOf corpus) fs).result with
  | ok _ => simp only [List.append_nil]
  | error e => rfl

theorem record_compile (s : Script) (programs : Programs) (corpus : Path) (fs : FileSystem) :
    (s.compile programs corpus fs).record = [] := by
  cases answer : (s.run programs (workDirOf corpus) fs).result with
  | ok _ => simp only [compile, answer]
  | error e => cases mode : s.mode <;> simp only [compile, answer, mode]

/-- In either mode a script answers with the model of the corpus or, in strict mode only, with a
failure of compilation. -/
theorem compile_cases (s : Script) (programs : Programs) (corpus : Path) (fs : FileSystem) :
    (s.compile programs corpus fs).result = .ok (s.format.modelOf corpus) ∨
      s.mode = .strict ∧
        ∃ detail, (s.compile programs corpus fs).result = .error (.compile s.path detail) := by
  have runs : s.RunsTo programs (workDirOf corpus) fs _ := run_runsTo
  cases answer : (s.run programs (workDirOf corpus) fs).result with
  | ok _ => exact .inl (by simp only [compile, answer])
  | error e =>
      obtain ⟨detail, rfl⟩ := runs.failure answer
      cases mode : s.mode with
      | legacy => exact .inl (by simp only [compile, answer, mode])
      | strict => exact .inr ⟨rfl, detail, by simp only [compile, answer, mode]⟩

/-- The modes differ in the verdict alone.  Files and output are those of one run; in legacy mode
the answer is always the model of the corpus, in strict mode it is that where the script
succeeds, and a failure of compilation with the path of the script elsewhere. -/
theorem modes_differ_in_verdict (s : Script) (programs : Programs) (corpus : Path)
    (fs : FileSystem) :
    let legacy := { s with mode := .legacy }.compile programs corpus fs
    let strict := { s with mode := .strict }.compile programs corpus fs
    let model := s.format.modelOf corpus
    let succeeds := s.Succeeds programs (workDirOf corpus) fs
    legacy.files = strict.files ∧ legacy.output = strict.output ∧ legacy.result = .ok model ∧
      (strict.result = .ok model ↔ succeeds) ∧
      (¬ succeeds → ∃ detail, strict.result = .error (.compile s.path detail)) ∧
      ∃ ran, s.RunsTo programs (workDirOf corpus) fs ran ∧
        strict.files = ran.files ∧ strict.output = ran.log ∧
        legacy.log = strict.log ++ ran.warnings := by
  intro legacy strict model succeeds
  let ran := s.run programs (workDirOf corpus) fs
  have legacy_eq : legacy = ⟨.ok model, ran.files, ran.log ++ ran.warnings, []⟩ :=
    compile_legacy ..
  have strict_eq : strict = ⟨ran.result.map fun _ => model, ran.files, ran.log, []⟩ :=
    compile_strict ..
  have runs : s.RunsTo programs (workDirOf corpus) fs ran := run_runsTo
  have strict_output : strict.output = ran.log := by rw [strict_eq]; exact runs.log_printed
  have legacy_output : legacy.output = ran.log := by
    rw [legacy_eq, Compilation.output, List.filter_append, runs.log_printed, ran.warnings_unprinted,
      List.append_nil]
  refine ⟨by rw [legacy_eq, strict_eq], legacy_output.trans strict_output.symm,
    by rw [legacy_eq], ?_, ?_,
    ran, runs, by rw [strict_eq], strict_output, by rw [legacy_eq, strict_eq]⟩
  · refine Iff.trans ?_ runs.result_eq_ok_iff
    rw [strict_eq]
    cases ran.result <;> simp [Except.map]
  · intro failing
    cases answer : ran.result with
    | ok _ => exact absurd (runs.result_eq_ok_iff.mp answer) failing
    | error e =>
        obtain ⟨detail, rfl⟩ := runs.failure answer
        exact ⟨detail, by rw [strict_eq, answer]; rfl⟩

/-- A script that stands beside the corpus and ends with status 3 fails in strict mode only. -/
example :
    let s : Script := { path := ⟨"./run.sh"⟩, format := .bin, mode := .legacy }
    let fs := (FileSystem.bare []).put ["run.sh"] (.file "exit 3".toUTF8)
    let programs : Programs := fun _ _ fs => .ok ⟨fs, [], [], .exit 3⟩
    (s.compile programs ⟨"./sentences.txt"⟩ fs).result.isOk = true ∧
      ({ s with mode := .strict }.compile programs ⟨"./sentences.txt"⟩ fs).result.isOk = false := by
  decide +kernel

end Script
end SpeechConfig
