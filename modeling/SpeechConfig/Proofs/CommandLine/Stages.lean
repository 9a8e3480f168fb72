/-
# `SpeechConfig.Proofs.CommandLine.Stages` — how a run of the command ends

## What is proved, with every binder written out

For every list of arguments, all programs, variables and files, let `exit` be the run.  Then

* `exit.status` is 2 exactly if the arguments are not understood, and 0 or 1 elsewhere;
* if it is not 0, nothing is printed to the standard output;
* the files are as they were after a call for help, after arguments that are not understood, and
  after printing the defaults;
* if a request is to be configured, the run exits with 0 exactly if no stage fails, and then it
  has printed the bundle and a line feed; elsewhere it reports what fails first;
* and if a stage before the pipeline fails, or the request is invalid and checked first, the files
  are as they were.

What is said of `exit.stderr` is said of the reports of the command alone, without the log and
without places in documents (`Exit`).

## Stages

`FailsAt` says of each stage on its own what can fail there: the settings and the request's file
can both be out of order.  `FirstFault` orders the stages and picks the failure before which there
is none; it is the only one (`FirstFault.unique`), so the run need only be shown to report one.
-/
import SpeechConfig.Proofs.CommandLine.DryRun

namespace SpeechConfig.CommandLine

/-- The stages of a run, in the order in which they are tried. -/
inductive Stage where
  | settings
  | requestFile
  | requestDocument
  | pipeline
deriving DecidableEq, Repr

def Stage.number : Stage → Nat
  | .settings => 1
  | .requestFile => 2
  | .requestDocument => 3
  | .pipeline => 4

theorem Stage.number_injective {stage stage' : Stage} (h : stage.number = stage'.number) :
    stage = stage' := by
  cases stage <;> cases stage' <;> first | rfl | cases h

namespace Arguments

/-- `a.FailsAt request programs env fs stage e`: at this stage something fails, namely `e`. -/
inductive FailsAt (a : Arguments) (request : Path) (programs : Programs) (env : Environment)
    (fs : FileSystem) : Stage → RunFault → Prop
  | settings {failure : Failure} :
      Settings.load fs (a.settings.getD (Settings.defaultPath env)) = .error failure →
      FailsAt a request programs env fs .settings
        (.settings (a.settings.getD (Settings.defaultPath env)) failure)
  | requestFile {fault : FileSystem.Fault} : fs.readText request = .error fault →
      FailsAt a request programs env fs .requestFile (.requestFile request fault)
  | requestDocument {text : String} {fault : Json.Fault} : fs.readText request = .ok text →
      Request.ofText text = .error fault →
      FailsAt a request programs env fs .requestDocument (.requestDocument request fault)
  | pipeline {s : Settings} {r : Request} {failure : Failure} : a.resolve env fs = .ok s →
      loadRequest fs request = .ok r →
      ((a.generator programs s).configureDefault r fs).result = .error failure →
      FailsAt a request programs env fs .pipeline (.configuration failure)

/-- `e` is what fails at a stage before which none fails. -/
def FirstFault (a : Arguments) (request : Path) (programs : Programs) (env : Environment)
    (fs : FileSystem) (e : RunFault) : Prop :=
  ∃ stage, a.FailsAt request programs env fs stage e ∧
    ∀ earlier f, a.FailsAt request programs env fs earlier f → stage.number ≤ earlier.number

variable {a : Arguments} {request : Path} {programs : Programs} {env : Environment}
  {fs : FileSystem} {e f : RunFault} {stage : Stage} {s : Settings} {r : Request}

/-! ## One stage -/

theorem resolve_eq_error_iff :
    a.resolve env fs = .error e ↔ a.FailsAt request programs env fs .settings e := by
  unfold resolve
  dsimp only
  constructor
  · intro h
    split at h
    · next failure unloaded => exact Except.error.inj h ▸ .settings unloaded
    · cases h
  · intro h
    cases h with
    | settings unloaded => rw [unloaded]

theorem loadRequest_eq_error_iff :
    loadRequest fs request = .error e ↔
      a.FailsAt request programs env fs .requestFile e ∨
        a.FailsAt request programs env fs .requestDocument e := by
  unfold loadRequest
  constructor
  · intro h
    split at h
    · next fault unread => exact .inl (Except.error.inj h ▸ .requestFile unread)
    · next text found =>
        split at h
        · next fault unclear => exact .inr (Except.error.inj h ▸ .requestDocument found unclear)
        · cases h
  · intro h
    rcases h with h | h
    · cases h with
      | requestFile unread => rw [unread]
    · cases h with
      | requestDocument found unclear => simp only [found, unclear]

theorem FailsAt.unique (h : a.FailsAt request programs env fs stage e)
    (h' : a.FailsAt request programs env fs stage f) : e = f := by
  cases h with
  | settings unloaded =>
      cases h' with
      | settings unloaded' => rw [Except.error.inj (unloaded.symm.trans unloaded')]
  | requestFile unread =>
      cases h' with
      | requestFile unread' => rw [Except.error.inj (unread.symm.trans unread')]
  | requestDocument found unclear =>
      cases h' with
      | requestDocument found' unclear' =>
          obtain rfl := Except.ok.inj (found.symm.trans found')
          rw [Except.error.inj (unclear.symm.trans unclear')]
  | pipeline resolved read failed =>
      cases h' with
      | pipeline resolved' read' failed' =>
          obtain rfl := Except.ok.inj (resolved.symm.trans resolved')
          obtain rfl := Except.ok.inj (read.symm.trans read')
          rw [Except.error.inj (failed.symm.trans failed')]

theorem FirstFault.unique (h : a.FirstFault request programs env fs e)
    (h' : a.FirstFault request programs env fs f) : e = f := by
  obtain ⟨stage, fails, least⟩ := h
  obtain ⟨stage', fails', least'⟩ := h'
  obtain rfl : stage = stage' :=
    Stage.number_injective (Nat.le_antisymm (least stage' f fails') (least' stage e fails))
  exact fails.unique fails'

theorem not_failsAt_settings (resolved : a.resolve env fs = .ok s) :
    ¬ a.FailsAt request programs env fs .settings e := by
  intro fails
  cases resolved.symm.trans (resolve_eq_error_iff.mpr fails)

theorem not_failsAt_request (read : loadRequest fs request = .ok r) :
    ¬ a.FailsAt request programs env fs .requestFile e ∧
      ¬ a.FailsAt request programs env fs .requestDocument e := by
  constructor
  · intro fails
    cases read.symm.trans (loadRequest_eq_error_iff.mpr (.inl fails))
  · intro fails
    cases read.symm.trans (loadRequest_eq_error_iff.mpr (.inr fails))

/-! ## All stages -/

/-- A failure before the pipeline ends the run, and leaves the files as they were. -/
theorem configure_of_early (fails : a.FailsAt request programs env fs stage e)
    (early : stage ≠ .pipeline) : ∃ f, a.configure request programs env fs = (.error f, fs) := by
  rw [configure_eq_outcome]
  cases resolved : a.resolve env fs with
  | error f => exact ⟨f, by rw [outcome_of_unresolved request programs resolved]⟩
  | ok s =>
      have unread : loadRequest fs request = .error e := by
        cases stage with
        | settings => exact absurd fails (not_failsAt_settings resolved)
        | requestFile => exact loadRequest_eq_error_iff.mpr (.inl fails)
        | requestDocument => exact loadRequest_eq_error_iff.mpr (.inr fails)
        | pipeline => exact absurd rfl early
      exact ⟨e, by rw [outcome_of_unread programs resolved unread]⟩

theorem not_failsAt_of_ok {b : Bundle} (ran : (a.configure request programs env fs).1 = .ok b) :
    ¬ a.FailsAt request programs env fs stage e := by
  intro fails
  by_cases early : stage = .pipeline
  · subst early
    cases fails with
    | pipeline resolved read failed =>
        rw [configure_result (outcome_of_read programs resolved read), failed] at ran
        cases ran
  · obtain ⟨f, refused⟩ := configure_of_early fails early
    rw [refused] at ran
    cases ran

theorem firstFault_of_configure (h : (a.configure request programs env fs).1 = .error e) :
    a.FirstFault request programs env fs e := by
  rw [configure_eq_outcome] at h
  cases resolved : a.resolve env fs with
  | error f =>
      rw [outcome_of_unresolved request programs resolved] at h
      obtain rfl := Except.error.inj h
      refine ⟨.settings, resolve_eq_error_iff.mp resolved, fun earlier _ _ => ?_⟩
      cases earlier <;> decide
  | ok s =>
      have settings : ∀ g, ¬ a.FailsAt request programs env fs .settings g :=
        fun g => not_failsAt_settings resolved
      cases read : loadRequest fs request with
      | error f =>
          rw [outcome_of_unread programs resolved read] at h
          obtain rfl := Except.error.inj h
          rcases loadRequest_eq_error_iff.mp read with unread | unclear
          · refine ⟨.requestFile, unread, fun earlier g fails => ?_⟩
            cases earlier with
            | settings => exact absurd fails (settings g)
            | requestFile | requestDocument | pipeline => decide
          · refine ⟨.requestDocument, unclear, fun earlier g fails => ?_⟩
            cases earlier with
            | settings => exact absurd fails (settings g)
            | requestFile =>
                cases unclear with
                | requestDocument found _ =>
                    cases fails with
                    | requestFile unread => cases found.symm.trans unread
            | requestDocument | pipeline => decide
      | ok r =>
          rw [outcome_of_read programs resolved read] at h
          dsimp only at h
          cases failed : ((a.generator programs s).configureDefault r fs).result with
          | ok b =>
              rw [failed] at h
              cases h
          | error failure =>
              rw [failed] at h
              obtain rfl := Except.error.inj h
              refine ⟨.pipeline, .pipeline resolved read failed, fun earlier g fails => ?_⟩
              cases earlier with
              | settings => exact absurd fails (settings g)
              | requestFile => exact absurd fails (not_failsAt_request read).1
              | requestDocument => exact absurd fails (not_failsAt_request read).2
              | pipeline => decide

theorem configure_eq_error_iff :
    (a.configure request programs env fs).1 = .error e ↔
      a.FirstFault request programs env fs e := by
  refine ⟨firstFault_of_configure, fun first => ?_⟩
  cases ran : (a.configure request programs env fs).1 with
  | ok b =>
      obtain ⟨stage, fails, -⟩ := first
      exact absurd fails (not_failsAt_of_ok ran)
  | error f => rw [first.unique (firstFault_of_configure ran)]

theorem validationTiming_generator (a : Arguments) (programs : Programs) (s : Settings) :
    (a.generator programs s).settings.validationTiming = s.validationTiming := by
  unfold generator
  split
  · simp only [Generator.new, Settings.normalize]
  · simp only [Generator.withScript, Generator.new, Settings.normalize]

theorem configure_of_invalid {failure : Failure} (programs : Programs)
    (resolved : a.resolve env fs = .ok s)
    (read : loadRequest fs request = .ok r) (timing : s.validationTiming = .upfront)
    (invalid : r.validate = .error failure) :
    a.configure request programs env fs = (.error (.configuration failure), fs) := by
  have first := (a.validationTiming_generator programs s).trans timing
  rw [configure_eq_outcome, outcome_of_read programs resolved read, Generator.configureDefault,
    Generator.configure, Generator.generate_upfront first invalid]
  rfl

/-! ## Runs -/

/-- How a run ends that is to configure a request: with the bundle printed if nothing fails, and
with what fails first reported elsewhere; and where it leaves no trace. -/
structure Ends (a : Arguments) (request : Path) (programs : Programs) (env : Environment)
    (fs : FileSystem) (exit : Exit) : Prop where
  success : exit.status = 0 ↔ ∀ stage f, ¬ a.FailsAt request programs env fs stage f
  printed : exit.status = 0 → ∃ s r b, a.resolve env fs = .ok s ∧ loadRequest fs request = .ok r ∧
    ((a.generator programs s).configureDefault r fs).result = .ok b ∧
    exit.stdout = b.toJson.pretty ++ "\n"
  first : exit.status ≠ 0 → ∃ f, a.FirstFault request programs env fs f
  reported : ∀ f, a.FirstFault request programs env fs f → exit.status = 1 ∧ exit.stdout = "" ∧
    exit.stderr = "lexis: " ++ f.message ++ "\n"
  early : ∀ stage f, a.FailsAt request programs env fs stage f → stage ≠ .pipeline →
    exit.files = fs
  upfront : ∀ s r failure, a.resolve env fs = .ok s → loadRequest fs request = .ok r →
    s.validationTiming = .upfront → r.validate = .error failure →
    a.FirstFault request programs env fs (.configuration failure) ∧ exit.files = fs

theorem bundle_of_configure {b : Bundle} (ran : (a.configure request programs env fs).1 = .ok b) :
    ∃ s r, a.resolve env fs = .ok s ∧ loadRequest fs request = .ok r ∧
      ((a.generator programs s).configureDefault r fs).result = .ok b := by
  rw [configure_eq_outcome] at ran
  cases resolved : a.resolve env fs with
  | error e =>
      rw [outcome_of_unresolved request programs resolved] at ran
      cases ran
  | ok s =>
      cases read : loadRequest fs request with
      | error e =>
          rw [outcome_of_unread programs resolved read] at ran
          cases ran
      | ok r =>
          refine ⟨s, r, rfl, rfl, ?_⟩
          rw [outcome_of_read programs resolved read] at ran
          dsimp only at ran
          cases result : ((a.generator programs s).configureDefault r fs).result with
          | error e =>
              rw [result] at ran
              cases ran
          | ok b' =>
              rw [result] at ran
              exact congrArg Except.ok (Except.ok.inj ran)

theorem run_of_error {files : FileSystem} (generates : a.command = .generate request)
    (ran : a.configure request programs env fs = (.error e, files)) :
    a.run programs env fs = ⟨1, "", "lexis: " ++ e.message ++ "\n", files⟩ := by
  rw [run, generates]
  simp only [ran]

theorem run_of_bundle {b : Bundle} {files : FileSystem}
    (generates : a.command = .generate request)
    (ran : a.configure request programs env fs = (.ok b, files)) :
    a.run programs env fs = ⟨0, b.toJson.pretty ++ "\n", "", files⟩ := by
  rw [run, generates]
  simp only [ran]

theorem run_of_printDefaultSettings (prints : a.command = .printDefaultSettings) :
    a.run programs env fs = ⟨0, Settings.default.toJson.pretty ++ "\n", "", fs⟩ := by
  rw [run, prints]

/-- A command that was understood exits with 0 or 1, and with 1 it prints nothing. -/
theorem status_run (a : Arguments) (programs : Programs) (env : Environment) (fs : FileSystem) :
    (a.run programs env fs).status ≤ 1 ∧
      ((a.run programs env fs).status ≠ 0 → (a.run programs env fs).stdout = "") := by
  cases asked : a.command with
  | printDefaultSettings =>
      rw [run_of_printDefaultSettings asked]
      exact ⟨Nat.zero_le 1, fun failed => absurd rfl failed⟩
  | generate request =>
      rcases ran : a.configure request programs env fs with ⟨e | b, files⟩
      · rw [run_of_error asked ran]
        exact ⟨Nat.le_refl 1, fun _ => rfl⟩
      · rw [run_of_bundle asked ran]
        exact ⟨Nat.zero_le 1, fun failed => absurd rfl failed⟩

theorem ends_run (generates : a.command = .generate request) :
    a.Ends request programs env fs (a.run programs env fs) := by
  rcases ran : a.configure request programs env fs with ⟨e | b, files⟩
  · have first : a.FirstFault request programs env fs e :=
      firstFault_of_configure (congrArg Prod.fst ran)
    rw [run_of_error generates ran]
    refine ⟨?_, nofun, fun _ => ⟨e, first⟩, ?_, ?_, ?_⟩
    · refine iff_of_false Nat.one_ne_zero fun none => ?_
      obtain ⟨stage, fails, -⟩ := first
      exact none stage e fails
    · intro f first'
      rw [first.unique first']
      exact ⟨rfl, rfl, rfl⟩
    · intro stage f fails early
      obtain ⟨_, refused⟩ := configure_of_early fails early
      exact (Prod.mk.inj (ran.symm.trans refused)).2
    · intro s r failure resolved read timing invalid
      have refused := configure_of_invalid programs resolved read timing invalid
      obtain ⟨same, left⟩ := Prod.mk.inj (ran.symm.trans refused)
      exact ⟨Except.error.inj same ▸ first, left⟩
  · have none : ∀ stage f, ¬ a.FailsAt request programs env fs stage f :=
      fun _ _ => not_failsAt_of_ok (congrArg Prod.fst ran)
    obtain ⟨s, r, resolved, read, result⟩ := bundle_of_configure (congrArg Prod.fst ran)
    rw [run_of_bundle generates ran]
    refine ⟨iff_of_true rfl none, fun _ => ⟨s, r, b, resolved, read, result, rfl⟩,
      fun failed => absurd rfl failed, ?_, fun stage f fails _ => absurd fails (none stage f), ?_⟩
    · rintro f ⟨stage, fails, -⟩
      exact absurd fails (none stage f)
    · intro s r failure resolved read timing invalid
      have refused := configure_of_invalid programs resolved read timing invalid
      cases (Prod.mk.inj (ran.symm.trans refused)).1

end Arguments

/-- How every run of the command ends: what its status says, when it prints, and when the files
are as they were. -/
theorem run_ends (arguments : List String) (programs : Programs) (env : Environment)
    (fs : FileSystem) :
    let exit := run arguments programs env fs
    (exit.status = 2 ↔ ∃ f, read arguments = .fault f) ∧ exit.status ≤ 2 ∧
      (exit.status ≠ 0 → exit.stdout = "") ∧ (exit.status = 2 → exit.files = fs) ∧
      (read arguments = .help → exit.status = 0 ∧ exit.files = fs) ∧
      ∀ a, read arguments = .done a →
        (a.command = .printDefaultSettings → exit.status = 0 ∧ exit.files = fs) ∧
        ∀ request, a.command = .generate request → a.Ends request programs env fs exit := by
  intro exit
  have ran : exit = run arguments programs env fs := rfl
  clear_value exit
  unfold run at ran
  cases reading : read arguments with
  | help =>
      rw [reading] at ran
      subst ran
      simp
  | fault f =>
      rw [reading] at ran
      subst ran
      simp
  | done a =>
      rw [reading] at ran
      dsimp only at ran
      subst ran
      obtain ⟨low, quiet⟩ := a.status_run programs env fs
      have not_two : (a.run programs env fs).status ≠ 2 := by omega
      refine ⟨iff_of_false not_two (by simp), by omega, quiet, fun two => absurd two not_two,
        nofun, ?_⟩
      rintro a' same
      obtain rfl := Reading.done.inj same
      refine ⟨fun prints => ?_, fun request generates => Arguments.ends_run generates⟩
      rw [Arguments.run_of_printDefaultSettings prints]
      exact ⟨rfl, rfl⟩

/-- Where neither the settings nor the request can be read, the settings are reported. -/
example :
    let fs := ((FileSystem.bare []).put ["s"] .directory).put ["r"] .directory
    let programs : Programs := fun _ _ fs => .ok ⟨fs, [], [], .exit 0⟩
    let exit := run ["-r", "r", "--settings", "s"] programs (fun _ => none) fs
    exit.status = 1 ∧ exit.stderr = "lexis: cannot load settings s: IO error: Is a directory " ++
      "(os error 21): Is a directory (os error 21)\n" := by
  decide +kernel

end SpeechConfig.CommandLine
