/-
# `SpeechConfig.Proofs.CommandLine.DryRun` — a dry run says what the real run will say

## What is proved, with every binder written out

For all arguments that ask for a request to be configured, all programs, variables and files, let
`real` be the run and `dry` the same with the compiler switched off.  Then

* if `real` exits with 0, `dry` exits with 0 and prints the same;
* if `real` fails, but not at compilation, `dry` fails with the same fault;
* if `real` fails at compilation, its settings are strict, and `dry` exits with 0;
* `dry` does not depend on the programs at all, and it leaves the files that `real` handed to its
  compiler, before the script was staged or started.  If `real` did not come to call its
  compiler, both leave the same files.

## Two ways to one generator

The real run makes its settings normal, and then takes script and format from them; the dry run
takes the format first.  Up to the compiler the settings alone decide (`generate_calls`), and
making them normal touches neither format nor mode (`format_scriptOf`, `mode_scriptOf`), so that
both compilers name the same model (`Foretold`).
-/
import SpeechConfig.CommandLine.Run
import SpeechConfig.Proofs.Generator.Faults
import SpeechConfig.Proofs.Generator.OneCall

namespace SpeechConfig

def Failure.isCompilation : Failure → Bool
  | .compile _ _ => true
  | .missingWord _ _ | .blankEntry _ | .duplicateWord _ | .emptyVocabulary | .settings _
  | .io _ => false

/-! ## What comes before the compiler -/

theorem Request.isCompilation_of_validate {r : Request} {e : Failure}
    (h : r.validate = .error e) : e.isCompilation = false := by
  rcases failure_of_validate h with ⟨_, _, rfl⟩ | ⟨_, rfl⟩ | rfl
  · rfl
  · rfl
  · rfl

theorem EmitPlan.isCompilation_of_emit {plan : EmitPlan} {r : Request} {e : Failure}
    {fs : FileSystem} (h : (plan.emit r fs).1 = .error e) : e.isCompilation = false := by
  rcases emit_error_cases h with ⟨-, rfl⟩ | ⟨_, rfl⟩ | invalid
  · rfl
  · rfl
  · exact Request.isCompilation_of_validate invalid

namespace Generator

variable {g : Generator} {s : Settings} {programs : Programs} {r : Request} {dir : Path}
  {fs : FileSystem} {e : Failure}

theorem isCompilation_of_prepare (h : (g.prepare r dir fs).1 = .error e) :
    e.isCompilation = false := by
  unfold prepare at h
  split at h
  · next invalid =>
      obtain rfl := Except.error.inj h
      unfold checkFirst at invalid
      split at invalid
      · exact Request.isCompilation_of_validate invalid
      · cases invalid
  · exact EmitPlan.isCompilation_of_emit h

/-- How a run with the script goes, and how it goes with the stub: to the same failure before the
compiler, or to a call of the compiler on the same files, where only the script can fail. -/
inductive Foretold (s : Settings) (r : Request) (dir : Path) (fs : FileSystem) :
    Outcome Bundle → Outcome Bundle → Prop
  | unprepared {e : Failure} {files : FileSystem} : e.isCompilation = false →
      Foretold s r dir fs ⟨.error e, files, [], [], []⟩ ⟨.error e, files, [], [], []⟩
  | compiled {b : Bundle} {call : Call} {files : FileSystem} {log : List LogLine} :
      Wrote s r dir fs call.files →
      Foretold s r dir fs ⟨.ok b, files, log, [call], []⟩
        ⟨.ok b, call.files, [], [call], [call.corpus]⟩
  | uncompiled {e : Failure} {b : Bundle} {call : Call} {files : FileSystem}
      {log : List LogLine} :
      Wrote s r dir fs call.files → e.isCompilation = true → s.compileMode = .strict →
      Foretold s r dir fs ⟨.error e, files, log, [call], []⟩
        ⟨.ok b, call.files, [], [call], [call.corpus]⟩

theorem format_scriptOf (s : Settings) :
    (scriptOf s.normalize).format = s.policies.modelFormat := by
  simp only [scriptOf, Settings.normalize, Settings.policies]

theorem mode_scriptOf (s : Settings) : (scriptOf s.normalize).mode = s.compileMode := by
  simp only [scriptOf, Settings.normalize]

theorem isCompilation_of_uncalled {files : FileSystem}
    (ran : ∀ c, (new s c).generate r dir fs = ⟨.error e, files, [], [], []⟩) :
    e.isCompilation = false := by
  -- the stub answers every call, so with it the failure is one of the preparation
  let stub : Compiler := .stub s.policies.modelFormat
  have failed := ran stub
  rw [generate_eq_prepare] at failed
  rcases prepared : (new s stub).prepare r dir fs with ⟨e' | artifacts, files'⟩
  · rw [prepared] at failed
    obtain rfl := Except.error.inj (congrArg Outcome.result failed)
    exact isCompilation_of_prepare (congrArg Prod.fst prepared)
  · rw [prepared] at failed
    cases congrArg Outcome.result failed

theorem configure_foretold (s : Settings) (programs : Programs) (r : Request) (dir : Path)
    (fs : FileSystem) :
    Foretold s r dir fs ((withScript s programs).configure r dir fs)
      ((new s (.stub s.policies.modelFormat)).configure r dir fs) := by
  rw [withScript, configure, configure]
  let script := scriptOf s.normalize
  rcases generate_calls s r dir fs with ⟨e, files, ran⟩ | ⟨files, wrote, once⟩
  · simp only at ran
    rw [ran, ran]
    exact .unprepared (isCompilation_of_uncalled ran)
  · obtain ⟨answer, ran⟩ := once.map Generation.bundle
    simp only at ran
    rw [ran (.stub s.policies.modelFormat), ran (script.toCompiler programs)]
    rcases script.compile_cases programs (dir.join "sentences.txt") files with
      ok | ⟨strict, detail, error⟩
    · rw [format_scriptOf] at ok
      simp only [Script.toCompiler, ok, script.record_compile]
      exact .compiled wrote
    · rw [mode_scriptOf] at strict
      simp only [Script.toCompiler, error, script.record_compile]
      exact .uncompiled wrote rfl strict

end Generator

namespace CommandLine

open Generator

def RunFault.isCompilation : RunFault → Bool
  | .configuration failure => failure.isCompilation
  | .settings _ _ | .requestFile _ _ | .requestDocument _ _ => false

/-- The outcome of a run for which settings and request can be read. -/
def Arguments.outcome (a : Arguments) (request : Path) (programs : Programs)
    (env : Environment) (fs : FileSystem) : Except RunFault (Outcome Bundle) :=
  match a.resolve env fs with
  | .error e => .error e
  | .ok s =>
    match loadRequest fs request with
    | .error e => .error e
    | .ok r => .ok ((a.generator programs s).configureDefault r fs)

def Arguments.calls (a : Arguments) (request : Path) (programs : Programs)
    (env : Environment) (fs : FileSystem) : List Call :=
  match a.outcome request programs env fs with
  | .error _ => []
  | .ok o => o.calls

variable {a : Arguments} {request : Path} {programs : Programs} {env : Environment}
  {fs : FileSystem} {e : RunFault}

theorem outcome_of_unresolved (request : Path) (programs : Programs)
    (unresolved : a.resolve env fs = .error e) :
    a.outcome request programs env fs = .error e := by
  rw [Arguments.outcome, unresolved]

theorem outcome_of_unread {s : Settings} (programs : Programs)
    (resolved : a.resolve env fs = .ok s) (unread : loadRequest fs request = .error e) :
    a.outcome request programs env fs = .error e := by
  rw [Arguments.outcome, resolved]
  simp only [unread]

theorem outcome_of_read {s : Settings} {r : Request} (programs : Programs)
    (resolved : a.resolve env fs = .ok s) (read : loadRequest fs request = .ok r) :
    a.outcome request programs env fs = .ok ((a.generator programs s).configureDefault r fs) := by
  rw [Arguments.outcome, resolved]
  simp only [read]

theorem configure_eq_outcome (a : Arguments) (request : Path) (programs : Programs)
    (env : Environment) (fs : FileSystem) :
    a.configure request programs env fs = match a.outcome request programs env fs with
      | .error e => (.error e, fs)
      | .ok o => (o.result.mapError .configuration, o.files) := by
  unfold Arguments.configure Arguments.outcome
  cases a.resolve env fs with
  | error e => rfl
  | ok s =>
      simp only
      cases loadRequest fs request with
      | error e => rfl
      | ok r =>
          simp only
          cases ((a.generator programs s).configureDefault r fs).result <;> rfl

theorem isCompilation_of_resolve (h : a.resolve env fs = .error e) : e.isCompilation = false := by
  unfold Arguments.resolve at h
  simp only at h
  split at h
  · exact Except.error.inj h ▸ rfl
  · cases h

theorem isCompilation_of_loadRequest (h : loadRequest fs request = .error e) :
    e.isCompilation = false := by
  unfold loadRequest at h
  split at h
  · exact Except.error.inj h ▸ rfl
  · split at h
    · exact Except.error.inj h ▸ rfl
    · cases h

/-! ## The two runs -/

/-- The run of a request. -/
def Arguments.real (a : Arguments) (request : Path) : Arguments :=
  { a with command := .generate request, dryRun := false }

/-- The same without a compiler. -/
def Arguments.dry (a : Arguments) (request : Path) : Arguments :=
  { a with command := .generate request, dryRun := true }

theorem outcomes (a : Arguments) (request : Path) (programs : Programs) (env : Environment)
    (fs : FileSystem) :
    let real := a.real request
    let dry := a.dry request
    (∃ e, e.isCompilation = false ∧ real.outcome request programs env fs = .error e ∧
      dry.outcome request programs env fs = .error e) ∨
    ∃ s r o o', real.resolve env fs = .ok s ∧ loadRequest fs request = .ok r ∧
      real.outcome request programs env fs = .ok o ∧
      dry.outcome request programs env fs = .ok o' ∧
      Foretold s r s.normalize.workDirectory fs o o' := by
  intro real dry
  have same : dry.resolve env fs = real.resolve env fs := rfl
  cases resolved : real.resolve env fs with
  | error e =>
      exact .inl ⟨e, isCompilation_of_resolve resolved,
        outcome_of_unresolved request programs resolved,
        outcome_of_unresolved request programs (same.trans resolved)⟩
  | ok s =>
      cases read : loadRequest fs request with
      | error e =>
          exact .inl ⟨e, isCompilation_of_loadRequest read,
            outcome_of_unread programs resolved read,
            outcome_of_unread programs (same.trans resolved) read⟩
      | ok r =>
          exact .inr ⟨s, r, _, _, rfl, rfl, outcome_of_read programs resolved read,
            outcome_of_read programs (same.trans resolved) read,
            configure_foretold s programs r s.normalize.workDirectory fs⟩

/-- Both runs come to the same, at a fault before the compiler; or the real run calls its
compiler, and the dry run stands where that was called, with the bundle. -/
theorem same_or_called (a : Arguments) (request : Path) (programs : Programs) (env : Environment)
    (fs : FileSystem) :
    let real := a.real request
    let dry := a.dry request
    (∃ e, (real.configure request programs env fs).1 = .error e ∧ e.isCompilation = false ∧
      real.calls request programs env fs = [] ∧
      dry.outcome request programs env fs = real.outcome request programs env fs) ∨
    ∃ s r o call b, real.resolve env fs = .ok s ∧ loadRequest fs request = .ok r ∧
      real.outcome request programs env fs = .ok o ∧ o.calls = [call] ∧
      Wrote s r s.normalize.workDirectory fs call.files ∧
      dry.outcome request programs env fs = .ok ⟨.ok b, call.files, [], [call], [call.corpus]⟩ ∧
      (o.result = .ok b ∨
        ∃ e, o.result = .error e ∧ e.isCompilation = true ∧ s.compileMode = .strict) := by
  intro real dry
  rw [configure_eq_outcome, Arguments.calls]
  rcases outcomes a request programs env fs with
    ⟨e, early, ran, dryRan⟩ | ⟨s, r, o, o', resolved, read, ran, dryRan, foretold⟩
  · rw [ran, dryRan]
    exact .inl ⟨e, rfl, early, rfl, rfl⟩
  · rw [ran, dryRan]
    cases foretold with
    | @unprepared e _ early => exact .inl ⟨.configuration e, rfl, early, rfl, rfl⟩
    | compiled wrote =>
        exact .inr ⟨s, r, _, _, _, resolved, read, rfl, rfl, wrote, rfl, .inl rfl⟩
    | uncompiled wrote late strict =>
        exact .inr ⟨s, r, _, _, _, resolved, read, rfl, rfl, wrote, rfl,
          .inr ⟨_, rfl, late, strict⟩⟩

def exitOf (fs : FileSystem) : Except RunFault (Outcome Bundle) → Exit
  | .error e => ⟨1, "", "lexis: " ++ e.message ++ "\n", fs⟩
  | .ok o =>
    match o.result with
    | .error e => ⟨1, "", "lexis: " ++ (RunFault.configuration e).message ++ "\n", o.files⟩
    | .ok b => ⟨0, b.toJson.pretty ++ "\n", "", o.files⟩

theorem run_eq_exitOf (generates : a.command = .generate request) :
    a.run programs env fs = exitOf fs (a.outcome request programs env fs) := by
  rw [Arguments.run, generates]
  simp only [configure_eq_outcome]
  unfold exitOf
  cases a.outcome request programs env fs with
  | error e => rfl
  | ok o =>
      simp only
      cases o.result with
      | error e => rfl
      | ok b => rfl

theorem run_of_ok {o : Outcome Bundle} {b : Bundle} (generates : a.command = .generate request)
    (ran : a.outcome request programs env fs = .ok o) (succeeded : o.result = .ok b) :
    a.run programs env fs = ⟨0, b.toJson.pretty ++ "\n", "", o.files⟩ := by
  rw [run_eq_exitOf generates, ran, exitOf, succeeded]

theorem status_of_error (generates : a.command = .generate request)
    (refused : (a.configure request programs env fs).1 = .error e) :
    (a.run programs env fs).status = 1 := by
  rw [Arguments.run, generates]
  rcases ran : a.configure request programs env fs with ⟨f | b, files⟩
  · simp only [ran]
  · rw [ran] at refused
    cases refused

theorem configure_result {o : Outcome Bundle} (ran : a.outcome request programs env fs = .ok o) :
    (a.configure request programs env fs).1 = o.result.mapError .configuration := by
  rw [configure_eq_outcome, ran]

theorem generator_dry (programs : Programs) (s : Settings) :
    (a.dry request).generator programs s = .new s (.stub s.policies.modelFormat) := by
  rw [Arguments.generator, Arguments.dry, if_pos rfl]

theorem run_dry (programs programs' : Programs) :
    (a.dry request).run programs env fs = (a.dry request).run programs' env fs := by
  have same : (a.dry request).outcome request programs env fs =
      (a.dry request).outcome request programs' env fs := by
    simp only [Arguments.outcome, generator_dry]
  rw [run_eq_exitOf rfl, run_eq_exitOf rfl, same]

theorem run_dry_of_same
    (same : (a.dry request).outcome request programs env fs =
      (a.real request).outcome request programs env fs) :
    (a.dry request).run programs env fs = (a.real request).run programs env fs := by
  rw [run_eq_exitOf rfl, run_eq_exitOf rfl, same]

theorem dry_of_success (succeeds : ((a.real request).run programs env fs).status = 0) :
    ((a.dry request).run programs env fs).status = 0 ∧
      ((a.dry request).run programs env fs).stdout =
        ((a.real request).run programs env fs).stdout := by
  rcases same_or_called a request programs env fs with
    ⟨e, refused, -⟩ | ⟨s, r, o, call, b, -, -, ran, -, -, dryRan, succeeded | ⟨e, failed, -⟩⟩
  · cases succeeds.symm.trans (status_of_error rfl refused)
  · rw [run_of_ok rfl dryRan rfl, run_of_ok rfl ran succeeded]
    exact ⟨rfl, rfl⟩
  · have refused := configure_result ran
    rw [failed] at refused
    cases succeeds.symm.trans (status_of_error rfl refused)

theorem dry_of_fault (refused : ((a.real request).configure request programs env fs).1 = .error e)
    (early : e.isCompilation = false) :
    ((a.dry request).configure request programs env fs).1 = .error e ∧
      ((a.real request).run programs env fs).status = 1 ∧
      (a.dry request).run programs env fs = (a.real request).run programs env fs := by
  rcases same_or_called a request programs env fs with
    ⟨-, -, -, -, same⟩ | ⟨s, r, o, call, b, -, -, ran, -, -, -, result⟩
  · refine ⟨?_, status_of_error rfl refused, run_dry_of_same same⟩
    rw [configure_eq_outcome, same, ← configure_eq_outcome]
    exact refused
  · rw [configure_result ran] at refused
    rcases result with succeeded | ⟨f, failed, late, -⟩
    · rw [succeeded] at refused
      cases refused
    · rw [failed] at refused
      obtain rfl := Except.error.inj refused
      exact absurd (early.symm.trans late) Bool.false_ne_true

theorem dry_of_compilation
    (refused : ((a.real request).configure request programs env fs).1 = .error e)
    (late : e.isCompilation = true) :
    ((a.dry request).run programs env fs).status = 0 ∧
      ∃ s, (a.real request).resolve env fs = .ok s ∧ s.compileMode = .strict := by
  rcases same_or_called a request programs env fs with
    ⟨f, refused', early, -⟩ | ⟨s, r, o, call, b, resolved, -, ran, -, -, dryRan, result⟩
  · obtain rfl := Except.error.inj (refused.symm.trans refused')
    exact absurd (early.symm.trans late) Bool.false_ne_true
  · rw [run_of_ok rfl dryRan rfl]
    rw [configure_result ran] at refused
    rcases result with succeeded | ⟨f, failed, -, strict⟩
    · rw [succeeded] at refused
      cases refused
    · exact ⟨rfl, s, resolved, strict⟩

/-- The files of a dry run are those that the real run hands to its compiler. -/
theorem files_of_dry :
    (a.real request).calls request programs env fs = [] ∧
        ((a.dry request).run programs env fs).files =
          ((a.real request).run programs env fs).files ∨
      ∃ call s r, (a.real request).calls request programs env fs = [call] ∧
        ((a.dry request).run programs env fs).files = call.files ∧
        (a.real request).resolve env fs = .ok s ∧ loadRequest fs request = .ok r ∧
        Wrote s r s.normalize.workDirectory fs call.files := by
  rcases same_or_called a request programs env fs with
    ⟨-, -, -, uncalled, same⟩ |
    ⟨s, r, o, call, b, resolved, read, ran, called, wrote, dryRan, -⟩
  · exact .inl ⟨uncalled, by rw [run_dry_of_same same]⟩
  · refine .inr ⟨call, s, r, ?_, by rw [run_of_ok rfl dryRan rfl], resolved, read, wrote⟩
    rw [Arguments.calls, ran, ← called]

/-- A dry run says what the real run will say, up to the compiler: the same success with the same
bundle, or the same fault.  A fault of compilation, which only strict settings have, it does not
see.  It starts nothing, and leaves the files as the compiler of the real run finds them. -/
theorem dry_run_foretells (a : Arguments) (request : Path) (programs : Programs)
    (env : Environment) (fs : FileSystem) :
    let real := a.real request
    let dry := a.dry request
    let exit := real.run programs env fs
    let dryExit := dry.run programs env fs
    (exit.status = 0 → dryExit.status = 0 ∧ dryExit.stdout = exit.stdout) ∧
      (∀ e, (real.configure request programs env fs).1 = .error e → e.isCompilation = false →
        (dry.configure request programs env fs).1 = .error e ∧ exit.status = 1 ∧
          dryExit = exit) ∧
      (∀ e, (real.configure request programs env fs).1 = .error e → e.isCompilation = true →
        dryExit.status = 0 ∧ ∃ s, real.resolve env fs = .ok s ∧ s.compileMode = .strict) ∧
      (∀ programs', dry.run programs' env fs = dryExit) ∧
      (real.calls request programs env fs = [] ∧ dryExit.files = exit.files ∨
        ∃ call s r, real.calls request programs env fs = [call] ∧ dryExit.files = call.files ∧
          real.resolve env fs = .ok s ∧ loadRequest fs request = .ok r ∧
          Wrote s r s.normalize.workDirectory fs call.files) :=
  ⟨dry_of_success, fun _ => dry_of_fault, fun _ => dry_of_compilation,
    fun programs' => run_dry programs' programs, files_of_dry⟩

/-- In strict mode with no script to copy, the two runs part at the compiler. -/
example :
    let a : Arguments := ⟨.printDefaultSettings, none, some ⟨"out"⟩, false, true, false, false⟩
    let r : Request := ⟨assent, [], ["yes"]⟩
    let fs := (FileSystem.bare []).put ["r"] (.file r.toJson.compact.toUTF8)
    let programs : Programs := fun _ _ fs => .ok ⟨fs, [], [], .exit 0⟩
    ((a.real ⟨"r"⟩).run programs (fun _ => none) fs).status = 1 ∧
      ((a.dry ⟨"r"⟩).run programs (fun _ => none) fs).status = 0 := by
  decide +kernel

end CommandLine
end SpeechConfig
