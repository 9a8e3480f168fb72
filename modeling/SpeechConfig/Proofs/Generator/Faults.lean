/-
# `SpeechConfig.Proofs.Generator.Faults` — why a run fails

## What is proved, with every binder written out

For every generator `g`, request, directory and file system:

    (g.generate r dir fs).result = .error e → g.Refuses r dir fs e

and `Refuses` has four reasons: the request is invalid, and `e` is what validation says of it; the
name of the grammar is not plain; something went wrong with files; the compiler was called, and
`e` is its answer.  A validation speaks of missing words, of blank entries and of the empty
vocabulary (`Request.failure_of_validate`), and the compilers that are provided speak of nothing
but compilation (`Compiler.Provided.failure`).

So a failure that is none of these is a compiler's of one's own.
-/
import SpeechConfig.Proofs.Compiler.Modes
import SpeechConfig.Proofs.Generator.Timing

namespace SpeechConfig

/-! ## What validation and compilers say -/

theorem Request.failure_of_validate {r : Request} {e : Failure} (h : r.validate = .error e) :
    (∃ token origin, e = .missingWord token origin) ∨ (∃ origin, e = .blankEntry origin) ∨
      e = .emptyVocabulary := by
  have entry : ∀ {o : Origin}, r.words.Offends o e →
      (∃ token origin, e = .missingWord token origin) ∨ (∃ origin, e = .blankEntry origin) ∨
        e = .emptyVocabulary := by
    intro o offends
    cases offends with
    | blank => exact .inr (.inl ⟨_, rfl⟩)
    | missing => exact .inl ⟨_, _, rfl⟩
  obtain ⟨position, fails, -⟩ := Request.firstOffence_of_validate h
  cases fails with
  | rule _ offends => exact entry offends
  | vocabulary => exact .inr (.inr rfl)
  | sentence _ offends => exact entry offends

/-- The compilers there are: the stub, and a script of a language pack. -/
inductive Compiler.Provided : Compiler → Prop
  | stub (format : ModelFormat) : Provided (.stub format)
  | script (s : Script) (programs : Programs) : Provided (s.toCompiler programs)

theorem Compiler.Provided.failure {c : Compiler} {corpus : Path} {fs : FileSystem} {e : Failure}
    (provided : c.Provided) (h : (c.compile corpus fs).result = .error e) :
    ∃ script detail, e = .compile script detail := by
  cases provided with
  | stub format => cases h
  | script s programs =>
      rcases s.compile_cases programs corpus fs with ok | ⟨-, detail, error⟩
      · cases ok.symm.trans h
      · exact ⟨s.path, detail, Except.error.inj (h.symm.trans error)⟩

/-! ## Emission -/

namespace EmitPlan

variable {plan : EmitPlan} {r : Request} {e : Failure} {fs : FileSystem}

theorem guard_of_upfront (timing : plan.timing = .upfront) {step : Step}
    (h : step ∈ plan.steps r) : step.guard = .ok () := by
  simp only [steps, List.mem_cons, List.not_mem_nil, or_false] at h
  rcases h with rfl | rfl | rfl
  · rfl
  · rw [grammarStep, between, timing]
  · rw [corpusStep, between, timing]

/-- Emission fails over the name, on files, or at a check between them. -/
theorem emit_error_cases (h : (plan.emit r fs).1 = .error e) :
    (Grammar.isPlain plan.grammarName = false ∧
        e = .settings (.grammarName plan.grammarName)) ∨
      (∃ fault, e = .io fault) ∨ r.validate = .error e := by
  rw [emit_eq] at h
  split at h
  · next other =>
      have not_plain := mt Grammar.plainName_eq_self_iff.mpr other
      exact .inl ⟨by simpa using not_plain, (Except.error.inj h).symm⟩
  · split at h
    · exact .inr (.inl ⟨_, (Except.error.inj h).symm⟩)
    · next made _ =>
        obtain ⟨done, rest, split, writes, stops⟩ := writeAll_cases plan.dir (plan.steps r) made
        generalize (writeAll plan.dir (plan.steps r) made).1 = result at h stops
        cases stops with
        | done => cases h
        | failed => exact .inr (.inl ⟨_, (Except.error.inj h).symm⟩)
        | @refused step _ _ refused =>
            obtain rfl := Except.error.inj h
            cases timing : plan.timing with
            | upfront =>
                have among : step ∈ plan.steps r := by simp [split]
                cases (guard_of_upfront timing among).symm.trans refused
            | interleaved => exact .inr (.inr (steps_refused timing split writes refused).1)

end EmitPlan

/-! ## Runs -/

namespace Generator

variable {g : Generator} {r : Request} {dir : Path} {fs : FileSystem} {e : Failure}

/-- The reasons for which a run fails, and what is reported then. -/
inductive Refuses (g : Generator) (r : Request) (dir : Path) (fs : FileSystem) : Failure → Prop
  | invalid {e : Failure} : r.validate = .error e → Refuses g r dir fs e
  | name : Grammar.isPlain g.settings.grammarName = false →
      Refuses g r dir fs (.settings (.grammarName g.settings.grammarName))
  | files (fault : FileSystem.Fault) : Refuses g r dir fs (.io fault)
  | compiler {call : Call} {e : Failure} : (g.generate r dir fs).calls = [call] →
      (g.compiler.compile call.corpus call.files).result = .error e → Refuses g r dir fs e

theorem refuses_of_generate (h : (g.generate r dir fs).result = .error e) :
    g.Refuses r dir fs e := by
  cases first : g.checkFirst r with
  | error f =>
      rw [generate, first] at h
      obtain rfl := Except.error.inj h
      unfold checkFirst at first
      split at first
      · exact .invalid first
      · cases first
  | ok _ =>
      rcases emitted : (g.plan dir).emit r fs with ⟨f | artifacts, files⟩
      · rw [generate_of_emit_error first emitted] at h
        obtain rfl := Except.error.inj h
        rcases EmitPlan.emit_error_cases (congrArg Prod.fst emitted) with
          ⟨not_plain, rfl⟩ | ⟨fault, rfl⟩ | invalid
        · exact .name not_plain
        · exact .files fault
        · exact .invalid invalid
      · have ran := generate_of_emit_ok first emitted
        rw [ran, finish] at h
        refine .compiler (by rw [ran, finish]) ?_
        dsimp only at h ⊢
        cases answer : (g.compiler.compile artifacts.corpus.path files).result with
        | ok model =>
            rw [answer] at h
            cases h
        | error f =>
            rw [answer] at h
            exact congrArg Except.error (Except.error.inj h)

end Generator
end SpeechConfig
