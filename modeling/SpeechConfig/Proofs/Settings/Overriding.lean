/-
# `SpeechConfig.Proofs.Settings.Overriding` — variables, settings and normal settings

## What is proved, with every binder written out

For all settings `s` and all lookups `e₁` and `e₂`, with `over` for the settings after a lookup:

    s.normalize.normalize = s.normalize
    over s.normalize e₁ = (over s e₁).normalize
    over (over s e₁) e₂ = over s (combined e₁ e₂)

and for a lookup `e₂` that differs from `e₁` in one variable `x` at most, `over s e₁` and
`over s e₂` differ in the setting of `x` at most.  `combined` asks `e₂` first and `e₁` where `e₂`
has nothing that is understood; to apply a lookup twice is to apply it once.  Words are understood
up to white space around them and the case of their letters (`Text.Alike`).

## One law for four variables

Each variable has a setting of its own and reads texts as values of it.  `setting_overrides` says
what the setting is afterwards: what the variable's text is read as, and if it is not understood,
what it was.  `others_overrides` says that nothing else changes.  Settings are determined by their
four variable settings and the others (`ext_variables`), so every law is one about a single value,
except the one of the normal form: the working directory is the only setting that a variable sets
and that is normalised, and here it matters that a variable never sets it to nothing.
-/
import SpeechConfig.Proofs.CommandLine.Precedence
import SpeechConfig.Proofs.Text.Alike

namespace SpeechConfig

open CommandLine

/-! ## Variables and their settings -/

/-- The variables that override a setting. -/
inductive Settings.Variable where
  | variant
  | compileMode
  | compilerOutput
  | workDir
deriving DecidableEq, Repr

namespace Settings.Variable

def key : Variable → String
  | .variant => "LEXIS_VARIANT"
  | .compileMode => "LEXIS_COMPILE_MODE"
  | .compilerOutput => "LEXIS_COMPILER_OUTPUT"
  | .workDir => "LEXIS_WORK_DIR"

def ofKey? (key : String) : Option Variable :=
  [Variable.variant, .compileMode, .compilerOutput, .workDir].find? fun x => x.key == key

/-- What the setting of the variable is one of. -/
abbrev Value : Variable → Type
  | .variant => Variant
  | .compileMode => CompileMode
  | .compilerOutput => Bool
  | .workDir => Option Path

def setting : (x : Variable) → Settings → x.Value
  | .variant, s => s.variant
  | .compileMode, s => s.compileMode
  | .compilerOutput, s => s.allowCompilerOutput
  | .workDir, s => s.workDir

/-- What a text means for the setting, if it is understood: a word for a value, and for the working
directory a text that is not blank. -/
def read : (x : Variable) → String → Option x.Value
  | .variant, raw => Variant.ofText? raw
  | .compileMode, raw => CompileMode.ofText? raw
  | .compilerOutput, raw => flagOfText? raw
  | .workDir, raw => if Text.isBlank raw then none else some (some ⟨Text.trim raw⟩)

def value (x : Variable) (env : Environment) : Option x.Value :=
  (env x.key).bind x.read

@[simp]
theorem ofKey?_key (x : Variable) : ofKey? x.key = some x := by
  cases x <;> decide

theorem key_injective {x y : Variable} (h : x.key = y.key) : x = y := by
  have found := ofKey?_key x
  rw [h, ofKey?_key] at found
  exact (Option.some.inj found).symm

theorem read_alike {x : Variable} (word : x ≠ .workDir) {raw raw' : String}
    (alike : Text.Alike raw raw') : x.read raw = x.read raw' := by
  have same := Text.lowerAscii_trim_eq_iff.mpr alike
  cases x with
  | variant => simp only [read, Variant.ofText?, same]
  | compileMode => simp only [read, CompileMode.ofText?, same]
  | compilerOutput => simp only [read, flagOfText?, same]
  | workDir => exact absurd rfl word

theorem value_alike {x : Variable} (word : x ≠ .workDir) {e₁ e₂ : Environment}
    (alike : Option.Rel Text.Alike (e₁ x.key) (e₂ x.key)) : x.value e₁ = x.value e₂ := by
  unfold value
  revert alike
  generalize e₁ x.key = first, e₂ x.key = second
  intro alike
  cases alike with
  | none => rfl
  | some alike => exact read_alike word alike

end Settings.Variable

namespace Settings

variable {s t : Settings} {e₁ e₂ : Environment}

/-- The settings that no variable overrides; the four that one does are as they are by default. -/
def others (s : Settings) : Settings :=
  { s with
    variant := default.variant
    compileMode := default.compileMode
    allowCompilerOutput := default.allowCompilerOutput
    workDir := default.workDir }

theorem ext_variables (each : ∀ x : Variable, x.setting s = x.setting t)
    (rest : s.others = t.others) : s = t := by
  have variant := each .variant
  have mode := each .compileMode
  have output := each .compilerOutput
  have dir := each .workDir
  cases s
  cases t
  simp_all [others, Variable.setting]

/-! ## What a lookup does to settings -/

theorem variableDir_eq (env : Environment) (dir : Option Path) :
    variableDir env dir = (Variable.workDir.value env).getD dir := by
  unfold variableDir Variable.value
  rw [show Variable.workDir.key = "LEXIS_WORK_DIR" from rfl]
  cases env "LEXIS_WORK_DIR" with
  | none => rfl
  | some raw =>
      simp only [Variable.read, Option.bind_some]
      cases Text.isBlank raw with
      | true => rfl
      | false => rfl

theorem setting_overrides (s : Settings) (env : Environment) (x : Variable) :
    x.setting (s.overrides env).1 = (x.value env).getD (x.setting s) := by
  rw [overrides_fst]
  cases x with
  | variant => rfl
  | compileMode => rfl
  | compilerOutput => rfl
  | workDir => exact variableDir_eq env s.workDir

theorem others_overrides (s : Settings) (env : Environment) :
    (s.overrides env).1.others = s.others := by
  rw [overrides_fst]
  rfl

theorem override_snd {α : Type} (s t : Settings) (key : String) (read : String → Option α)
    (set : α → Settings → Settings) (env : Environment) :
    (s.override key read set env).2 = (t.override key read set env).2 := by
  unfold override
  cases env key with
  | none => rfl
  | some raw =>
      dsimp only
      cases read raw with
      | none => rfl
      | some v => rfl

theorem overrides_snd (s t : Settings) (env : Environment) :
    (s.overrides env).2 = (t.overrides env).2 := by
  unfold overrides
  dsimp only
  congr 1
  · congr 1
    · exact override_snd ..
    · exact override_snd ..
  · exact override_snd ..

theorem overrides_congr (s : Settings) (same : ∀ x : Variable, x.value e₁ = x.value e₂) :
    (s.overrides e₁).1 = (s.overrides e₂).1 := by
  refine ext_variables (fun x => ?_) ?_
  · rw [setting_overrides, setting_overrides, same]
  · rw [others_overrides, others_overrides]

/-! ## Two lookups -/

/-- Whether a text is understood as the value of the variable of this name. -/
def understood (key raw : String) : Bool :=
  (Variable.ofKey? key).any fun x => (x.read raw).isSome

/-- Two lookups as one: what the second has and is understood, and else what the first has. -/
def combined (e₁ e₂ : Environment) : Environment := fun key =>
  ((e₂ key).filter (understood key)).or (e₁ key)

theorem understood_key (x : Variable) (raw : String) :
    understood x.key raw = (x.read raw).isSome := by
  rw [understood, Variable.ofKey?_key, Option.any_some]

theorem value_combined (x : Variable) (e₁ e₂ : Environment) :
    x.value (combined e₁ e₂) = (x.value e₂).or (x.value e₁) := by
  unfold Variable.value combined
  cases second : e₂ x.key with
  | none => rfl
  | some raw =>
      cases means : x.read raw with
      | none => simp [Option.filter, understood_key, means]
      | some v => simp [Option.filter, understood_key, means]

/-- One lookup after another is the two as one. -/
theorem overrides_overrides (s : Settings) (e₁ e₂ : Environment) :
    ((s.overrides e₁).1.overrides e₂).1 = (s.overrides (combined e₁ e₂)).1 := by
  refine ext_variables (fun x => ?_) ?_
  · rw [setting_overrides, setting_overrides, setting_overrides, value_combined]
    cases x.value e₂ with
    | none => rfl
    | some v => rfl
  · rw [others_overrides, others_overrides, others_overrides]

theorem overrides_twice (s : Settings) (env : Environment) :
    (s.overrides env).1.overrides env = s.overrides env := by
  refine Prod.ext (ext_variables (fun x => ?_) ?_) (overrides_snd ..)
  · rw [setting_overrides, setting_overrides]
    cases x.value env with
    | none => rfl
    | some v => rfl
  · rw [others_overrides]

/-! ## One variable -/

/-- The settings differ in the setting of the variable at most. -/
structure AgreeOff (x : Variable) (s t : Settings) : Prop where
  setting : ∀ y ≠ x, y.setting s = y.setting t
  others : s.others = t.others

theorem agreeOff_overrides (s : Settings) {x : Variable}
    (same : ∀ key ≠ x.key, e₁ key = e₂ key) :
    AgreeOff x (s.overrides e₁).1 (s.overrides e₂).1 where
  setting y different := by
    have elsewhere : y.key ≠ x.key := fun h => different (Variable.key_injective h)
    rw [setting_overrides, setting_overrides, Variable.value, Variable.value, same _ elsewhere]
  others := by
    rw [others_overrides, others_overrides]

/-! ## Normal settings -/

/-- The working directory may be seen to before the variable or behind it: a variable never leaves
an empty one. -/
theorem variableDir_setDir (env : Environment) (dir : Option Path) :
    variableDir env (setDir dir) = setDir (variableDir env dir) := by
  by_cases exported : ∃ raw, env "LEXIS_WORK_DIR" = some raw ∧ Text.isBlank raw = false
  · obtain ⟨raw, set, visible⟩ := exported
    rw [setDir_variableDir set visible, variableDir, set]
    simp [visible]
  · have blank : ∀ raw, env "LEXIS_WORK_DIR" = some raw → Text.isBlank raw = true :=
      fun raw set => by simpa using mt (fun visible => ⟨raw, set, visible⟩) exported
    rw [variableDir_of_blank blank, variableDir_of_blank blank]

theorem overrides_normalize (s : Settings) (env : Environment) :
    s.normalize.overrides env = ((s.overrides env).1.normalize, (s.overrides env).2) := by
  have dir := variableDir_setDir env s.workDir
  unfold setDir at dir
  have commuted : (s.normalize.overrides env).1 = (s.overrides env).1.normalize := by
    simp only [overrides_fst, normalize, dir]
  rw [← commuted, ← overrides_snd s.normalize s env]

/-! ## The laws together -/

/-- Normalising and overriding: normal settings stay so, lookups combine, and a variable is about
its own setting and no other. -/
theorem overrides_laws (s : Settings) (e₁ e₂ : Environment) :
    s.normalize.normalize = s.normalize ∧
    s.normalize.overrides e₁ = ((s.overrides e₁).1.normalize, (s.overrides e₁).2) ∧
    (s.normalize = s → (s.overrides e₁).1.normalize = (s.overrides e₁).1) ∧
    ((s.overrides e₁).1.overrides e₂).1 = (s.overrides (combined e₁ e₂)).1 ∧
    (s.overrides e₁).1.overrides e₁ = s.overrides e₁ ∧
    (∀ x : Variable, (∀ key ≠ x.key, e₁ key = e₂ key) →
      AgreeOff x (s.overrides e₁).1 (s.overrides e₂).1) ∧
    ((∀ x : Variable, e₁ x.key = e₂ x.key) → (s.overrides e₁).1 = (s.overrides e₂).1) ∧
    ((∀ x ≠ Variable.workDir, Option.Rel Text.Alike (e₁ x.key) (e₂ x.key)) →
      e₁ Variable.workDir.key = e₂ Variable.workDir.key →
      (s.overrides e₁).1 = (s.overrides e₂).1) := by
  refine ⟨normalize_normalize s, overrides_normalize s e₁, fun normal => ?_,
    overrides_overrides s e₁ e₂, overrides_twice s e₁, fun x same => agreeOff_overrides s same,
    fun same => ?_, fun words dir => ?_⟩
  · have commuted := congrArg Prod.fst (overrides_normalize s e₁)
    rw [normal] at commuted
    exact commuted.symm
  · exact overrides_congr s fun x => by rw [Variable.value, Variable.value, same x]
  · refine overrides_congr s fun x => ?_
    by_cases word : x = .workDir
    · rw [word, Variable.value, Variable.value, dir]
    · exact Variable.value_alike word (words x word)

/-- A preset in two spellings, next to a working directory and a variable that is about something
else. -/
theorem overrides_laws_spelt :
    let e₁ : Environment := fun key =>
      if key = "LEXIS_VARIANT" then some " Classic\n"
      else if key = "LEXIS_WORK_DIR" then some "/var/lexis\t" else none
    let e₂ : Environment := fun key =>
      if key = "LEXIS_VARIANT" then some "CLASSIC" else e₁ key
    let e₃ : Environment := fun key => if key = "HOME" then some "/root" else e₁ key
    let s := (default.overrides e₁).1
    s.normalize = s ∧ s.variant = .classic ∧ s.workDir = some ⟨"/var/lexis"⟩ ∧
      s = (default.overrides e₂).1 ∧ s = (default.overrides e₃).1 ∧
      AgreeOff .variant s (default.overrides e₂).1 := by
  intro e₁ e₂ e₃ s
  have spelt : Text.Alike " Classic\n" "CLASSIC" :=
    Text.lowerAscii_trim_eq_iff.mp (by decide)
  have each : ∀ x ≠ Variable.workDir, Option.Rel Text.Alike (e₁ x.key) (e₂ x.key) := by
    intro x word
    cases x with
    | variant => exact .some spelt
    | compileMode => exact .none
    | compilerOutput => exact .none
    | workDir => exact absurd rfl word
  have elsewhere : ∀ key ≠ Variable.variant.key, e₁ key = e₂ key :=
    fun key other => (if_neg other).symm
  have foreign : ∀ x : Variable, e₁ x.key = e₃ x.key := fun x => by cases x <;> rfl
  obtain ⟨-, -, normal, -, -, one, -, words⟩ := overrides_laws default e₁ e₂
  obtain ⟨-, -, -, -, -, -, same, -⟩ := overrides_laws default e₁ e₃
  exact ⟨normal normalize_default, by decide, by decide, words each rfl, same foreign,
    one .variant elsewhere⟩

end Settings
end SpeechConfig
