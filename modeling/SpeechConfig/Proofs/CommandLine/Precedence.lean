/-
# `SpeechConfig.Proofs.CommandLine.Precedence` — which layer decides a setting

## What is proved, with every binder written out

For all arguments, variables and files, with `path` the settings file of the run:

    a.resolve env fs = .ok s  ↔  ∃ file, Stored fs path file ∧ Resolved a env file s

The right-hand side names the layers and nothing else.  `Stored` is what the settings file says,
or the defaults where there is none.  `Resolved` says of every setting who decides it: for the
variant its variable, if that is understood, else the file; for the compile mode and for the
compiler's output the option, else the variable, else the file; for the working directory the
option, which takes it away if it is empty, else the variable, if there is something to see in it,
else the file; for everything else the file, normalised.  What is resolved is normal, and both
kinds of generators take it as it is.

## Normalised twice

The file is normalised before the variables and options are applied, and the whole once more
behind them.  The second time changes a working directory that an option left empty, and nothing
else: everything else is normal by then (`resolved_eq`).
-/
import SpeechConfig.CommandLine.Run
import SpeechConfig.Proofs.Settings.Saved

namespace SpeechConfig

/-! ## What a variable says -/

/-- The text means the value: in lower case and without white space at its ends, it is one of the
words for it. -/
def Means {α : Type} (words : α → List String) (raw : String) (x : α) : Prop :=
  Text.lowerAscii (Text.trim raw) ∈ words x

def Variant.words : Variant → List String
  | .standard => ["standard", "default"]
  | .classic => ["classic", "legacy"]

def CompileMode.words : CompileMode → List String
  | .legacy => ["legacy", "lenient"]
  | .strict => ["strict"]

def flagWords : Bool → List String
  | true => ["1", "true", "yes", "on"]
  | false => ["0", "false", "no", "off"]

theorem find_eq_some_iff {α : Type} (words : α → List String) (x y : α) (word : String)
    (different : x ≠ y) (apart : ∀ w ∈ words x, w ∉ words y) (z : α) (all : z = x ∨ z = y) :
    (if word ∈ words x then some x else if word ∈ words y then some y else none) = some z ↔
      word ∈ words z := by
  by_cases first : word ∈ words x
  · have not_second := apart word first
    rcases all with rfl | rfl
    · simp [first]
    · simp [first, not_second, different]
  · by_cases second : word ∈ words y
    · rcases all with rfl | rfl
      · simp [first, second, different.symm]
      · simp [first, second]
    · rcases all with rfl | rfl
      · simp [first, second]
      · simp [first, second]

theorem Variant.ofText?_eq_some_iff {raw : String} {v : Variant} :
    ofText? raw = some v ↔ Means words raw v := by
  unfold ofText? Means
  generalize Text.lowerAscii (Text.trim raw) = word
  exact find_eq_some_iff words .standard .classic word (by decide) (by decide) v
    (by cases v <;> simp)

theorem CompileMode.ofText?_eq_some_iff {raw : String} {m : CompileMode} :
    ofText? raw = some m ↔ Means words raw m := by
  unfold ofText? Means
  generalize Text.lowerAscii (Text.trim raw) = word
  exact find_eq_some_iff words .legacy .strict word (by decide) (by decide) m
    (by cases m <;> simp)

theorem flagOfText?_eq_some_iff {raw : String} {flag : Bool} :
    flagOfText? raw = some flag ↔ Means flagWords raw flag := by
  unfold flagOfText? Means
  generalize Text.lowerAscii (Text.trim raw) = word
  exact find_eq_some_iff flagWords true false word (by decide) (by decide) flag
    (by cases flag <;> simp)

theorem Text.isEmpty_trim (s : String) : (trim s).isEmpty = isBlank s := by
  rw [Bool.eq_iff_iff, isBlank, List.all_eq_true]
  have empty : (trim s).isEmpty = true ↔ ∀ c ∈ s.toList.dropWhile isSpace, isSpace c = true := by
    simp [trim, List.dropWhile_eq_nil_iff]
  rw [empty]
  constructor
  · intro all
    cases left : s.toList.dropWhile isSpace with
    | nil => exact List.dropWhile_eq_nil_iff.mp left
    | cons c rest =>
        -- what is left starts with something to see
        have visible := List.head?_dropWhile_not isSpace s.toList
        have space := all c (by simp [left])
        simp [left, space] at visible
  · intro all c h
    exact all c ((List.dropWhile_suffix isSpace).subset h)

/-! ## The layers -/

/-- What is kept at a path as settings: the settings of the document there, and the defaults
where there is no file. -/
inductive Settings.Stored (fs : FileSystem) (path : Path) : Settings → Prop
  | document {text : String} {s : Settings} : fs.readText path = .ok text → ofText text = .ok s →
      Stored fs path s
  | missing : fs.readText path = .error .notFound → Stored fs path .default

theorem Settings.load_eq_ok_iff {fs : FileSystem} {path : Path} {s : Settings} :
    (∃ log, load fs path = .ok (s, log)) ↔ ∃ file, Stored fs path file ∧ s = file.normalize := by
  constructor
  · rintro ⟨log, loaded⟩
    unfold load at loaded
    split at loaded
    · next missing =>
        obtain ⟨rfl, -⟩ := Prod.mk.inj (Except.ok.inj loaded)
        exact ⟨.default, .missing missing, normalize_default.symm⟩
    · cases loaded
    · next text found =>
        split at loaded
        · cases loaded
        · next file means =>
            obtain ⟨rfl, -⟩ := Prod.mk.inj (Except.ok.inj loaded)
            exact ⟨file, .document found means, rfl⟩
  · rintro ⟨file, stored, rfl⟩
    cases stored with
    | document found means =>
        simp only [load, found, means]
        exact ⟨_, rfl⟩
    | missing missing =>
        simp only [load, missing, normalize_default]
        exact ⟨_, rfl⟩

namespace CommandLine

/-- A variable decides, if it is understood; else there is something to fall back on. -/
inductive Chooses {α : Type} (env : Environment) (key : String) (words : α → List String)
    (fallback : α) : α → Prop
  | understood {raw : String} {x : α} : env key = some raw → Means words raw x →
      Chooses env key words fallback x
  | otherwise : (∀ raw x, env key = some raw → ¬ Means words raw x) →
      Chooses env key words fallback fallback

/-- The working directory: the option decides, an empty one for none; else the variable, if there
is something to see in it; else the file, if its directory is not empty. -/
inductive ChoosesDir (option : Option Path) (env : Environment) (file : Option Path) :
    Option Path → Prop
  | option {dir : Path} : option = some dir → dir.text ≠ "" →
      ChoosesDir option env file (some dir)
  | cleared {dir : Path} : option = some dir → dir.text = "" → ChoosesDir option env file none
  | exported {raw : String} : option = none → env "LEXIS_WORK_DIR" = some raw →
      Text.isBlank raw = false → ChoosesDir option env file (some ⟨Text.trim raw⟩)
  | file {dir : Path} : option = none →
      (∀ raw, env "LEXIS_WORK_DIR" = some raw → Text.isBlank raw = true) → file = some dir →
      dir.text ≠ "" → ChoosesDir option env file (some dir)
  | unset : option = none →
      (∀ raw, env "LEXIS_WORK_DIR" = some raw → Text.isBlank raw = true) →
      (∀ dir, file = some dir → dir.text = "") → ChoosesDir option env file none

/-- Who decides every setting. -/
structure Resolved (a : Arguments) (env : Environment) (file s : Settings) : Prop where
  variant : Chooses env "LEXIS_VARIANT" Variant.words file.variant s.variant
  strict : a.strict = true → s.compileMode = .strict
  compileMode : a.strict = false →
    Chooses env "LEXIS_COMPILE_MODE" CompileMode.words file.compileMode s.compileMode
  shown : a.compilerOutput = true → s.allowCompilerOutput = true
  compilerOutput : a.compilerOutput = false →
    Chooses env "LEXIS_COMPILER_OUTPUT" flagWords file.allowCompilerOutput s.allowCompilerOutput
  workDir : ChoosesDir a.workDir env file.workDir s.workDir
  others : s = { file.normalize with
    variant := s.variant
    compileMode := s.compileMode
    allowCompilerOutput := s.allowCompilerOutput
    workDir := s.workDir }

variable {env : Environment}

theorem chooses_iff {α : Type} {key : String} {words : α → List String}
    {read : String → Option α} (reads : ∀ {raw x}, read raw = some x ↔ Means words raw x)
    {fallback x : α} :
    Chooses env key words fallback x ↔ x = ((env key).bind read).getD fallback := by
  constructor
  · intro h
    cases h with
    | understood set means => simp [set, reads.mpr means]
    | otherwise silent =>
        cases set : env key with
        | none => rfl
        | some raw =>
            cases understood : read raw with
            | none => simp [understood]
            | some x => exact absurd (reads.mp understood) (silent raw x set)
  · rintro rfl
    cases set : env key with
    | none => exact .otherwise (by simp [set])
    | some raw =>
        cases understood : read raw with
        | none =>
            simp only [Option.bind_some, understood, Option.getD_none]
            refine .otherwise fun raw' x set' means => ?_
            obtain rfl := Option.some.inj (set.symm.trans set')
            cases understood.symm.trans (reads.mpr means)
        | some x =>
            simp only [Option.bind_some, understood, Option.getD_some]
            exact .understood set (reads.mp understood)

/-- A directory that is set to something. -/
def setDir (dir : Option Path) : Option Path :=
  dir.filter fun d => !d.text.isEmpty

theorem setDir_of_text {dir : Path} (h : dir.text ≠ "") : setDir (some dir) = some dir := by
  simp [setDir, Option.filter, h]

theorem setDir_of_empty {dir : Path} (h : dir.text = "") : setDir (some dir) = none := by
  simp [setDir, Option.filter, h]

/-- The directory that a variable leaves. -/
def variableDir (env : Environment) (fallback : Option Path) : Option Path :=
  match env "LEXIS_WORK_DIR" with
  | none => fallback
  | some raw => if Text.isBlank raw then fallback else some ⟨Text.trim raw⟩

theorem variableDir_of_blank (h : ∀ raw, env "LEXIS_WORK_DIR" = some raw → Text.isBlank raw = true)
    (fallback : Option Path) : variableDir env fallback = fallback := by
  unfold variableDir
  cases set : env "LEXIS_WORK_DIR" with
  | none => rfl
  | some raw => simp [h raw set]

theorem setDir_variableDir {raw : String} (set : env "LEXIS_WORK_DIR" = some raw)
    (visible : Text.isBlank raw = false) (fallback : Option Path) :
    setDir (variableDir env fallback) = some ⟨Text.trim raw⟩ := by
  have something : Text.trim raw ≠ "" := by
    simpa [visible] using Text.isEmpty_trim raw
  rw [variableDir, set]
  simp only [visible]
  exact setDir_of_text something

theorem setDir_setDir (dir : Option Path) : setDir (setDir dir) = setDir dir := by
  simp only [setDir, Option.filter_filter, Bool.and_self]

theorem choosesDir_file {file : Option Path}
    (blank : ∀ raw, env "LEXIS_WORK_DIR" = some raw → Text.isBlank raw = true) :
    ChoosesDir none env file (setDir file) := by
  cases file with
  | none => exact .unset rfl blank nofun
  | some dir =>
      by_cases empty : dir.text = ""
      · rw [setDir_of_empty empty]
        refine .unset rfl blank fun other same => ?_
        rwa [← Option.some.inj same]
      · rw [setDir_of_text empty]
        exact .file rfl blank rfl empty

theorem choosesDir_iff {option file dir : Option Path} :
    ChoosesDir option env file dir ↔
      dir = setDir (option.or (variableDir env (setDir file))) := by
  constructor
  · intro h
    cases h with
    | option given something => rw [given, Option.some_or, setDir_of_text something]
    | cleared given empty => rw [given, Option.some_or, setDir_of_empty empty]
    | exported given set visible =>
        rw [given, Option.none_or, setDir_variableDir set visible]
    | file given blank stored something =>
        rw [given, Option.none_or, variableDir_of_blank blank, setDir_setDir, stored,
          setDir_of_text something]
    | unset given blank empty =>
        rw [given, Option.none_or, variableDir_of_blank blank, setDir_setDir]
        cases file with
        | none => rfl
        | some dir => exact (setDir_of_empty (empty dir rfl)).symm
  · rintro rfl
    cases option with
    | some dir =>
        rw [Option.some_or]
        by_cases empty : dir.text = ""
        · rw [setDir_of_empty empty]
          exact .cleared rfl empty
        · rw [setDir_of_text empty]
          exact .option rfl empty
    | none =>
        rw [Option.none_or]
        by_cases exported : ∃ raw, env "LEXIS_WORK_DIR" = some raw ∧ Text.isBlank raw = false
        · obtain ⟨raw, set, visible⟩ := exported
          rw [setDir_variableDir set visible]
          exact .exported rfl set visible
        · have blank : ∀ raw, env "LEXIS_WORK_DIR" = some raw → Text.isBlank raw = true :=
            fun raw set => by simpa using mt (fun visible => ⟨raw, set, visible⟩) exported
          rw [variableDir_of_blank blank, setDir_setDir]
          exact choosesDir_file blank

/-! ## The settings of a run -/

def Arguments.resolved (a : Arguments) (env : Environment) (file : Settings) : Settings :=
  (a.apply (file.normalize.overrides env).1).normalize

variable {a : Arguments} {file s : Settings} {fs : FileSystem}

theorem override_fst {α : Type} (s : Settings) (key : String) (read : String → Option α)
    (set : α → Settings → Settings) (env : Environment) :
    (s.override key read set env).1 = match (env key).bind read with
      | some x => set x s
      | none => s := by
  unfold Settings.override
  cases env key with
  | none => rfl
  | some raw =>
      simp only [Option.bind_some]
      cases read raw with
      | none => rfl
      | some x => rfl

theorem overrideWorkDir_eq (s : Settings) (env : Environment) :
    s.overrideWorkDir env = { s with workDir := variableDir env s.workDir } := by
  unfold Settings.overrideWorkDir variableDir
  cases env "LEXIS_WORK_DIR" with
  | none => rfl
  | some raw =>
      simp only [Text.isEmpty_trim]
      cases Text.isBlank raw with
      | true => rfl
      | false => rfl

theorem overrides_fst (s : Settings) (env : Environment) :
    (s.overrides env).1 = { s with
      variant := ((env "LEXIS_VARIANT").bind Variant.ofText?).getD s.variant
      compileMode := ((env "LEXIS_COMPILE_MODE").bind CompileMode.ofText?).getD s.compileMode
      allowCompilerOutput :=
        ((env "LEXIS_COMPILER_OUTPUT").bind flagOfText?).getD s.allowCompilerOutput
      workDir := variableDir env s.workDir } := by
  simp only [Settings.overrides, override_fst, overrideWorkDir_eq]
  cases (env "LEXIS_VARIANT").bind Variant.ofText? <;>
    cases (env "LEXIS_COMPILE_MODE").bind CompileMode.ofText? <;>
    cases (env "LEXIS_COMPILER_OUTPUT").bind flagOfText? <;> rfl

/-- Behind the first normalisation, the second sees to the working directory alone. -/
theorem resolved_eq (a : Arguments) (env : Environment) (file : Settings) :
    a.resolved env file = { file.normalize with
      variant := ((env "LEXIS_VARIANT").bind Variant.ofText?).getD file.variant
      compileMode := if a.strict then .strict else
        ((env "LEXIS_COMPILE_MODE").bind CompileMode.ofText?).getD file.compileMode
      allowCompilerOutput := a.compilerOutput ||
        ((env "LEXIS_COMPILER_OUTPUT").bind flagOfText?).getD file.allowCompilerOutput
      workDir := setDir (a.workDir.or (variableDir env (setDir file.workDir))) } := by
  have name := Grammar.plainName_eq_self_iff.mpr (Grammar.isPlain_plainName file.grammarName)
  simp only [Arguments.resolved, Arguments.apply, overrides_fst, Settings.normalize,
    Layout.normalize_normalize, name, setDir]
  cases a.workDir with
  | none => rfl
  | some dir => rfl

theorem resolve_eq_ok_iff : a.resolve env fs = .ok s ↔
    ∃ file, Settings.Stored fs (a.settings.getD (Settings.defaultPath env)) file ∧
      s = a.resolved env file := by
  have loaded := @Settings.load_eq_ok_iff fs (a.settings.getD (Settings.defaultPath env))
  unfold Arguments.resolve
  dsimp only
  cases load : Settings.load fs (a.settings.getD (Settings.defaultPath env)) with
  | error e =>
      refine iff_of_false nofun ?_
      rintro ⟨file, stored, -⟩
      obtain ⟨log, found⟩ := loaded.mpr ⟨file, stored, rfl⟩
      cases load.symm.trans found
  | ok found =>
      obtain ⟨settings, log⟩ := found
      constructor
      · intro h
        obtain ⟨file, stored, rfl⟩ := loaded.mp ⟨log, load⟩
        exact ⟨file, stored, (Except.ok.inj h).symm⟩
      · rintro ⟨file, stored, rfl⟩
        obtain ⟨log', found⟩ := loaded.mpr ⟨file, stored, rfl⟩
        obtain ⟨rfl, -⟩ := Prod.mk.inj (Except.ok.inj (load.symm.trans found))
        rfl

theorem resolved_iff : Resolved a env file s ↔ s = a.resolved env file := by
  constructor
  · intro h
    have variant := (chooses_iff Variant.ofText?_eq_some_iff).mp h.variant
    have mode : s.compileMode = if a.strict then .strict else
        ((env "LEXIS_COMPILE_MODE").bind CompileMode.ofText?).getD file.compileMode := by
      cases strict : a.strict with
      | true => exact h.strict strict
      | false => exact (chooses_iff CompileMode.ofText?_eq_some_iff).mp (h.compileMode strict)
    have output : s.allowCompilerOutput = (a.compilerOutput ||
        ((env "LEXIS_COMPILER_OUTPUT").bind flagOfText?).getD file.allowCompilerOutput) := by
      cases shown : a.compilerOutput with
      | true => exact h.shown shown
      | false => exact (chooses_iff flagOfText?_eq_some_iff).mp (h.compilerOutput shown)
    have dir := choosesDir_iff.mp h.workDir
    rw [resolved_eq, ← variant, ← mode, ← output, ← dir]
    exact h.others
  · intro h
    rw [resolved_eq] at h
    subst h
    exact {
      variant := (chooses_iff Variant.ofText?_eq_some_iff).mpr rfl
      strict := fun strict => if_pos strict
      compileMode := fun strict =>
        (chooses_iff CompileMode.ofText?_eq_some_iff).mpr (by simp [strict])
      shown := fun shown => by simp [shown]
      compilerOutput := fun shown =>
        (chooses_iff flagOfText?_eq_some_iff).mpr (by simp [shown])
      workDir := choosesDir_iff.mpr rfl
      others := rfl }

/-- What is resolved is stored in the file and decided by the layers, and it is used as it is. -/
theorem resolve_precedence (a : Arguments) (env : Environment) (fs : FileSystem) :
    let path := a.settings.getD (Settings.defaultPath env)
    (∀ file, Settings.Stored fs path file → ∃ s, a.resolve env fs = .ok s ∧
      Resolved a env file s) ∧
    (∀ s, a.resolve env fs = .ok s ↔
      ∃ file, Settings.Stored fs path file ∧ Resolved a env file s) ∧
    ∀ s, a.resolve env fs = .ok s → s.normalize = s ∧
      (∀ compiler, Generator.new s compiler = ⟨s, compiler⟩) ∧
      ∀ programs, Generator.withScript s programs =
        ⟨s, (Generator.scriptOf s).toCompiler programs⟩ := by
  intro path
  refine ⟨fun file stored => ?_, fun s => ?_, fun s resolved => ?_⟩
  · exact ⟨a.resolved env file, resolve_eq_ok_iff.mpr ⟨file, stored, rfl⟩, resolved_iff.mpr rfl⟩
  · simp only [resolve_eq_ok_iff, resolved_iff, path]
  · obtain ⟨file, -, rfl⟩ := resolve_eq_ok_iff.mp resolved
    have normal : (a.resolved env file).normalize = a.resolved env file :=
      Settings.normalize_normalize _
    refine ⟨normal, fun compiler => ?_, fun programs => ?_⟩
    · rw [Generator.new, normal]
    · rw [Generator.withScript, Generator.new, normal]

/-- An option without a directory takes the one of the file away, though a variable names another;
of two variables, one is understood. -/
example :
    let a : Arguments := ⟨.printDefaultSettings, some ⟨"s"⟩, some ⟨""⟩, false, false, false, false⟩
    let env : Environment := fun key =>
      if key = "LEXIS_VARIANT" then some " Classic\n"
      else if key = "LEXIS_COMPILE_MODE" then some "strictly"
      else if key = "LEXIS_WORK_DIR" then some "/var/lexis" else none
    let fs := (FileSystem.bare []).put ["s"] (.file "\x7b\"workDir\":\"pack\"\x7d".toUTF8)
    (a.resolve env fs).toOption = some { Settings.default with variant := .classic } := by
  decide +kernel

end CommandLine
end SpeechConfig
