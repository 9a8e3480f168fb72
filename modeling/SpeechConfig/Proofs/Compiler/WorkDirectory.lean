/-
# `SpeechConfig.Proofs.Compiler.WorkDirectory` — the directory a corpus is compiled in

## What is proved, with every binder written out

For every directory `dir`, however it is spelt, and every format of models, let `corpus` be
`dir.join "sentences.txt"`, and `up` the directory it is compiled in:

    up.components = dir.components
    (format.modelOf corpus).components = (dir.join format.fileName).components

so the model is expected beside the corpus (`model_beside_corpus`).

## The current directory

The current directory is `.`, `./` and `.//.`, with one component each; before a bare file name it
is the empty path, which has none.  In front of a corpus the former all come to `.` and the latter
stays empty (`workDirOf_of_ofStem`).  For every script in strict mode, all programs, every file
system and every corpus that is a bare file name, let `dotted` be the same behind `./`.  Then

    result on the corpus ≠ .ok model
    result on dotted = .ok (s.format.modelOf dotted)  ↔  s.Succeeds programs ⟨"."⟩ fs

although up to the start of the shell the two runs are one: a file is found by its bare name as it
is behind `./` (`walk_dotted`), so the script is staged alike.  But the empty path cannot be
entered, and the failure reads as if there were no shell (`compile_bare`).  The `.` that `workDirOf`
falls back on does not help: it is for paths without a parent, and a bare name has one, the empty
path.
-/
import SpeechConfig.Proofs.Artifact.Writing
import SpeechConfig.Proofs.Compiler.Copying
import SpeechConfig.Proofs.FileSystem.Footprint
import SpeechConfig.Proofs.Path.Components

namespace SpeechConfig

open FileSystem (IsEntryName Fault)

/-! ## The current directory, looked up -/

namespace FileSystem

variable {fs : FileSystem} {name : String}

theorem walk_of_not_nul {p : Path} (nul : '\x00' ∉ p.text.toList) (something : p.text ≠ "")
    (fs : FileSystem) (last : LastPart) :
    fs.walk last p = if pathLimit ≤ p.text.utf8ByteSize then .error .nameTooLong
      else walkFrom fs last linkLimit (startOf p fs.workDir) (segments p) := by
  by_cases long : pathLimit ≤ p.text.utf8ByteSize
  · rw [if_pos long, walk_of_refused]
    simp [checkPath, nul, something, long]
  · rw [if_neg long, walk_eq (checkPath_eq_ok_iff.mpr ⟨nul, something, Nat.lt_of_not_le long⟩)]

theorem segments_name (h : IsEntryName name) : segments ⟨name⟩ = [name] := by
  simp [segments, h.parts]

theorem segments_dotted (h : IsEntryName name) : segments ⟨"./" ++ name⟩ = [".", name] := by
  have split : ("./" ++ name).toList = ['.'] ++ '/' :: name.toList := by simp
  rw [segments, split, Path.parts_append_slash, h.parts]
  simp [Path.parts, Path.splitFrom]

/-- An entry of the current directory is found by its bare name as it is behind `./`. -/
theorem walk_dotted (h : IsEntryName name) (fs : FileSystem) (last : LastPart) :
    fs.walk last ⟨"./" ++ name⟩ = fs.walk last ⟨name⟩ := by
  by_cases nul : '\x00' ∈ name.toList
  · have refused : checkPath ⟨name⟩ = .error .nulInName := by simp [checkPath, nul]
    have refused_dotted : checkPath ⟨"./" ++ name⟩ = .error .nulInName := by
      simp [checkPath, nul]
    rw [walk_of_refused refused, walk_of_refused refused_dotted]
  have start : startOf ⟨name⟩ fs.workDir = fs.workDir := by
    simp [startOf, Path.isAbsolute, h.head]
  have start_dotted : startOf ⟨"./" ++ name⟩ fs.workDir = fs.workDir := by
    simp [startOf, Path.isAbsolute]
  rw [walk_of_not_nul (by simpa using nul) (by simp), walk_of_not_nul nul h.not_empty,
    segments_name h, segments_dotted h, start, start_dotted, walkFrom_idle (.inr rfl)]
  -- A path may be too long with the dot and not without it, but then the name is too long as well.
  by_cases long : longestName < name.utf8ByteSize
  · rw [walkFrom_too_long h long, ite_self, ite_self]
  · have short : name.utf8ByteSize + 2 < pathLimit := by
      unfold longestName at long
      unfold pathLimit
      omega
    have dotted : ("./" ++ name).utf8ByteSize = name.utf8ByteSize + 2 := by
      rw [String.utf8ByteSize_append, show "./".utf8ByteSize = 2 by rfl, Nat.add_comm]
    rw [if_neg (by simpa [dotted] using short),
      if_neg (by simpa using Nat.lt_of_add_right_lt short)]

theorem enter_here (fs : FileSystem) : fs.enter ⟨"."⟩ = .ok fs := by
  have walked : fs.walk .follow ⟨"."⟩ = .ok (.present fs.workDir .directory) := by
    rw [walk_eq (by decide), show segments ⟨"."⟩ = ["."] by decide, walkFrom_idle (.inr rfl),
      walkFrom_nil]
    rfl
  rw [enter, walked]
  rfl

theorem enter_empty (fs : FileSystem) : fs.enter ⟨""⟩ = .error .notFound := rfl

end FileSystem

namespace Script

variable {s : Script} {programs : Programs} {dir corpus : Path} {name file : String}
  {fs staged : FileSystem}

/-! ## Beside the corpus -/

theorem components_workDirOf_join (dir : Path) (h : IsEntryName name) :
    ∃ up, (dir.join name).parent? = some up ∧ workDirOf (dir.join name) = up ∧
      up.components = dir.components := by
  obtain ⟨up, parent, same⟩ := Path.exists_parent?_join dir h
  exact ⟨up, parent, by rw [workDirOf, parent, Option.getD_some], same⟩

theorem isEntryName_fileName (format : ModelFormat) : IsEntryName format.fileName := by
  cases format
  · exact ⟨by decide, by decide, by decide, by decide⟩
  · exact ⟨by decide, by decide, by decide, by decide⟩

/-- The model is expected beside the corpus, and the script runs beside both, however the directory
is spelt. -/
theorem model_beside_corpus (dir : Path) (format : ModelFormat) :
    let corpus := dir.join "sentences.txt"
    (format.modelOf corpus).components =
        (dir.join ("sentences.lm." ++ format.extension)).components ∧
      ∃ up, corpus.parent? = some up ∧ workDirOf corpus = up ∧ up.components = dir.components :=
  ⟨Path.components_withFileName_join dir EmitPlan.isEntryName_corpus (isEntryName_fileName format),
    components_workDirOf_join dir EmitPlan.isEntryName_corpus⟩

/-! ## In the current directory -/

/-- What a strict compilation comes to where the shell cannot be started. -/
def unstarted (s : Script) (fault : Fault) (staged : FileSystem) : Compilation :=
  ⟨.error (s.failure ("cannot start " ++ s.shell.text ++ ": " ++ fault.message)), staged, [], []⟩

/-- What it comes to where the script ends. -/
def ended (s : Script) (corpus : Path) (fs : FileSystem) (finished : Finished) : Compilation :=
  ⟨(s.verdict finished).map fun _ => s.format.modelOf corpus,
    { finished.files with workDir := fs.workDir }, s.report finished, []⟩

theorem workDirOf_of_ofStem {head : List Char} (known : head = [] ∨ head = ['.'] ∨ head = ['/'])
    (h : corpus.components = Path.ofStem head ++ [.name file]) :
    workDirOf corpus = ⟨String.ofList head⟩ := by
  rw [workDirOf, Path.parent?_of_ofStem known h, Option.getD_some]

theorem workDirOf_bare (bare : corpus.components = [.name file]) : workDirOf corpus = ⟨""⟩ :=
  workDirOf_of_ofStem (.inl rfl) bare

theorem workDirOf_here (here : corpus.components = [.here, .name file]) :
    workDirOf corpus = ⟨"."⟩ :=
  workDirOf_of_ofStem (.inr (.inl rfl)) here

theorem compile_here {other : Path} (here : corpus.components = [.here, .name file])
    (here' : other.components = [.here, .name file]) :
    s.compile programs other fs = s.compile programs corpus fs := by
  have named : corpus.fileName? = some file := by rw [Path.fileName?, here]; rfl
  have named' : other.fileName? = some file := by rw [Path.fileName?, here']; rfl
  have parent := Path.parent?_of_ofStem (.inr (.inl rfl)) here
  have parent' := Path.parent?_of_ofStem (.inr (.inl rfl)) here'
  have model : s.format.modelOf other = s.format.modelOf corpus := by
    simp only [ModelFormat.modelOf, Path.withFileName, named, named', parent, parent']
  unfold compile
  rw [workDirOf_here here, workDirOf_here here', model]

theorem Stages.of_alike {dir' : Path} (h : s.Stages dir name fs staged)
    (alike : ∀ last, fs.walk last (dir'.join name) = fs.walk last (dir.join name)) :
    s.Stages dir' name fs staged := by
  have located : fs.locate (dir'.join name) = fs.locate (dir.join name) := by
    rw [FileSystem.locate, alike, FileSystem.locate]
  have opened : fs.opened (dir'.join name) = fs.opened (dir.join name) := by
    rw [FileSystem.opened, alike, FileSystem.opened]
  cases h with
  | already here there => exact .already here (located.trans there)
  | copied apart copied =>
      refine .copied (located ▸ apart) ?_
      rw [← copied, FileSystem.copy, opened, FileSystem.copy]

theorem stages_here_iff (h : IsEntryName name) :
    s.Stages ⟨"."⟩ name fs staged ↔ s.Stages ⟨""⟩ name fs staged := by
  have bare : (⟨""⟩ : Path).join name = ⟨name⟩ := by
    simp [Path.join, h.head]
  have dotted : (⟨"."⟩ : Path).join name = ⟨"./" ++ name⟩ := by
    simp [Path.join, h.head]
  have alike (last : FileSystem.LastPart) :
      fs.walk last ((⟨"."⟩ : Path).join name) = fs.walk last ((⟨""⟩ : Path).join name) := by
    rw [bare, dotted, FileSystem.walk_dotted h]
  exact ⟨fun stages => stages.of_alike fun last => (alike last).symm,
    fun stages => stages.of_alike alike⟩

/-- A strict compilation that comes to the start of the shell is decided there. -/
theorem Reaches.compile_eq (h : s.Reaches corpus fs name staged) :
    { s with mode := .strict }.compile programs corpus fs =
      match s.start programs (workDirOf corpus) name staged with
      | .error e => ⟨.error e, staged, [], []⟩
      | .ok finished => s.ended corpus fs finished := by
  rw [compile_strict, run, h.named]
  simp only [stage_eq_ok_iff.mpr h.stages]
  cases s.start programs (workDirOf corpus) name staged with
  | error e => rfl
  | ok finished => rfl

theorem start_empty (clean : '\x00' ∉ s.shell.text.toList) :
    s.start programs ⟨""⟩ name staged =
      .error (s.failure ("cannot start " ++ s.shell.text ++ ": " ++ Fault.notFound.message)) := by
  simp [start, clean, FileSystem.enter_empty, bind, Except.bind]

theorem start_here (clean : '\x00' ∉ s.shell.text.toList) :
    s.start programs ⟨"."⟩ name staged =
      match programs s.shell.text name staged with
      | .error fault =>
        .error (s.failure ("cannot start " ++ s.shell.text ++ ": " ++ fault.message))
      | .ok finished => .ok finished := by
  cases asked : programs s.shell.text name staged <;>
    simp [start, clean, FileSystem.enter_here, asked, bind, Except.bind]

theorem not_succeeds_empty (s : Script) (programs : Programs) (fs : FileSystem) :
    ¬ s.Succeeds programs ⟨""⟩ fs := by
  rintro ⟨name, staged, finished, -, -, starts, -⟩
  obtain ⟨inside, entered, -⟩ := starts.there
  rw [FileSystem.enter_empty] at entered
  cases entered

theorem result_strict_eq_ok_iff {model : Path} :
    ({ s with mode := .strict }.compile programs corpus fs).result = .ok model ↔
      model = s.format.modelOf corpus ∧ s.Succeeds programs (workDirOf corpus) fs := by
  have runs : s.RunsTo programs (workDirOf corpus) fs _ := run_runsTo
  rw [compile_strict, ← runs.result_eq_ok_iff]
  cases (s.run programs (workDirOf corpus) fs).result with
  | error e => simp [Except.map]
  | ok done => simp [Except.map, eq_comm]

theorem reaches_here_iff {dotted : Path} (bare : corpus.components = [.name file])
    (here : dotted.components = [.here, .name file]) :
    s.Reaches dotted fs name staged ↔ s.Reaches corpus fs name staged := by
  constructor
  · rintro ⟨named, stages⟩
    rw [workDirOf_here here] at stages
    refine ⟨named, ?_⟩
    rwa [workDirOf_bare bare, ← stages_here_iff (Path.isEntryName_of_fileName? named)]
  · rintro ⟨named, stages⟩
    rw [workDirOf_bare bare] at stages
    refine ⟨named, ?_⟩
    rwa [workDirOf_here here, stages_here_iff (Path.isEntryName_of_fileName? named)]

/-- The main result: on a corpus without a directory no script succeeds, whatever it would do; its
shell is not even started, because the empty path cannot be entered.  On the same corpus behind
`./`, in every spelling of that, the shell is started in the current directory on the same files. -/
theorem compile_bare (s : Script) (programs : Programs) (fs : FileSystem) (corpus : Path)
    (file : String) (bare : corpus.components = [.name file]) :
    let dotted : Path := ⟨"./" ++ corpus.text⟩
    let strict := { s with mode := .strict }
    (∀ model, (strict.compile programs corpus fs).result ≠ .ok model) ∧
    ((strict.compile programs dotted fs).result = .ok (s.format.modelOf dotted) ↔
      s.Succeeds programs ⟨"."⟩ fs) ∧
    (∀ other : Path, other.components = [.here, .name file] →
      strict.compile programs other fs = strict.compile programs dotted fs) ∧
    (∀ name staged, s.Reaches dotted fs name staged ↔ s.Reaches corpus fs name staged) ∧
    ((∀ name staged, ¬ s.Reaches corpus fs name staged) →
      (strict.compile programs corpus fs).files = fs ∧
      (strict.compile programs dotted fs).files = fs) ∧
    ∀ name staged, s.Reaches corpus fs name staged → '\x00' ∉ s.shell.text.toList →
      strict.compile programs corpus fs = s.unstarted .notFound staged ∧
      strict.compile programs dotted fs = match programs s.shell.text name staged with
        | .error fault => s.unstarted fault staged
        | .ok finished => s.ended dotted fs finished := by
  intro dotted strict
  have here : dotted.components = [.here, .name file] := Path.components_here_append bare
  have alike (name : String) (staged : FileSystem) :
      s.Reaches dotted fs name staged ↔ s.Reaches corpus fs name staged :=
    reaches_here_iff bare here
  refine ⟨fun model done => ?_, ?_, fun other here' => compile_here here here', alike,
    fun early => ⟨?_, ?_⟩, fun name staged reaches clean => ⟨?_, ?_⟩⟩
  · obtain ⟨-, succeeds⟩ := result_strict_eq_ok_iff.mp done
    rw [workDirOf_bare bare] at succeeds
    exact not_succeeds_empty s programs fs succeeds
  · rw [result_strict_eq_ok_iff, workDirOf_here here]
    exact and_iff_right rfl
  · obtain ⟨e, ran⟩ := run_of_not_reaches early programs
    rw [compile_files, run_mode, ran]
  · have early' (name : String) (staged : FileSystem) : ¬ s.Reaches dotted fs name staged :=
      fun h => early name staged ((alike name staged).mp h)
    obtain ⟨e, ran⟩ := run_of_not_reaches early' programs
    rw [compile_files, run_mode, ran]
  · rw [reaches.compile_eq, workDirOf_bare bare, start_empty clean]
    rfl
  · rw [((alike name staged).mpr reaches).compile_eq, workDirOf_here here, start_here clean]
    cases programs s.shell.text name staged <;> rfl

/-- The shell, on a script that copies the corpus beside it. -/
def copying : Programs := fun _ _ fs =>
  (fs.copy ⟨"sentences.txt"⟩ ⟨"sentences.lm.bin"⟩).map fun files => ⟨files, [], [], .exit 0⟩

/-- Such a script in a directory of its own, and a corpus beside that directory. -/
def beside : FileSystem :=
  (((FileSystem.bare []).put ["scripts"] .directory).put ["run.sh", "scripts"]
    (.file "cp sentences.txt sentences.lm.bin\n".toUTF8)).put ["sentences.txt"]
    (.file "<s> yes </s>\n".toUTF8)

def copyScript : Script :=
  { path := ⟨"scripts/run.sh"⟩, format := .bin, mode := .strict }

/-- One script on one corpus: it succeeds behind `./` and behind `.//`, and nowhere else. -/
theorem compile_bare_sentences :
    (⟨"sentences.txt"⟩ : Path).components = [.name "sentences.txt"] ∧
    (∀ model, (copyScript.compile copying ⟨"sentences.txt"⟩ beside).result ≠ .ok model) ∧
    (copyScript.compile copying ⟨".//sentences.txt"⟩ beside).result =
      .ok ⟨"./sentences.lm.bin"⟩ ∧
    copyScript.Succeeds copying ⟨"."⟩ beside := by
  have bare : (⟨"sentences.txt"⟩ : Path).components = [.name "sentences.txt"] := by decide +kernel
  have dotted : "./" ++ "sentences.txt" = "./sentences.txt" := by decide +kernel
  have strict : { copyScript with mode := .strict } = copyScript := rfl
  obtain ⟨never, succeeds, alike, -⟩ :=
    compile_bare copyScript copying beside ⟨"sentences.txt"⟩ "sentences.txt" bare
  simp only [strict, dotted] at never succeeds alike
  have done : (copyScript.compile copying ⟨"./sentences.txt"⟩ beside).result =
      .ok (copyScript.format.modelOf ⟨"./sentences.txt"⟩) := by
    decide +kernel
  have model : copyScript.format.modelOf ⟨"./sentences.txt"⟩ = ⟨"./sentences.lm.bin"⟩ := by
    decide +kernel
  refine ⟨bare, never, ?_, succeeds.mp done⟩
  rw [alike ⟨".//sentences.txt"⟩ (by decide +kernel), done, model]

/-- So a corpus in the current directory is not compiled alike in its two spellings, neither in the
verdict nor in the files. -/
theorem compile_bare_ne_dotted :
    let bare := copyScript.compile copying ⟨"sentences.txt"⟩ beside
    let dotted := copyScript.compile copying ⟨"./" ++ "sentences.txt"⟩ beside
    copyScript.mode = .strict ∧ bare.result.isOk = false ∧ dotted.result.isOk = true ∧
      bare.files ≠ dotted.files := by
  refine ⟨rfl, by decide +kernel, by decide +kernel, fun same => ?_⟩
  have model := congrArg (fun fs => (fs.node? ["sentences.lm.bin"]).isSome) same
  revert model
  decide +kernel

end Script
end SpeechConfig
