/-
# `SpeechConfig.Proofs.Artifact.InOrder` — what emission leaves behind, however it ends

## What is proved, with every binder written out

For every plan, request and file system, and for every `temps`, which decides what becomes
of the temporary files,

    plan.InOrder r fs (plan.emit r fs)
    plan.InOrder r fs (plan.emitWith (Artifact.stage temps) r fs)

Whatever the result is, there are steps `done`, the first of the three in their order, and
all of them exactly if there is no failure.  The file of each is an entry of the directory that the
plan's path led to, with the whole text.  Every other place holds what it held, or held
nothing and is a directory now, on the way to the plan's.  So no temporary file remains,
and an entry that was not written is as it was, unless it is one of those directories
(`roundabout_entry_is_directory`).

`emitWith` is emission with the manner in which a file is put as a parameter.  All that is
used of it is `Whole`: it does what `replace` does, or nothing.  A failure may come before a
temporary file is made, while it is written or when it is moved, and in each of the three
steps another; `Advances` carries the steps through the checks between them.
-/
import SpeechConfig.Proofs.FileSystem.Staging
import SpeechConfig.Proofs.Generator.Timing

namespace SpeechConfig

/-! ## Emission with another way to put a file -/

def FileStep.stage (temps : FileSystem.TempFiles) (path : Path) (content : ByteArray) :
    FileStep Unit :=
  fun fs => match fs.stage (temps.course fs path content) path content with
    | (.ok (), fs) => (.ok (), fs)
    | (.error fault, fs) => (.error (.io fault), fs)

def Artifact.stage (temps : FileSystem.TempFiles) (path : Path) (text : String) :
    FileStep Artifact := do
  FileStep.stage temps path text.toUTF8
  return ofText path text

namespace EmitPlan

/-- Writes the three files of a request, each in the manner of `put`. -/
def writeFiles (put : Path → String → FileStep Artifact) (plan : EmitPlan) (r : Request) :
    FileStep ArtifactSet := do
  let dictionary ← put plan.dictionaryPath (Dictionary.render plan.phonemes r.words)
  plan.checkBetween r.validateGrammar
  let grammar ← put plan.grammarPath (Grammar.render plan.grammarName r.grammar plan.quoting)
  plan.checkBetween r.validateSentences
  let text := Corpus.render r.words r.sentences
  let corpus ← put plan.corpusPath text.text
  return ⟨dictionary, grammar, corpus, r.grammar.length, text.fromWords⟩

/-- Checks the name, makes the directory and writes the files in the manner of `put`. -/
def emitWith (put : Path → String → FileStep Artifact) (plan : EmitPlan) (r : Request) :
    FileStep ArtifactSet := do
  if Grammar.plainName plan.grammarName ≠ plan.grammarName then
    throw (.settings (.grammarName plan.grammarName))
  FileStep.mkdirAll plan.dir
  plan.writeFiles put r

theorem emit_eq_emitWith (plan : EmitPlan) (r : Request) :
    plan.emit r = plan.emitWith Artifact.emit r := rfl

theorem emitWith_eq (put : Path → String → FileStep Artifact) (plan : EmitPlan) (r : Request)
    (fs : FileSystem) :
    plan.emitWith put r fs =
      if Grammar.plainName plan.grammarName ≠ plan.grammarName then
        (.error (.settings (.grammarName plan.grammarName)), fs)
      else match fs.mkdirAll plan.dir with
        | (.error fault, made) => (.error (.io fault), made)
        | (.ok (), made) => plan.writeFiles put r made := by
  unfold emitWith
  split
  · rfl
  · refine (FileStep.bind_apply _ _ fs).trans ?_
    rw [FileStep.mkdirAll]
    rcases fs.mkdirAll plan.dir with ⟨_ | _, made⟩
    · rfl
    · rfl

end EmitPlan

/-- Putting a file at an entry of a directory does what `replace` does, or nothing. -/
def Whole (put : Path → String → FileStep Artifact) : Prop :=
  ∀ (dir : Path) (name text : String) (fs : FileSystem), FileSystem.IsEntryName name →
    (∃ fault, put (dir.join name) text fs = (.error (.io fault), fs)) ∨
      ∃ fs', put (dir.join name) text fs = (.ok (.ofText (dir.join name) text), fs') ∧
        fs.replace (dir.join name) text.toUTF8 = .ok fs'

theorem whole_emit : Whole Artifact.emit := by
  intro dir name text fs _
  rw [Artifact.emit, FileStep.bind_apply, FileStep.ofChange]
  cases fs.replace (dir.join name) text.toUTF8 with
  | error fault => exact Or.inl ⟨fault, rfl⟩
  | ok fs' => exact Or.inr ⟨fs', rfl, rfl⟩

theorem whole_stage (temps : FileSystem.TempFiles) : Whole (Artifact.stage temps) := by
  intro dir name text fs h
  rw [Artifact.stage, FileStep.bind_apply, FileStep.stage]
  have fresh := temps.fresh fs (dir.join name) text.toUTF8
  rcases FileSystem.stage_cases fresh h with ⟨fault, staged⟩ | ⟨fs', staged, replaced⟩
  · rw [staged]
    exact Or.inl ⟨fault, rfl⟩
  · rw [staged]
    exact Or.inr ⟨fs', rfl, replaced⟩

/-! ## Steps are done in order -/

/-- However the program ends, it has done the first of these steps and no others, and all
of them exactly if it succeeds. -/
def Advances {α : Type} (dir : Path) (steps : List Step) (program : FileStep α) : Prop :=
  ∀ fs, ∃ done, done <+: steps ∧ Writes dir fs done (program fs).2 ∧
    ((∃ a, (program fs).1 = .ok a) ↔ done = steps)

section

variable {α : Type} {dir : Path} {steps : List Step} {put : Path → String → FileStep Artifact}

theorem advances_pure (a : α) : Advances dir [] (pure a) :=
  fun _ => ⟨[], List.prefix_rfl, .nil, fun _ => rfl, fun _ => ⟨a, rfl⟩⟩

theorem advances_nothing {step : Step} {fs : FileSystem} {e : Failure} :
    ∃ done, done <+: step :: steps ∧ Writes dir fs done fs ∧
      ((∃ a : α, (.error e : Except Failure α) = .ok a) ↔ done = step :: steps) := by
  refine ⟨[], List.nil_prefix, .nil, ?_, fun none => nomatch none⟩
  rintro ⟨a, succeeded⟩
  cases succeeded

theorem advances_put {name text : String} {program : Artifact → FileStep α} (whole : Whole put)
    (h : FileSystem.IsEntryName name)
    (rest : Advances dir steps (program (.ofText (dir.join name) text))) :
    Advances dir (⟨.ok (), name, text⟩ :: steps) (put (dir.join name) text >>= program) := by
  intro fs
  rw [FileStep.bind_apply]
  rcases whole dir name text fs h with ⟨fault, failed⟩ | ⟨fs₁, written, replaced⟩
  · rw [failed]
    exact advances_nothing
  · rw [written]
    obtain ⟨done, order, writes, all⟩ := rest fs₁
    refine ⟨_ :: done, List.cons_prefix_cons.mpr ⟨rfl, order⟩, .cons rfl replaced writes, ?_⟩
    rw [List.cons_inj_right]
    exact all

theorem advances_checkBetween {plan : EmitPlan} {result : Except Failure Unit}
    {name text : String} {program : Unit → FileStep α}
    (rest : Advances dir (⟨.ok (), name, text⟩ :: steps) (program ())) :
    Advances dir (⟨plan.between result, name, text⟩ :: steps)
      (plan.checkBetween result >>= program) := by
  intro fs
  rw [FileStep.bind_apply, plan.checkBetween_apply]
  cases plan.between result with
  | error e => exact advances_nothing
  | ok _ => exact rest fs

end

namespace EmitPlan

variable {plan : EmitPlan} {r : Request} {fs files made : FileSystem} {there : Location}
  {done : List Step} {put : Path → String → FileStep Artifact}

theorem advances_writeFiles (whole : Whole put) (plain : Grammar.isPlain plan.grammarName = true) :
    Advances plan.dir (plan.steps r) (plan.writeFiles put r) := by
  refine advances_put whole isEntryName_dictionary ?_
  refine advances_checkBetween (advances_put whole (Grammar.isEntryName_file plain) ?_)
  refine advances_checkBetween (advances_put whole isEntryName_corpus ?_)
  exact advances_pure _

/-- What is left behind where these steps were done in a directory that was made: their
files, as a whole, and directories where nothing was, on the way to the plan's; at every
other place what was there. -/
structure Leaves (plan : EmitPlan) (r : Request) (fs files : FileSystem) (done : List Step)
    (made : FileSystem) (there : Location) : Prop where
  order : done <+: plan.steps r
  makes : made = fs ∨ ∃ result, fs.mkdirAll plan.dir = (result, made)
  leads : done ≠ [] →
    fs.mkdirAll plan.dir = (.ok (), made) ∧ ∃ passed, made.Leads plan.dir passed there
  workDir : files.workDir = fs.workDir
  written : ∀ step ∈ done, files.node? (step.name :: there) = some (.file step.text.toUTF8)
  node (l : Location) : files.node? l = fs.node? l ∨
    (fs.node? l = none ∧ files.node? l = some .directory ∧
      ∃ q passed, plan.dir.Above q ∧ made.Leads q passed l) ∨
    ∃ step ∈ done, l = step.name :: there

theorem Leaves.refused : plan.Leaves r fs fs [] fs there where
  order := List.nil_prefix
  makes := Or.inl rfl
  leads h := absurd rfl h
  workDir := rfl
  written _ h := absurd h List.not_mem_nil
  node _ := Or.inl rfl

theorem Leaves.nothing {result : Except FileSystem.Fault Unit}
    (makes : fs.mkdirAll plan.dir = (result, made)) : plan.Leaves r fs made [] made there where
  order := List.nil_prefix
  makes := Or.inr ⟨result, makes⟩
  leads h := absurd rfl h
  workDir := (FileSystem.makesWay_of_mkdirAll makes).workDir
  written _ h := absurd h List.not_mem_nil
  node l := ((FileSystem.makesWay_of_mkdirAll makes).node l).imp_right Or.inl

theorem leaves_of_writes (plain : Grammar.isPlain plan.grammarName = true)
    (makes : fs.mkdirAll plan.dir = (.ok (), made)) (order : done <+: plan.steps r)
    (writes : Writes plan.dir made done files) :
    ∃ there, plan.Leaves r fs files done made there := by
  have way := FileSystem.makesWay_of_mkdirAll makes
  cases done with
  | nil =>
      obtain rfl := writes_nil_iff.mp writes
      exact ⟨[], .nothing makes⟩
  | cons step rest =>
      have names : ∀ s ∈ step :: rest, FileSystem.IsEntryName s.name :=
        fun s h => isEntryName_steps plain s (order.subset h)
      have distinct : ((step :: rest).map Step.name).Nodup :=
        (nodup_steps plan r).sublist (order.sublist.map _)
      obtain ⟨passed, there, leads⟩ := writes.leads (names step List.mem_cons_self)
      obtain ⟨-, -, rfl⟩ := (writes_iff leads names distinct).mp writes
      refine ⟨there, order, Or.inr ⟨_, makes⟩, fun _ => ⟨makes, passed, leads⟩,
        FileSystem.putFiles_workDir.trans way.workDir,
        fun s h => FileSystem.node?_putFiles_of_mem distinct h, fun l => ?_⟩
      by_cases entry : ∃ s ∈ step :: rest, l = s.name :: there
      · exact Or.inr (Or.inr entry)
      · rw [FileSystem.node?_putFiles_of_ne fun s h same => entry ⟨s, h, same.symm⟩]
        exact (way.node l).imp_right Or.inl

/-- The first of the files, in their order, are written as a whole, all of them exactly if
there is no failure, and nothing else happens but that the directory is made. -/
def InOrder (plan : EmitPlan) (r : Request) (fs : FileSystem)
    (ending : Except Failure ArtifactSet × FileSystem) : Prop :=
  ∃ done made there, plan.Leaves r fs ending.2 done made there ∧
    ((∃ set, ending.1 = .ok set) ↔ done = plan.steps r)

/-- Emission in any manner that is whole leaves its files in order. -/
theorem inOrder_emitWith (whole : Whole put) (plan : EmitPlan) (r : Request) (fs : FileSystem) :
    plan.InOrder r fs (plan.emitWith put r fs) := by
  rw [emitWith_eq]
  split
  · exact ⟨[], fs, [], .refused, by simp [steps]⟩
  · next named =>
      have plain := Grammar.plainName_eq_self_iff.mp (not_not.mp named)
      rcases makes : fs.mkdirAll plan.dir with ⟨fault | _, made⟩
      · exact ⟨[], made, [], .nothing makes, by simp [steps]⟩
      · obtain ⟨done, order, writes, all⟩ := advances_writeFiles (r := r) whole plain made
        obtain ⟨there, leaves⟩ := leaves_of_writes plain makes order writes
        exact ⟨done, made, there, leaves, all⟩

end EmitPlan

/-! ## Every way to end -/

/-- Temporary files at one place.  The one for a certain path is never ready. -/
def FileSystem.TempFiles.losing (temp : Location) (lost : Path) : FileSystem.TempFiles where
  course fs p content :=
    if fs.node? temp = none then
      if p = lost then .broken temp content .permissionDenied else .written temp
    else .barred .exists
  fresh fs p content := by
    split
    · next free =>
        split
        · exact free
        · exact free
    · trivial

namespace EmitPlan

/-- Emission leaves its files in order, in one step each or whatever becomes of their
temporary files. -/
theorem emit_in_order (plan : EmitPlan) (r : Request) (fs : FileSystem) :
    plan.InOrder r fs (plan.emit r fs) ∧
      ∀ temps : FileSystem.TempFiles,
        plan.InOrder r fs (plan.emitWith (Artifact.stage temps) r fs) := by
  constructor
  · rw [emit_eq_emitWith]
    exact inOrder_emitWith whole_emit plan r fs
  · intro temps
    exact inOrder_emitWith (whole_stage temps) plan r fs

def agreed : Request := ⟨Generator.assent, ["yes"], ["yes"]⟩

def planIn (dir : Path) : EmitPlan := ⟨dir, "custom", .verbatim, .quoted, .upfront⟩

/-- A grammar from before, and a link where the corpus belongs. -/
def earlier : FileSystem :=
  ((FileSystem.bare []).put ["custom.gram"] (.file "old".toUTF8)).put ["sentences.txt"]
    (.link ⟨"custom.gram"⟩)

/-- Where the grammar's temporary file is lost, only the dictionary is new. -/
theorem emit_in_order_losing :
    let ending := (planIn ⟨"."⟩).emitWith
      (Artifact.stage (.losing [".tmp"] ⟨"./custom.gram"⟩)) agreed earlier
    (planIn ⟨"."⟩).InOrder agreed earlier ending ∧
      ending.1 = .error (.io .permissionDenied) ∧
      ending.2.node? ["custom.dict"] = some (.file "yes Y E S\n".toUTF8) ∧
      ending.2.node? ["custom.gram"] = some (.file "old".toUTF8) ∧
      ending.2.node? ["sentences.txt"] = some (.link ⟨"custom.gram"⟩) ∧
      ending.2.node? [".tmp"] = none := by
  intro ending
  have ordered : (planIn ⟨"."⟩).InOrder agreed earlier ending :=
    (emit_in_order (planIn ⟨"."⟩) agreed earlier).2 (.losing [".tmp"] ⟨"./custom.gram"⟩)
  exact ⟨ordered, by decide +kernel⟩

/-- The path `sentences.txt/..` leads back to where it starts.  On the way to it the entry
of the corpus is made a directory, which is not what it was and not a file. -/
theorem roundabout_entry_is_directory :
    let fs := FileSystem.bare []
    let ending := (planIn Generator.roundabout).emit agreed fs
    ending.1 = .error (.io .isDirectory) ∧
      ∃ made passed there, fs.mkdirAll Generator.roundabout = (.ok (), made) ∧
        made.Leads Generator.roundabout passed there ∧
        ¬ (ending.2.node? ("sentences.txt" :: there) = fs.node? ("sentences.txt" :: there) ∨
          ∃ content, ending.2.node? ("sentences.txt" :: there) = some (.file content)) := by
  intro fs ending
  have reported : ending.1 = .error (.io .isDirectory) := by decide +kernel
  have stands : ending.2.node? ["sentences.txt"] = some .directory := by decide +kernel
  have free : fs.node? ["sentences.txt"] = none := by decide
  have parts : FileSystem.segments Generator.roundabout = ["sentences.txt", ".."] := by decide
  have name : FileSystem.IsName "sentences.txt" :=
    ⟨by decide, by decide, by decide, by decide⟩
  have leads : Generator.detoured.Leads Generator.roundabout [["sentences.txt"]] [] := by
    refine ⟨FileSystem.linkLimit, ?_⟩
    rw [parts]
    exact .down name (FileSystem.node?_put_self _ (List.cons_ne_nil _ _)) (.up .here)
  refine ⟨reported, Generator.detoured, _, [], Generator.mkdirAll_roundabout, leads, ?_⟩
  rw [stands, free]
  simp

end EmitPlan
end SpeechConfig
