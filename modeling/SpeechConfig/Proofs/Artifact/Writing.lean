/-
# `SpeechConfig.Proofs.Artifact.Writing` — emission as a run of steps

## What is proved, with every binder written out

The three files of a request are written in one manner: a check, then a file put into
the directory.  `Step` is that manner, `EmitPlan.steps` lists the three, and `emit_eq`
says that emission is the check of the name, the making of the directory, and
`writeAll` of the steps:

    plan.emit r fs = … (writeAll plan.dir (plan.steps r) made) …

For every list of steps, a run does some of them and stops at the one behind them,
`writeAll_cases`.  The steps that were done are at entries of one directory, the one
that the path leads to before the first of them (`Writes.in_place`):

    fs.Leads dir passed there → Writes dir fs done fs' →
      fs' = fs.putFiles there done ∧ …

## What could go wrong

A step looks the directory up anew, by its path.  A file that was put on an entry which
that path passes would cut the path, and the next step would fail: so among the files
that were written only the last can be such an entry.
-/
import SpeechConfig.Artifact.Emission
import SpeechConfig.Proofs.Artifact.Name

namespace SpeechConfig

/-! ## Steps -/

/-- One file to be written: the check made before it, its name and its text. -/
structure Step where
  guard : Except Failure Unit
  name : String
  text : String

/-- Does the steps in order, and stops at the first that fails. -/
def writeAll (dir : Path) : List Step → FileSystem → Except Failure Unit × FileSystem
  | [], fs => (.ok (), fs)
  | step :: rest, fs =>
    match step.guard with
    | .error e => (.error e, fs)
    | .ok () =>
      match fs.replace (dir.join step.name) step.text.toUTF8 with
      | .error fault => (.error (.io fault), fs)
      | .ok fs => writeAll dir rest fs

namespace EmitPlan

/-- What a check amounts to that is made only between the files. -/
def between (plan : EmitPlan) (result : Except Failure Unit) : Except Failure Unit :=
  match plan.timing with
  | .upfront => .ok ()
  | .interleaved => result

def grammarFile (plan : EmitPlan) : String :=
  plan.grammarName ++ ".gram"

def dictionaryText (plan : EmitPlan) (r : Request) : String :=
  Dictionary.render plan.phonemes r.words

def grammarText (plan : EmitPlan) (r : Request) : String :=
  Grammar.render plan.grammarName r.grammar plan.quoting

def corpusText (r : Request) : String :=
  (Corpus.render r.words r.sentences).text

def dictionaryStep (plan : EmitPlan) (r : Request) : Step :=
  ⟨.ok (), "custom.dict", plan.dictionaryText r⟩

def grammarStep (plan : EmitPlan) (r : Request) : Step :=
  ⟨plan.between r.validateGrammar, plan.grammarFile, plan.grammarText r⟩

def corpusStep (plan : EmitPlan) (r : Request) : Step :=
  ⟨plan.between r.validateSentences, "sentences.txt", corpusText r⟩

/-- The files of a request in the order in which they are written. -/
def steps (plan : EmitPlan) (r : Request) : List Step :=
  [plan.dictionaryStep r, plan.grammarStep r, plan.corpusStep r]

def artifacts (plan : EmitPlan) (r : Request) : ArtifactSet where
  dictionary := .ofText plan.dictionaryPath (plan.dictionaryText r)
  grammar := .ofText plan.grammarPath (plan.grammarText r)
  corpus := .ofText plan.corpusPath (corpusText r)
  productions := r.grammar.length
  corpusFromWords := r.sentences.isEmpty

end EmitPlan

/-! ## Emission is a run of its steps -/

theorem FileStep.bind_apply {α β : Type} (x : FileStep α) (f : α → FileStep β) (fs : FileSystem) :
    (x >>= f) fs = match x fs with
      | (.error e, fs) => (.error e, fs)
      | (.ok a, fs) => f a fs := by
  simp only [bind, ExceptT.bind, ExceptT.mk, StateT.bind, ExceptT.bindCont]
  rcases x fs with ⟨result, fs'⟩
  cases result with
  | error e => rfl
  | ok a => rfl

/-- The program does the steps, and answers `a` if it comes through. -/
def Performs {α : Type} (dir : Path) (steps : List Step) (a : α) (program : FileStep α) : Prop :=
  ∀ fs, program fs = ((writeAll dir steps fs).1.map fun _ => a, (writeAll dir steps fs).2)

variable {α : Type} {dir : Path} {steps : List Step} {a : α}

theorem performs_pure : Performs dir [] a (pure a) := fun _ => rfl

theorem performs_emit {name text : String} {program : Artifact → FileStep α}
    (rest : Performs dir steps a (program (.ofText (dir.join name) text))) :
    Performs dir (⟨.ok (), name, text⟩ :: steps) a
      (Artifact.emit (dir.join name) text >>= program) := by
  intro fs
  rw [FileStep.bind_apply, Artifact.emit, FileStep.bind_apply, FileStep.ofChange, writeAll]
  cases fs.replace (dir.join name) text.toUTF8 with
  | error fault => rfl
  | ok fs' => exact rest fs'

theorem EmitPlan.checkBetween_apply (plan : EmitPlan) (result : Except Failure Unit)
    (fs : FileSystem) : plan.checkBetween result fs = (plan.between result, fs) := by
  unfold checkBetween between
  cases plan.timing with
  | upfront => rfl
  | interleaved => rfl

theorem performs_checkBetween {plan : EmitPlan} {result : Except Failure Unit}
    {name text : String} {program : Unit → FileStep α}
    (rest : Performs dir (⟨.ok (), name, text⟩ :: steps) a (program ())) :
    Performs dir (⟨plan.between result, name, text⟩ :: steps) a
      (plan.checkBetween result >>= program) := by
  intro fs
  rw [FileStep.bind_apply, plan.checkBetween_apply]
  cases plan.between result with
  | error e => rfl
  | ok _ => exact rest fs

theorem EmitPlan.emit_eq (plan : EmitPlan) (r : Request) (fs : FileSystem) :
    plan.emit r fs =
      if Grammar.plainName plan.grammarName ≠ plan.grammarName then
        (.error (.settings (.grammarName plan.grammarName)), fs)
      else match fs.mkdirAll plan.dir with
        | (.error fault, made) => (.error (.io fault), made)
        | (.ok (), made) =>
          ((writeAll plan.dir (plan.steps r) made).1.map fun _ => plan.artifacts r,
            (writeAll plan.dir (plan.steps r) made).2) := by
  unfold EmitPlan.emit
  split
  · rfl
  · refine (FileStep.bind_apply _ _ fs).trans ?_
    rw [FileStep.mkdirAll]
    rcases fs.mkdirAll plan.dir with ⟨_ | _, made⟩
    · rfl
    · refine performs_emit ?_ made
      refine performs_checkBetween (performs_emit ?_)
      refine performs_checkBetween ?_
      refine performs_emit ?_
      exact performs_pure

/-! ## What a run of steps does -/

/-- Each of the steps is admitted by its check and puts its file. -/
inductive Writes (dir : Path) : FileSystem → List Step → FileSystem → Prop
  | nil {fs : FileSystem} : Writes dir fs [] fs
  | cons {fs fs₁ fs₂ : FileSystem} {step : Step} {steps : List Step} :
      step.guard = .ok () → fs.replace (dir.join step.name) step.text.toUTF8 = .ok fs₁ →
      Writes dir fs₁ steps fs₂ → Writes dir fs (step :: steps) fs₂

/-- How a run ends in front of the steps that it did not do. -/
inductive Stops (dir : Path) (fs : FileSystem) : List Step → Except Failure Unit → Prop
  | done : Stops dir fs [] (.ok ())
  | refused {step : Step} {steps : List Step} {e : Failure} :
      step.guard = .error e → Stops dir fs (step :: steps) (.error e)
  | failed {step : Step} {steps : List Step} {fault : FileSystem.Fault} :
      step.guard = .ok () →
      fs.replace (dir.join step.name) step.text.toUTF8 = .error fault →
      Stops dir fs (step :: steps) (.error (.io fault))

/-- Some of the steps are done, and the run stops in front of the others. -/
theorem writeAll_cases (dir : Path) :
    ∀ (steps : List Step) (fs : FileSystem), ∃ done rest, steps = done ++ rest ∧
      Writes dir fs done (writeAll dir steps fs).2 ∧
      Stops dir (writeAll dir steps fs).2 rest (writeAll dir steps fs).1 := by
  intro steps
  induction steps with
  | nil => intro fs; exact ⟨[], [], rfl, .nil, .done⟩
  | cons step rest ih =>
      intro fs
      rw [writeAll]
      split
      · next e refused => exact ⟨[], _, rfl, .nil, .refused refused⟩
      · next admitted =>
          split
          · next fault failed => exact ⟨[], _, rfl, .nil, .failed admitted failed⟩
          · next fs₁ replaced =>
              obtain ⟨done, left, split, writes, stops⟩ := ih fs₁
              exact ⟨step :: done, left, by rw [split]; rfl, .cons admitted replaced writes, stops⟩

theorem writeAll_eq {dir : Path} {fs fs' : FileSystem} {done rest : List Step}
    {result : Except Failure Unit} (writes : Writes dir fs done fs')
    (stops : Stops dir fs' rest result) : writeAll dir (done ++ rest) fs = (result, fs') := by
  induction writes with
  | nil =>
      cases stops with
      | done => rfl
      | refused refused => rw [List.nil_append, writeAll, refused]
      | failed admitted failed =>
          rw [List.nil_append, writeAll, admitted]
          simp only [failed]
  | cons admitted replaced _ ih =>
      rw [List.cons_append, writeAll, admitted]
      simp only [replaced]
      exact ih stops

namespace FileSystem

/-- The files of these steps, put into a directory one after another. -/
def putFiles (fs : FileSystem) (there : Location) (steps : List Step) : FileSystem :=
  steps.foldl (fun fs step => fs.put (step.name :: there) (.file step.text.toUTF8)) fs

variable {fs : FileSystem} {dir : Path} {passed : List Location} {there l : Location}
  {step : Step} {steps : List Step}

theorem putFiles_cons :
    fs.putFiles there (step :: steps) =
      (fs.put (step.name :: there) (.file step.text.toUTF8)).putFiles there steps := rfl

theorem putFiles_concat :
    fs.putFiles there (steps ++ [step]) =
      (fs.putFiles there steps).put (step.name :: there) (.file step.text.toUTF8) := by
  simp [putFiles]

theorem putFiles_workDir : (fs.putFiles there steps).workDir = fs.workDir := by
  induction steps generalizing fs with
  | nil => rfl
  | cons step rest ih => exact ih

theorem node?_putFiles_of_ne :
    ∀ {steps : List Step} {fs : FileSystem}, (∀ step ∈ steps, step.name :: there ≠ l) →
      (fs.putFiles there steps).node? l = fs.node? l := by
  intro steps
  induction steps with
  | nil => intro fs _; rfl
  | cons step rest ih =>
      intro fs h
      rw [putFiles_cons, ih (fun s hs => h s (List.mem_cons_of_mem _ hs)),
        node?_put_of_ne _ (h step List.mem_cons_self)]

theorem node?_putFiles_of_mem :
    ∀ {steps : List Step} {fs : FileSystem}, (steps.map Step.name).Nodup → step ∈ steps →
      (fs.putFiles there steps).node? (step.name :: there) = some (.file step.text.toUTF8) := by
  intro steps
  induction steps with
  | nil => intro fs _ h; exact absurd h List.not_mem_nil
  | cons first rest ih =>
      intro fs distinct h
      obtain ⟨fresh, distinct⟩ := List.nodup_cons.mp distinct
      rw [putFiles_cons]
      rcases List.mem_cons.mp h with rfl | h
      · rw [node?_putFiles_of_ne, node?_put_self _ (List.cons_ne_nil _ _)]
        intro s hs same
        exact fresh (List.mem_map.mpr ⟨s, hs, (List.cons.inj same).1⟩)
      · exact ih distinct h

theorem Leads.putFiles (leads : fs.Leads dir passed there)
    (h : ∀ step ∈ steps, step.name :: there ∉ passed) :
    (fs.putFiles there steps).Leads dir passed there := by
  refine leads.frame putFiles_workDir fun x hx => node?_putFiles_of_ne ?_
  rintro step hstep rfl
  exact h step hstep hx

end FileSystem

/-! ## Which steps can be done -/

/-- Nothing keeps the step from putting its file into the directory. -/
structure Step.Fits (step : Step) (fs : FileSystem) (dir : Path) (there : Location) : Prop where
  guard : step.guard = .ok ()
  path : FileSystem.checkPath (dir.join step.name) = .ok ()
  short : step.name.utf8ByteSize ≤ FileSystem.longestName
  free : fs.node? (step.name :: there) ≠ some .directory

section

variable {fs fs' : FileSystem} {dir : Path} {passed : List Location} {there : Location}
  {step : Step} {steps : List Step}

theorem Step.fits_put {name : String} {content : ByteArray} (other : name ≠ step.name) :
    step.Fits (fs.put (name :: there) (.file content)) dir there ↔ step.Fits fs dir there := by
  have same : (fs.put (name :: there) (.file content)).node? (step.name :: there) =
      fs.node? (step.name :: there) :=
    FileSystem.node?_put_of_ne _ fun h => other (List.cons.inj h).1
  constructor
  · rintro ⟨guard, path, short, free⟩
    exact ⟨guard, path, short, same ▸ free⟩
  · rintro ⟨guard, path, short, free⟩
    exact ⟨guard, path, short, same.symm ▸ free⟩

theorem Writes.guard (writes : Writes dir fs steps fs') : ∀ step ∈ steps, step.guard = .ok () := by
  induction writes with
  | nil => intro step h; exact absurd h List.not_mem_nil
  | cons admitted _ _ ih =>
      intro step h
      rcases List.mem_cons.mp h with rfl | h
      · exact admitted
      · exact ih step h

theorem Writes.leads (writes : Writes dir fs (step :: steps) fs')
    (name : FileSystem.IsEntryName step.name) : ∃ passed there, fs.Leads dir passed there := by
  cases writes with
  | cons _ replaced _ =>
      obtain ⟨-, -, passed, there, leads, -⟩ :=
        (FileSystem.replace_join_eq_ok_iff name).mp replaced
      exact ⟨passed, there, leads⟩

theorem writes_nil_iff : Writes dir fs [] fs' ↔ fs' = fs := by
  constructor
  · intro writes
    cases writes with
    | nil => rfl
  · rintro rfl
    exact .nil

theorem writes_cons_iff (leads : fs.Leads dir passed there)
    (names : ∀ s ∈ step :: steps, FileSystem.IsEntryName s.name) :
    Writes dir fs (step :: steps) fs' ↔
      step.Fits fs dir there ∧ (steps = [] ∨ step.name :: there ∉ passed) ∧
        Writes dir (fs.put (step.name :: there) (.file step.text.toUTF8)) steps fs' := by
  have name := names step List.mem_cons_self
  constructor
  · intro writes
    cases writes with
    | cons guard replaced writes =>
        obtain ⟨path, short, passed', there', leads', free, rfl⟩ :=
          (FileSystem.replace_join_eq_ok_iff name).mp replaced
        obtain ⟨rfl, rfl⟩ := leads'.unique leads
        refine ⟨⟨guard, path, short, free⟩, ?_, writes⟩
        cases steps with
        | nil => exact Or.inl rfl
        | cons next rest =>
            right
            intro cut
            obtain ⟨_, _, leads''⟩ :=
              writes.leads (names next (List.mem_cons_of_mem _ List.mem_cons_self))
            exact leads.not_put cut leads''
  · rintro ⟨⟨guard, path, short, free⟩, -, writes⟩
    exact .cons guard
      ((FileSystem.replace_join_eq_ok_iff name).mpr
        ⟨path, short, passed, there, leads, free, rfl⟩) writes

/-- Steps with different names are done exactly if each fits and the path passes none of
their files but the last; and then the files are put where the path leads. -/
theorem writes_iff :
    ∀ {steps : List Step} {fs : FileSystem}, fs.Leads dir passed there →
      (∀ s ∈ steps, FileSystem.IsEntryName s.name) → (steps.map Step.name).Nodup →
      (Writes dir fs steps fs' ↔
        (∀ s ∈ steps, s.Fits fs dir there) ∧ (∀ s ∈ steps.dropLast, s.name :: there ∉ passed) ∧
          fs' = fs.putFiles there steps) := by
  intro steps
  induction steps with
  | nil =>
      intro fs _ _ _
      simp [writes_nil_iff, FileSystem.putFiles]
  | cons step rest ih =>
      intro fs leads names distinct
      obtain ⟨fresh, distinct⟩ := List.nodup_cons.mp distinct
      have fits_put : (∀ s ∈ rest, s.Fits (fs.put (step.name :: there)
          (.file step.text.toUTF8)) dir there) ↔ ∀ s ∈ rest, s.Fits fs dir there :=
        forall₂_congr fun s hs => Step.fits_put fun same =>
          fresh (List.mem_map.mpr ⟨s, hs, same.symm⟩)
      have names' : ∀ s ∈ rest, FileSystem.IsEntryName s.name :=
        fun s hs => names s (List.mem_cons_of_mem _ hs)
      rw [writes_cons_iff leads names, FileSystem.putFiles_cons, List.forall_mem_cons]
      cases rest with
      | nil => simp [writes_nil_iff, FileSystem.putFiles]
      | cons next rest =>
          rw [List.dropLast_cons_cons]
          constructor
          · rintro ⟨fits, apart, writes⟩
            have kept := apart.resolve_left (List.cons_ne_nil _ _)
            obtain ⟨fits', before, placed⟩ := (ih (leads.put kept) names' distinct).mp writes
            exact ⟨⟨fits, fits_put.mp fits'⟩, List.forall_mem_cons.mpr ⟨kept, before⟩, placed⟩
          · rintro ⟨⟨fits, fits'⟩, apart, placed⟩
            obtain ⟨kept, before⟩ := List.forall_mem_cons.mp apart
            exact ⟨fits, Or.inr kept,
              (ih (leads.put kept) names' distinct).mpr ⟨fits_put.mpr fits', before, placed⟩⟩

end

namespace Writes

variable {fs fs' : FileSystem} {dir : Path} {passed : List Location} {there : Location}
  {steps : List Step}

theorem read (writes : Writes dir fs steps fs')
    (names : ∀ step ∈ steps, FileSystem.IsEntryName step.name)
    (distinct : (steps.map Step.name).Nodup) (leads : fs.Leads dir passed there)
    (apart : ∀ step ∈ steps, step.name :: there ∉ passed) :
    ∀ step ∈ steps, fs'.read (dir.join step.name) = .ok step.text.toUTF8 := by
  intro step h
  obtain ⟨fits, -, rfl⟩ := (writes_iff leads names distinct).mp writes
  exact (leads.putFiles apart).read_join (names step h) (fits step h).path (fits step h).short
    (FileSystem.node?_putFiles_of_mem distinct h)

/-- If the path to the directory passes the last file, no file is read by its path. -/
theorem read_cut_off {last : Step} (writes : Writes dir fs (steps ++ [last]) fs')
    (names : ∀ step ∈ steps ++ [last], FileSystem.IsEntryName step.name)
    (distinct : ((steps ++ [last]).map Step.name).Nodup) (leads : fs.Leads dir passed there)
    (cut : last.name :: there ∈ passed) :
    ∀ step ∈ steps ++ [last], fs'.read (dir.join step.name) = .error .notDirectory := by
  intro step h
  obtain ⟨fits, before, placed⟩ := (writes_iff leads names distinct).mp writes
  rw [List.dropLast_concat] at before
  rw [placed, FileSystem.putFiles_concat]
  exact (leads.putFiles before).read_join_put cut (names step h) (fits step h).path

end Writes

/-! ## The three files of a request -/

namespace EmitPlan

variable {plan : EmitPlan} {r : Request}

theorem steps_concat :
    plan.steps r = [plan.dictionaryStep r, plan.grammarStep r] ++ [plan.corpusStep r] := rfl

theorem isEntryName_dictionary : FileSystem.IsEntryName "custom.dict" :=
  ⟨by decide, by decide, by decide, by decide⟩

theorem isEntryName_corpus : FileSystem.IsEntryName "sentences.txt" :=
  ⟨by decide, by decide, by decide, by decide⟩

theorem isEntryName_steps (plain : Grammar.isPlain plan.grammarName = true) :
    ∀ step ∈ plan.steps r, FileSystem.IsEntryName step.name := by
  intro step h
  simp only [steps, List.mem_cons, List.not_mem_nil, or_false] at h
  rcases h with rfl | rfl | rfl
  · exact isEntryName_dictionary
  · exact Grammar.isEntryName_file plain
  · exact isEntryName_corpus

theorem nodup_steps (plan : EmitPlan) (r : Request) : ((plan.steps r).map Step.name).Nodup := by
  have dictionary : plan.grammarFile ≠ "custom.dict" := Grammar.file_ne _ (by decide)
  have corpus : plan.grammarFile ≠ "sentences.txt" := Grammar.file_ne _ (by decide)
  simp [steps, dictionaryStep, grammarStep, corpusStep, dictionary.symm, corpus]

/-- In a directory that can be made, emission does some of its steps and reports how
they ended. -/
theorem emit_cases {fs made : FileSystem} (plain : Grammar.isPlain plan.grammarName = true)
    (makes : fs.mkdirAll plan.dir = (.ok (), made)) :
    ∃ done rest result, plan.steps r = done ++ rest ∧
      Writes plan.dir made done (plan.emit r fs).2 ∧
      Stops plan.dir (plan.emit r fs).2 rest result ∧
      (plan.emit r fs).1 = result.map fun _ => plan.artifacts r := by
  obtain ⟨done, rest, split, writes, stops⟩ := writeAll_cases plan.dir (plan.steps r) made
  refine ⟨done, rest, (writeAll plan.dir (plan.steps r) made).1, split, ?_⟩
  rw [emit_eq, if_neg (not_not_intro (Grammar.plainName_eq_self_iff.mpr plain)), makes]
  exact ⟨writes, stops, rfl⟩

theorem emit_of_run {fs made files : FileSystem} {done rest : List Step}
    {result : Except Failure Unit} (plain : Grammar.isPlain plan.grammarName = true)
    (makes : fs.mkdirAll plan.dir = (.ok (), made)) (split : plan.steps r = done ++ rest)
    (writes : Writes plan.dir made done files) (stops : Stops plan.dir files rest result) :
    plan.emit r fs = (result.map fun _ => plan.artifacts r, files) := by
  rw [emit_eq, if_neg (not_not_intro (Grammar.plainName_eq_self_iff.mpr plain)), makes, split]
  simp only [writeAll_eq writes stops]

theorem emit_eq_ok {fs fs' : FileSystem} {set : ArtifactSet}
    (h : plan.emit r fs = (.ok set, fs')) :
    Grammar.isPlain plan.grammarName = true ∧ set = plan.artifacts r ∧
      ∃ made, fs.mkdirAll plan.dir = (.ok (), made) ∧ Writes plan.dir made (plan.steps r) fs' := by
  have plain : Grammar.isPlain plan.grammarName = true := by
    apply Grammar.plainName_eq_self_iff.mp
    apply Classical.byContradiction
    intro other
    rw [emit_eq, if_pos other] at h
    cases (Prod.mk.inj h).1
  refine ⟨plain, ?_⟩
  rcases makes : fs.mkdirAll plan.dir with ⟨_ | _, made⟩
  · rw [emit_eq, if_neg (not_not_intro (Grammar.plainName_eq_self_iff.mpr plain)), makes] at h
    cases (Prod.mk.inj h).1
  · obtain ⟨done, rest, result, split, writes, stops, reported⟩ := emit_cases (r := r) plain makes
    rw [h] at writes stops reported
    cases stops with
    | done =>
        rw [List.append_nil] at split
        exact ⟨Except.ok.inj reported, made, rfl, split ▸ writes⟩
    | refused _ => cases reported
    | failed _ _ => cases reported

/-- Emission that succeeds has put its files, and nothing else, into the directory it made. -/
theorem placed_of_emit {fs fs' : FileSystem} {set : ArtifactSet}
    (h : plan.emit r fs = (.ok set, fs')) :
    ∃ made passed there, fs.mkdirAll plan.dir = (.ok (), made) ∧
      made.Leads plan.dir passed there ∧
      (∀ step ∈ plan.steps r, step.Fits made plan.dir there) ∧
      (∀ step ∈ [plan.dictionaryStep r, plan.grammarStep r], step.name :: there ∉ passed) ∧
      fs' = made.putFiles there (plan.steps r) := by
  obtain ⟨plain, -, made, makes, writes⟩ := emit_eq_ok h
  obtain ⟨passed, there, leads⟩ := writes.leads isEntryName_dictionary
  obtain ⟨fits, before, placed⟩ :=
    (writes_iff leads (isEntryName_steps plain) (nodup_steps plan r)).mp writes
  exact ⟨made, passed, there, makes, leads, fits, before, placed⟩

end EmitPlan
end SpeechConfig
