/-
# `SpeechConfig.Proofs.FileSystem.Staging` — a file that is written aside and then moved

## What is proved, with every binder written out

`FileSystem.replace` puts a complete file at a path in one step.  A program has no such
step: it writes a temporary file at a free place, moves it to the path, and removes it if
anything fails before.  `stage` is that sequence, and `Course` says how far it comes.

For every file system, every course whose place is free, every path `dir`, name of an entry
and content:

    fs.stage course (dir.join name) content = (.error fault, fs)   for some fault, or
    fs.stage course (dir.join name) content = (.ok (), fs')   and
      fs.replace (dir.join name) content = .ok fs'

So either nothing changes or the whole file is in its place, and the temporary file is gone
in both cases.  If the temporary file is written in full, the second case is that of
`replace`, no more and no less (`stage_written_eq_ok_iff`).

## Why the temporary file is not in the way

It is looked for by no one, but it is there when the path is walked.  A way passes
directories and links only, so it never passes a place that was free, and a file put
there neither opens nor bars a way.
-/
import SpeechConfig.Proofs.FileSystem.Entry

namespace SpeechConfig.FileSystem

/-- Moves what stands at a place to where a path leads, in one step. -/
def rename (fs : FileSystem) (source : Location) (p : Path) : Except Fault FileSystem :=
  match fs.node? source with
  | none => .error .notFound
  | some node => (fs.landing p).map fun l => (fs.erase source).put l node

/-- How far the writing of a temporary file comes: there is none, it breaks off behind some
part of the file or before the file is moved, or the file is ready. -/
inductive Course where
  | barred (fault : Fault)
  | broken (temp : Location) (part : ByteArray) (fault : Fault)
  | written (temp : Location)

/-- A temporary file has a place where nothing stands. -/
def Course.Fresh (fs : FileSystem) : Course → Prop
  | .barred _ => True
  | .broken temp _ _ => fs.node? temp = none
  | .written temp => fs.node? temp = none

/-- Puts a file at a path by way of a temporary file, which is removed on failure. -/
def stage (fs : FileSystem) (course : Course) (p : Path) (content : ByteArray) :
    Except Fault Unit × FileSystem :=
  match course with
  | .barred fault => (.error fault, fs)
  | .broken temp part fault => (.error fault, (fs.put temp (.file part)).erase temp)
  | .written temp =>
    match (fs.put temp (.file content)).rename temp p with
    | .error fault => (.error fault, (fs.put temp (.file content)).erase temp)
    | .ok fs => (.ok (), fs)

/-- What decides how temporary files fare.  It sees the files, the path and the content,
and its places are free. -/
structure TempFiles where
  course : FileSystem → Path → ByteArray → Course
  fresh (fs : FileSystem) (p : Path) (content : ByteArray) : (course fs p content).Fresh fs

variable {fs fs' : FileSystem} {temp l : Location} {node : Node} {dir p : Path} {name : String}
  {content part : ByteArray}

/-! ## A file at a free place -/

theorem ne_root_of_free (free : fs.node? temp = none) : temp ≠ [] := by
  rintro rfl
  cases node?_root.symm.trans free

theorem erase_put_of_free (free : fs.node? temp = none) : (fs.put temp node).erase temp = fs := by
  have absent : fs.nodes[temp]? = none := by
    rwa [node?, if_neg (ne_root_of_free free)] at free
  have nodes : (fs.nodes.insert temp node).erase temp = fs.nodes := by
    apply Std.ExtTreeMap.ext_getElem?
    intro m
    rw [Std.ExtTreeMap.getElem?_erase, Std.ExtTreeMap.getElem?_insert]
    split
    · next same =>
        rw [← Std.LawfulEqCmp.eq_of_compare same, absent]
    · rfl
  rw [put, erase, nodes]

theorem Leads.of_put_free {passed : List Location} {there : Location}
    (free : fs.node? temp = none) (leads : (fs.put temp (.file part)).Leads dir passed there) :
    fs.Leads dir passed there := by
  refine leads.frame rfl fun x hx => (node?_put_of_ne _ ?_).symm
  rintro rfl
  have placed : (fs.put temp (.file part)).node? temp = some (.file part) :=
    node?_put_self _ (ne_root_of_free free)
  rcases (leads.passed_node _ hx).2 with stands | ⟨target, stands⟩
  · cases placed.symm.trans stands
  · cases placed.symm.trans stands

theorem Leads.put_free {passed : List Location} {there : Location}
    (free : fs.node? temp = none) (leads : fs.Leads dir passed there) :
    (fs.put temp node).Leads dir passed there := by
  refine leads.put fun hx => ?_
  rcases (leads.passed_node _ hx).2 with stands | ⟨target, stands⟩
  · cases free.symm.trans stands
  · cases free.symm.trans stands

/-- A file at a free place changes nothing about where another comes to stand. -/
theorem landing_put_free_iff (free : fs.node? temp = none) (h : IsEntryName name) :
    (fs.put temp (.file part)).landing (dir.join name) = .ok l ↔
      fs.landing (dir.join name) = .ok l := by
  have no_directory : ∀ m, (fs.put temp (.file part)).node? m ≠ some .directory ↔
      fs.node? m ≠ some .directory := by
    intro m
    by_cases here : temp = m
    · subst here
      rw [node?_put_self _ (ne_root_of_free free), free]
      simp
    · rw [node?_put_of_ne _ here]
  rw [landing_join_eq_ok_iff h, landing_join_eq_ok_iff h]
  constructor
  · rintro ⟨admitted, short, passed, there, leads, vacant, rfl⟩
    exact ⟨admitted, short, passed, there, leads.of_put_free free, (no_directory _).mp vacant, rfl⟩
  · rintro ⟨admitted, short, passed, there, leads, vacant, rfl⟩
    exact ⟨admitted, short, passed, there, leads.put_free free, (no_directory _).mpr vacant, rfl⟩

/-! ## What staging does -/

theorem rename_put_free (free : fs.node? temp = none) :
    (fs.put temp node).rename temp p =
      ((fs.put temp node).landing p).map fun l => fs.put l node := by
  rw [rename, node?_put_self _ (ne_root_of_free free)]
  simp only [erase_put_of_free free]

/-- A temporary file that is ready comes to its place exactly where a file can be put in
one step. -/
theorem stage_written_eq_ok_iff (free : fs.node? temp = none) (h : IsEntryName name) :
    fs.stage (.written temp) (dir.join name) content = (.ok (), fs') ↔
      fs.replace (dir.join name) content = .ok fs' := by
  rw [stage, rename_put_free free, replace_eq_landing]
  cases lands : fs.landing (dir.join name) with
  | ok l =>
      rw [(landing_put_free_iff free h).mpr lands]
      simp [Except.map]
  | error fault =>
      cases staged : (fs.put temp (.file content)).landing (dir.join name) with
      | ok l => cases lands.symm.trans ((landing_put_free_iff free h).mp staged)
      | error fault' => simp [Except.map]

/-- Staging changes nothing or puts the whole file. -/
theorem stage_cases {course : Course} (fresh : course.Fresh fs) (h : IsEntryName name) :
    (∃ fault, fs.stage course (dir.join name) content = (.error fault, fs)) ∨
      ∃ fs', fs.stage course (dir.join name) content = (.ok (), fs') ∧
        fs.replace (dir.join name) content = .ok fs' := by
  cases course with
  | barred fault => exact Or.inl ⟨fault, rfl⟩
  | broken temp part fault =>
      refine Or.inl ⟨fault, ?_⟩
      rw [stage, erase_put_of_free fresh]
  | written temp =>
      rcases staged : fs.stage (.written temp) (dir.join name) content with ⟨fault | _, fs'⟩
      · refine Or.inl ⟨fault, ?_⟩
        rw [stage] at staged
        split at staged
        · rw [← (Prod.mk.inj staged).2, erase_put_of_free fresh]
        · cases (Prod.mk.inj staged).1
      · exact Or.inr ⟨fs', rfl, (stage_written_eq_ok_iff fresh h).mp staged⟩

end SpeechConfig.FileSystem
