/-
# `SpeechConfig.Proofs.FileSystem.Footprint` — what of a file system a directory shows

## What is proved, with every binder written out

For every file system `fs` without symbolic links and every path:

    fs.isDirectory p = true → ∃ passed there, fs.Reaches p passed there ∧ fs.locate p = .ok there

where `Reaches` says that the path can be looked up and leads to `there` past directories alone.
Let `Agrees fs fs' passed there` mean that two file systems hold the same at these entries and at
the entries of that place, whatever they hold elsewhere.  Then for every name and content:

    fs.Reaches p passed there → Agrees fs fs' passed there →
      fs'.landing (p.join name) = fs.landing (p.join name)

so a file put into the directory is refused in both for the same reason, or in neither.

## Why directories only

A file that is put replaces links, but no directory.  Past directories alone there is therefore
nothing that another file, put wherever, could cut (`Agrees.putFiles`).
-/
import SpeechConfig.Proofs.Artifact.Writing
import SpeechConfig.Proofs.FileSystem.Standing

namespace SpeechConfig.FileSystem

variable {fs fs' : FileSystem} {p : Path} {l m there there' : Location} {passed : List Location}
  {name : String} {n : Nat} {a b : Node} {content : ByteArray} {steps : List Step}

/-! ## Files at different places -/

theorem put_comm (h : l ≠ m) : (fs.put l a).put m b = (fs.put m b).put l a := by
  have nodes : (fs.nodes.insert l a).insert m b = (fs.nodes.insert m b).insert l a := by
    apply Std.ExtTreeMap.ext_getElem?
    intro x
    simp only [Std.ExtTreeMap.getElem?_insert, Std.LawfulEqCmp.compare_eq_iff_eq]
    by_cases left : l = x
    · have right : m ≠ x := fun same => h (left.trans same.symm)
      simp only [if_pos left, if_neg right]
    · simp only [if_neg left]
  simp only [put, nodes]

theorem putFiles_put (h : there ≠ there') :
    ∀ {steps : List Step} {fs : FileSystem}, (fs.put (name :: there') b).putFiles there steps =
      (fs.putFiles there steps).put (name :: there') b := by
  intro steps
  induction steps with
  | nil => intro fs; rfl
  | cons step rest ih =>
      intro fs
      have apart : name :: there' ≠ step.name :: there :=
        fun same => h (List.cons.inj same).2.symm
      rw [putFiles_cons, put_comm apart, ih, ← putFiles_cons]

theorem putFiles_comm (h : there ≠ there') (steps' : List Step) :
    ∀ {fs : FileSystem}, (fs.putFiles there' steps').putFiles there steps =
      (fs.putFiles there steps).putFiles there' steps' := by
  induction steps' with
  | nil => intro fs; rfl
  | cons step rest ih =>
      intro fs
      rw [putFiles_cons, ih, putFiles_put h, ← putFiles_cons]

/-! ## Directories without links on the way -/

def LinkFree (fs : FileSystem) : Prop :=
  ∀ l target, fs.node? l ≠ some (.link target)

theorem linkFree_bare : (bare []).LinkFree := by
  intro l target
  simp [node?, bare, onTheWay]

theorem LinkFree.put (no_links : fs.LinkFree) (h : ∀ target, a ≠ .link target) :
    (fs.put l a).LinkFree := by
  intro m target link
  by_cases root : m = []
  · rw [root, node?_root] at link
    cases link
  · by_cases here : l = m
    · subst here
      rw [node?_put_self a root] at link
      exact h target (Option.some.inj link)
    · rw [node?_put_of_ne a here] at link
      exact no_links m target link

/-- The path can be looked up, and leads to the place past directories alone. -/
structure Reaches (fs : FileSystem) (p : Path) (passed : List Location) (there : Location) :
    Prop where
  admitted : checkPath p = .ok ()
  leads : fs.Leads p passed there
  directories : ∀ x ∈ passed, fs.node? x = some .directory

theorem way_of_walkFrom (no_links : fs.LinkFree) :
    ∀ {parts : List String} {l : Location},
      walkFrom fs .follow n l parts = .ok (.present m .directory) →
      ∃ passed k, Way fs n l parts passed k m := by
  intro parts
  induction parts with
  | nil =>
      intro l h
      rw [walkFrom_nil] at h
      obtain ⟨rfl, -⟩ := Spot.present.inj (Except.ok.inj h)
      exact ⟨[], n, .here⟩
  | cons part rest ih =>
      intro l h
      rcases part_cases part with idle | rfl | name | ⟨idle, up, long⟩
      · rw [walkFrom_idle idle] at h
        obtain ⟨passed, k, way⟩ := ih h
        exact ⟨passed, k, .idle idle way⟩
      · rw [walkFrom_up] at h
        obtain ⟨passed, k, way⟩ := ih h
        exact ⟨passed, k, .up way⟩
      · rw [walkFrom_part name (by simp)] at h
        -- behind a free name or a file no directory is found, and links there are none
        split at h
        · split at h
          · cases h
          · cases h
        · next stands =>
            obtain ⟨passed, k, way⟩ := ih h
            exact ⟨_, k, .down name stands way⟩
        · split at h
          · cases h
          · cases h
        · next target stands => exact absurd stands (no_links _ target)
      · rw [walkFrom_long idle up long (by simp)] at h
        cases h

theorem reaches_of_isDirectory (no_links : fs.LinkFree) (stands : fs.isDirectory p = true) :
    ∃ passed there, fs.Reaches p passed there ∧ fs.locate p = .ok there := by
  unfold isDirectory at stands
  split at stands
  · next there found =>
      have admitted := checkPath_of_walk found
      have walked := found
      rw [walk_eq admitted] at walked
      obtain ⟨passed, left, way⟩ := way_of_walkFrom no_links walked
      refine ⟨passed, there, ⟨admitted, ⟨left, way⟩, fun x hx => ?_⟩, ?_⟩
      · rcases (way.passed_node x hx).2 with directory | ⟨target, link⟩
        · exact directory
        · exact absurd link (no_links x target)
      · rw [locate, found]
        rfl
  · cases stands

/-! ## What a directory shows -/

/-- Two file systems look alike along a way and in the directory at its end. -/
structure Agrees (fs fs' : FileSystem) (passed : List Location) (there : Location) : Prop where
  workDir : fs'.workDir = fs.workDir
  passed : ∀ x ∈ passed, fs'.node? x = fs.node? x
  entries : ∀ name, fs'.node? (name :: there) = fs.node? (name :: there)

theorem Agrees.refl (fs : FileSystem) (passed : List Location) (there : Location) :
    Agrees fs fs passed there :=
  ⟨rfl, fun _ _ => rfl, fun _ => rfl⟩

theorem Reaches.of_agrees (reaches : fs.Reaches p passed there)
    (same : Agrees fs fs' passed there) : fs'.Reaches p passed there :=
  ⟨reaches.admitted, reaches.leads.frame same.workDir same.passed,
    fun x hx => (same.passed x hx).trans (reaches.directories x hx)⟩

theorem node?_put_congr (h : fs'.node? m = fs.node? m) :
    (fs'.put l a).node? m = (fs.put l a).node? m := by
  by_cases here : l = m
  · subst here
    by_cases root : l = []
    · rw [root, node?_root, node?_root]
    · rw [node?_put_self a root, node?_put_self a root]
  · rw [node?_put_of_ne a here, node?_put_of_ne a here, h]

theorem Agrees.put (same : Agrees fs fs' passed there) (l : Location) (node : Node) :
    Agrees (fs.put l node) (fs'.put l node) passed there :=
  ⟨same.workDir, fun x hx => node?_put_congr (same.passed x hx),
    fun name => node?_put_congr (same.entries name)⟩

theorem Reaches.not_passed (reaches : fs.Reaches p passed there)
    (free : fs.node? l ≠ some .directory) : l ∉ passed :=
  fun hx => free (reaches.directories l hx)

theorem Reaches.put (reaches : fs.Reaches p passed there) (free : fs.node? l ≠ some .directory)
    (node : Node) : (fs.put l node).Reaches p passed there := by
  have fresh := reaches.not_passed free
  refine ⟨reaches.admitted, reaches.leads.put fresh, fun x hx => ?_⟩
  have apart : l ≠ x := fun same => fresh (same ▸ hx)
  rw [node?_put_of_ne node apart, reaches.directories x hx]

/-- Files put into another directory are not seen, where no directory stands in their place. -/
theorem Reaches.agrees_putFiles (reaches : fs.Reaches p passed there) (other : there' ≠ there)
    (free : ∀ step ∈ steps, fs.node? (step.name :: there') ≠ some .directory) :
    Agrees fs (fs.putFiles there' steps) passed there := by
  refine ⟨putFiles_workDir, fun x hx => node?_putFiles_of_ne ?_,
    fun name => node?_putFiles_of_ne ?_⟩
  · rintro step hstep rfl
    exact reaches.not_passed (free step hstep) hx
  · intro step hstep same
    exact other (List.cons.inj same).2

theorem Reaches.mkdirAll (reaches : fs.Reaches p passed there) : fs.mkdirAll p = (.ok (), fs) :=
  reaches.leads.mkdirAll fun _ => reaches.admitted

theorem walk_of_refused {last : LastPart} {fault : Fault} (h : checkPath p = .error fault) :
    fs.walk last p = .error fault := by
  rw [walk, h]
  rfl

/-- Where a file of the directory comes to stand does not depend on what is elsewhere. -/
theorem Reaches.landing_join (reaches : fs.Reaches p passed there) (h : IsEntryName name)
    (same : Agrees fs fs' passed there) :
    fs'.landing (p.join name) = fs.landing (p.join name) := by
  cases admitted : checkPath (p.join name) with
  | error fault => rw [landing, landing, walk_of_refused admitted, walk_of_refused admitted]
  | ok _ =>
      obtain ⟨left, walked⟩ := reaches.leads.walk_join h admitted .keep
      obtain ⟨left', walked'⟩ := (reaches.of_agrees same).leads.walk_join h admitted .keep
      rw [landing, landing, walked, walked']
      rcases Nat.lt_or_ge longestName name.utf8ByteSize with long | short
      · rw [walkFrom_too_long h long, walkFrom_too_long h long]
      · rw [walkFrom_keep (h.isName short), walkFrom_keep (h.isName short), same.entries]

end SpeechConfig.FileSystem
