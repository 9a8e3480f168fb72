/-
# `SpeechConfig.Proofs.FileSystem.Making` — what making directories changes

## What is proved, with every binder written out

For every file system and every path, whether the call succeeds or fails half way:

    MakesWay fs (fs.mkdirAll p).2 p

that is, every place holds what it held, or held nothing and is now a directory to
which the path or one of its parents leads.  Nothing is taken away, nothing is
replaced, and no directory appears beside the way.

## Steps and runs

One directory is made by `mkdir`; `mkdir_eq_ok` says everything such a step can do.
Going up and coming down are runs of these steps along the parents of the path, and
`MakesWay` is kept by a step and by putting runs behind one another.
-/
import Mathlib.Data.List.TakeWhile
import SpeechConfig.Proofs.FileSystem.Entry

namespace SpeechConfig

/-- `p.Above q`: the path `q` is `p`, or its parent, or a parent of that. -/
inductive Path.Above (p : Path) : Path → Prop
  | self : Above p p
  | parent {q up : Path} : Above p q → q.parent? = some up → Above p up

namespace FileSystem

/-- Between two file systems nothing happened but that directories were made where
nothing stood, on the way to a path. -/
structure MakesWay (fs made : FileSystem) (p : Path) : Prop where
  workDir : made.workDir = fs.workDir
  node (l : Location) : made.node? l = fs.node? l ∨
    (fs.node? l = none ∧ made.node? l = some .directory ∧
      ∃ q passed, p.Above q ∧ made.Leads q passed l)

variable {fs made : FileSystem} {p : Path} {passed : List Location} {there : Location}

/-! ## Slashes at the end of a path -/

theorem splitFrom_concat {c : Char} (h : c ≠ '/') :
    ∀ (cs part : List Char), ∃ front word,
      Path.splitFrom part (cs ++ [c]) = front ++ [word ++ [c]] := by
  intro cs
  induction cs with
  | nil => intro part; exact ⟨[], part.reverse, by simp [Path.splitFrom, h]⟩
  | cons d cs ih =>
      intro part
      rw [List.cons_append, Path.splitFrom]
      split
      · obtain ⟨front, word, spelt⟩ := ih []
        exact ⟨part.reverse :: front, word, by rw [spelt]; rfl⟩
      · exact ih (d :: part)

theorem parts_append_slashes (cs : List Char) (j : Nat) :
    Path.parts (cs ++ List.replicate j '/') = Path.parts cs ++ List.replicate j [] := by
  induction j generalizing cs with
  | zero => simp
  | succ j ih =>
      rw [List.replicate_succ, ← List.singleton_append, ← List.append_assoc, ih,
        Path.parts_append_slash]
      simp [Path.parts, Path.splitFrom, List.replicate_succ]

theorem dropSlashes_cases (p : Path) :
    (∃ j, p.text.toList = List.replicate j '/' ∧ dropSlashes p = p) ∨
      ∃ cs c j, c ≠ '/' ∧ p.text.toList = cs ++ [c] ++ List.replicate j '/' ∧
        dropSlashes p = ⟨String.ofList (cs ++ [c])⟩ := by
  obtain ⟨j, split⟩ : ∃ j, p.text.toList =
      (p.text.toList.reverse.dropWhile (· == '/')).reverse ++ List.replicate j '/' := by
    have slashes : p.text.toList.reverse.takeWhile (· == '/') =
        List.replicate (p.text.toList.reverse.takeWhile (· == '/')).length '/' :=
      List.eq_replicate_of_mem fun c hc => by simpa using List.mem_takeWhile_imp hc
    refine ⟨(p.text.toList.reverse.takeWhile (· == '/')).length, ?_⟩
    rw [← List.reverse_replicate, ← slashes, ← List.reverse_append,
      List.takeWhile_append_dropWhile, List.reverse_reverse]
  cases kept : p.text.toList.reverse.dropWhile (· == '/') with
  | nil =>
      refine Or.inl ⟨j, by simpa [kept] using split, ?_⟩
      simp [dropSlashes, kept]
  | cons c cs =>
      have not_slash : c ≠ '/' := by
        have := List.head?_dropWhile_not (· == '/') p.text.toList.reverse
        simpa [kept] using this
      refine Or.inr ⟨cs.reverse, c, j, not_slash, by simpa [kept] using split, ?_⟩
      simp [dropSlashes, kept]

theorem startOf_append (cs : List Char) (c : Char) (j : Nat) (l : Location) :
    startOf ⟨String.ofList (cs ++ [c] ++ List.replicate j '/')⟩ l =
      startOf ⟨String.ofList (cs ++ [c])⟩ l := by
  cases cs <;> simp [startOf, Path.isAbsolute]

/-- The parts of a text that ends in another character than a slash end in a part that
is not empty; slashes behind it add empty parts. -/
theorem segments_append_slashes (cs : List Char) {c : Char} (h : c ≠ '/') :
    ∃ front last, last ≠ "" ∧
      ∀ j, segments ⟨String.ofList (cs ++ [c] ++ List.replicate j '/')⟩ =
        front ++ [last] ++ List.replicate j "" := by
  obtain ⟨front, word, spelt⟩ := splitFrom_concat h cs []
  refine ⟨front.map String.ofList, String.ofList (word ++ [c]), ?_, fun j => ?_⟩
  · intro empty
    have := congrArg String.toList empty
    simp at this
  · have parts : Path.parts (cs ++ [c]) = front ++ [word ++ [c]] := spelt
    rw [segments, String.toList_ofList, parts_append_slashes, parts]
    simp

theorem walkFrom_replicate_empty {last : LastPart} {n : Nat} {l : Location} (j : Nat) :
    walkFrom fs last n l (List.replicate j "") = .ok (.present l .directory) := by
  induction j with
  | zero => exact walkFrom_nil
  | succ j ih => rw [List.replicate_succ, walkFrom_idle (Or.inl rfl), ih]

/-! ## Making one directory -/

theorem way_of_absent {n : Nat} {l d : Location} {front : List String} {last name : String}
    (not_empty : last ≠ "") (h : walkFrom fs .keep n l (front ++ [last]) = .ok (.absent d name)) :
    last = name ∧ IsName name ∧ fs.node? (name :: d) = none ∧
      ∃ passed k, Way fs n l front passed k d := by
  have not_idle : [last].all (· = "") = false := by simpa using not_empty
  obtain ⟨passed, k, m, way⟩ := exists_way_of_walkFrom not_idle h
  rw [way.walkFrom_append not_idle] at h
  rcases part_cases last with idle | rfl | is_name | ⟨idle, up, long⟩
  · rw [walkFrom_idle idle, walkFrom_nil] at h
    cases h
  · rw [walkFrom_up, walkFrom_nil] at h
    cases h
  · rw [walkFrom_keep is_name] at h
    cases node : fs.node? (last :: m) with
    | none =>
        rw [node] at h
        obtain ⟨rfl, rfl⟩ := Spot.absent.inj (Except.ok.inj h)
        exact ⟨rfl, is_name, node, passed, k, way⟩
    | some kept =>
        rw [node] at h
        cases h
  · rw [walkFrom_long idle up long (by simp)] at h
    cases h

theorem way_replicate_empty {n k : Nat} {l m : Location} {parts : List String} (j : Nat)
    (way : Way fs n l parts passed k m) :
    Way fs n l (parts ++ List.replicate j "") passed k m := by
  induction j generalizing parts with
  | zero => simpa using way
  | succ j ih =>
      rw [List.replicate_succ, ← List.singleton_append, ← List.append_assoc]
      exact ih way.concat_empty

theorem mkdir_eq_ok (h : fs.mkdir p = .ok made) :
    ∃ l passed, fs.node? l = none ∧ made = fs.put l .directory ∧ made.Leads p passed l := by
  unfold mkdir at h
  cases found : fs.walk .keep (dropSlashes p) with
  | error fault =>
      rw [found] at h
      cases h
  | ok spot =>
      rw [found] at h
      cases spot with
      | present l node => cases h
      | absent d name =>
          obtain rfl := Except.ok.inj h
          rw [walk_eq (checkPath_of_walk found)] at found
          rcases dropSlashes_cases p with ⟨j, spelt, same⟩ | ⟨cs, c, j, not_slash, spelt, same⟩
          · -- nothing but slashes leads to the root, where nothing is free
            have parts : segments p = List.replicate (j + 1) "" := by
              rw [segments, spelt]
              simpa [Path.parts, Path.splitFrom, List.replicate_succ] using
                congrArg (List.map String.ofList) (parts_append_slashes [] j)
            rw [same, parts, walkFrom_replicate_empty] at found
            cases found
          · obtain ⟨front, last, not_empty, parts⟩ := segments_append_slashes cs not_slash
            obtain rfl : p = ⟨String.ofList (cs ++ [c] ++ List.replicate j '/')⟩ := by
              rw [← spelt, String.ofList_toList]
            have kept := parts 0
            simp only [List.replicate_zero, List.append_nil] at kept
            rw [same, kept] at found
            obtain ⟨rfl, is_name, free, passed, k, way⟩ := way_of_absent not_empty found
            refine ⟨last :: d, passed ++ [last :: d], free, rfl, k, ?_⟩
            rw [startOf_append, parts j]
            have fresh : last :: d ∉ passed := by
              intro hx
              rcases (way.passed_node _ hx).2 with node | ⟨target, node⟩
              · cases free.symm.trans node
              · cases free.symm.trans node
            have down : Way (fs.put (last :: d) .directory) k d [last] [last :: d] k (last :: d) :=
              .down is_name (node?_put_self _ (List.cons_ne_nil _ _)) .here
            exact way_replicate_empty j ((way.put fresh).append down)

/-! ## Making directories one after another -/

theorem MakesWay.refl (fs : FileSystem) (p : Path) : MakesWay fs fs p :=
  ⟨rfl, fun _ => Or.inl rfl⟩

theorem MakesWay.leads {q : Path} (h : MakesWay fs made p) (leads : fs.Leads q passed there) :
    made.Leads q passed there := by
  refine leads.frame h.workDir fun x hx => ?_
  rcases h.node x with same | ⟨free, -⟩
  · exact same
  · rcases (leads.passed_node x hx).2 with node | ⟨target, node⟩
    · cases free.symm.trans node
    · cases free.symm.trans node

theorem MakesWay.trans {fs₁ fs₂ : FileSystem} (h : MakesWay fs fs₁ p) (h' : MakesWay fs₁ fs₂ p) :
    MakesWay fs fs₂ p := by
  refine ⟨h'.workDir.trans h.workDir, fun l => ?_⟩
  rcases h.node l with same | ⟨free, stands, q, passed, above, leads⟩
  · rcases h'.node l with same' | ⟨free', stands'⟩
    · exact Or.inl (same'.trans same)
    · exact Or.inr ⟨same ▸ free', stands'⟩
  · refine Or.inr ⟨free, ?_, q, passed, above, h'.leads leads⟩
    rcases h'.node l with same' | ⟨free', -⟩
    · exact same'.trans stands
    · cases free'.symm.trans stands

theorem MakesWay.of_mkdir {q : Path} (above : p.Above q) (h : fs.mkdir q = .ok made) :
    MakesWay fs made p := by
  obtain ⟨l, passed, free, rfl, leads⟩ := mkdir_eq_ok h
  refine ⟨rfl, fun m => ?_⟩
  by_cases here : l = m
  · subst here
    have below : l ≠ [] := by
      rintro rfl
      cases node?_root.symm.trans free
    exact Or.inr ⟨free, node?_put_self _ below, q, passed, above, leads⟩
  · exact Or.inl (node?_put_of_ne _ here)

/-- Going up makes at most one directory, and leaves parents of the path to make. -/
theorem makesWay_of_mkdirUpwards :
    ∀ {n : Nat} {q : Path} {below rest : List Path},
      p.Above q → (∀ x ∈ below, p.Above x) →
      fs.mkdirUpwards n q below = .ok (made, rest) →
      MakesWay fs made p ∧ ∀ x ∈ rest, p.Above x := by
  intro n
  induction n with
  | zero =>
      intro q below rest _ hbelow h
      obtain ⟨rfl, rfl⟩ := Prod.mk.inj (Except.ok.inj h)
      exact ⟨.refl _ _, hbelow⟩
  | succ n ih =>
      intro q below rest above hbelow h
      -- at a directory that stands, or where there is no parent, the search ends with nothing made
      have stop : (.ok (fs, below) : Except Fault (FileSystem × List Path)) = .ok (made, rest) →
          MakesWay fs made p ∧ ∀ x ∈ rest, p.Above x := by
        intro h
        obtain ⟨rfl, rfl⟩ := Prod.mk.inj (Except.ok.inj h)
        exact ⟨.refl _ _, hbelow⟩
      rw [mkdirUpwards] at h
      split at h
      · exact stop h
      · split at h
        · exact stop h
        · next up parent =>
            split at h
            · next fs' step =>
                obtain ⟨rfl, rfl⟩ := Prod.mk.inj (Except.ok.inj h)
                exact ⟨.of_mkdir above step, hbelow⟩
            · refine ih (.parent above parent) (fun x hx => ?_) h
              rcases List.mem_cons.mp hx with rfl | hx
              · exact above
              · exact hbelow x hx
            · split at h
              · exact stop h
              · cases h
            · cases h

theorem makesWay_mkdirDownwards :
    ∀ {rest : List Path} {fs : FileSystem}, (∀ x ∈ rest, p.Above x) →
      MakesWay fs (fs.mkdirDownwards rest).2 p := by
  intro rest
  induction rest with
  | nil => intro fs _; exact .refl _ _
  | cons q rest ih =>
      intro fs above
      have above' : ∀ x ∈ rest, p.Above x := fun x hx => above x (List.mem_cons_of_mem _ hx)
      rw [mkdirDownwards]
      split
      · next fs' step =>
          exact (MakesWay.of_mkdir (above q List.mem_cons_self) step).trans (ih above')
      · split
        · exact ih above'
        · exact .refl _ _

/-- Making a directory and those on the way to it does nothing else. -/
theorem makesWay_mkdirAll (fs : FileSystem) (p : Path) : MakesWay fs (fs.mkdirAll p).2 p := by
  unfold mkdirAll
  split
  · exact .refl _ _
  · next made rest up =>
      obtain ⟨makes, above⟩ :=
        makesWay_of_mkdirUpwards .self (fun x hx => absurd hx List.not_mem_nil) up
      exact makes.trans (makesWay_mkdirDownwards above)

theorem makesWay_of_mkdirAll {fs made : FileSystem} {result : Except Fault Unit}
    (makes : fs.mkdirAll p = (result, made)) : MakesWay fs made p := by
  have way := makesWay_mkdirAll fs p
  rwa [makes] at way

end FileSystem
end SpeechConfig
