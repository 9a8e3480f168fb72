/-
# `SpeechConfig.Proofs.FileSystem.Way` — the way a walk takes

## What is proved, with every binder written out

`FileSystem.walkFrom` answers with the end of a walk alone.  `Way` is the walk itself,
as far as it goes through directories:

    Way fs links here parts passed left there

says that from `here`, following at most `links` links, the parts lead to the
directory `there`, that `left` links could still be followed, and that the entries
looked up on the way were `passed`, in this order.

A walk over more parts is a way followed by a walk over the rest, in both
directions: `Way.walkFrom_append` and `exists_way_of_walkFrom`.  The rest must hold a
part that is not empty, because a walk treats its last part in its own manner.

## Why the entries are kept

A way depends on the file system through the entries it passed and through nothing
else: it survives every change elsewhere (`Way.frame`), and it is cut by a file put on
one of them (`Way.walkFrom_put`).  Whether a file written below a path can still be
read by that path is decided by these two lemmas.
-/
import SpeechConfig.FileSystem.Walk

namespace SpeechConfig.FileSystem

/-- A part that stands for an entry of a directory. -/
structure IsName (part : String) : Prop where
  not_empty : part ≠ ""
  not_here : part ≠ "."
  not_up : part ≠ ".."
  short : part.utf8ByteSize ≤ longestName

theorem IsName.not_idle {part : String} (h : IsName part) : ¬ (part = "" ∨ part = ".") :=
  not_or.mpr ⟨h.not_empty, h.not_here⟩

theorem up_not_idle : ¬ (".." = "" ∨ ".." = ".") := by
  decide

/-- From a place along parts to a directory; see the header. -/
inductive Way (fs : FileSystem) :
    Nat → Location → List String → List Location → Nat → Location → Prop
  | here {n : Nat} {l : Location} : Way fs n l [] [] n l
  | idle {n k : Nat} {l m : Location} {part : String} {rest : List String}
      {passed : List Location} :
      part = "" ∨ part = "." → Way fs n l rest passed k m → Way fs n l (part :: rest) passed k m
  | up {n k : Nat} {l m : Location} {rest : List String} {passed : List Location} :
      Way fs n l.tail rest passed k m → Way fs n l (".." :: rest) passed k m
  | down {n k : Nat} {l m : Location} {part : String} {rest : List String}
      {passed : List Location} :
      IsName part → fs.node? (part :: l) = some .directory →
      Way fs n (part :: l) rest passed k m →
      Way fs n l (part :: rest) ((part :: l) :: passed) k m
  | link {n k : Nat} {l m : Location} {part : String} {target : Path} {rest : List String}
      {passed : List Location} :
      IsName part → fs.node? (part :: l) = some (.link target) →
      Way fs n (startOf target l) (segments target ++ rest) passed k m →
      Way fs (n + 1) l (part :: rest) ((part :: l) :: passed) k m

/-- The path leads to a directory, past these entries. -/
def Leads (fs : FileSystem) (p : Path) (passed : List Location) (there : Location) : Prop :=
  ∃ left, Way fs linkLimit (startOf p fs.workDir) (segments p) passed left there

variable {fs : FileSystem} {last : LastPart} {n k : Nat} {l m : Location} {part : String}
  {parts rest more : List String} {passed : List Location}

/-! ## One part of a walk -/

theorem walkFrom_nil : walkFrom fs last n l [] = .ok (.present l .directory) := by
  cases n <;> rfl

theorem walkFrom_idle (h : part = "" ∨ part = ".") :
    walkFrom fs last n l (part :: rest) = walkFrom fs last n l rest := by
  cases n <;> simp only [walkFrom, advance, if_pos h]

theorem walkFrom_up : walkFrom fs last n l (".." :: rest) = walkFrom fs last n l.tail rest := by
  cases n <;> simp [walkFrom, advance]

/-- What a walk does at a link with parts behind it. -/
def followFrom (fs : FileSystem) (last : LastPart) :
    Nat → Location → Path → List String → Except Fault Spot
  | 0, _, _, _ => .error .tooManyLinks
  | n + 1, l, target, rest => walkFrom fs last n (startOf target l) (segments target ++ rest)

theorem walkFrom_eq_advance (n : Nat) :
    walkFrom fs last n = advance fs last (followFrom fs last n) := by
  cases n <;> rfl

theorem walkFrom_part (h : IsName part)
    (hrest : ¬ (last = .write ∧ rest ≠ [] ∧ rest.all (· = ""))) :
    walkFrom fs last n l (part :: rest) = match fs.node? (part :: l) with
      | none => if rest.all (· = "") then .ok (.absent l part) else .error .notFound
      | some .directory => walkFrom fs last n (part :: l) rest
      | some (.file content) =>
        if rest = [] then .ok (.present (part :: l) (.file content)) else .error .notDirectory
      | some (.link target) =>
        if rest = [] ∧ last = .keep then .ok (.present (part :: l) (.link target))
        else followFrom fs last n l target rest := by
  rw [walkFrom_eq_advance, advance, if_neg h.not_idle, if_neg h.not_up, if_neg hrest]
  exact if_neg (Nat.not_lt.mpr h.short)

theorem walkFrom_name (h : IsName part) (hrest : rest.all (· = "") = false) :
    walkFrom fs last n l (part :: rest) = match fs.node? (part :: l) with
      | none => .error .notFound
      | some .directory => walkFrom fs last n (part :: l) rest
      | some (.file _) => .error .notDirectory
      | some (.link target) => followFrom fs last n l target rest := by
  have not_last : rest ≠ [] := by
    rintro rfl
    cases hrest
  rw [walkFrom_part h (by simp [hrest])]
  cases fs.node? (part :: l) with
  | none => simp [hrest]
  | some node =>
      cases node with
      | directory => rfl
      | file content => simp [not_last]
      | link target => simp [not_last]

theorem walkFrom_keep (h : IsName part) :
    walkFrom fs .keep n l [part] = .ok (match fs.node? (part :: l) with
      | none => .absent l part
      | some node => .present (part :: l) node) := by
  rw [walkFrom_part h (by simp)]
  cases fs.node? (part :: l) with
  | none => rfl
  | some node =>
      cases node with
      | directory => exact walkFrom_nil
      | file content => rfl
      | link target => rfl

theorem walkFrom_file (h : IsName part) {content : ByteArray}
    (node : fs.node? (part :: l) = some (.file content)) :
    walkFrom fs last n l [part] = .ok (.present (part :: l) (.file content)) := by
  rw [walkFrom_part h (by simp), node]
  rfl

/-! ## Walks and ways -/

theorem all_append_eq_false (h : more.all (· = "") = false) (parts : List String) :
    (parts ++ more).all (· = "") = false := by
  rw [List.all_append, h, Bool.and_false]

theorem Way.walkFrom_append (way : Way fs n l parts passed k m)
    (hmore : more.all (· = "") = false) :
    walkFrom fs last n l (parts ++ more) = walkFrom fs last k m more := by
  induction way with
  | here => rfl
  | idle h _ ih => rw [List.cons_append, walkFrom_idle h, ih]
  | up _ ih => rw [List.cons_append, walkFrom_up, ih]
  | down h node _ ih =>
      rw [List.cons_append, walkFrom_name h (all_append_eq_false hmore _), node]
      exact ih
  | link h node _ ih =>
      rw [List.cons_append, walkFrom_name h (all_append_eq_false hmore _), node]
      simp only [followFrom]
      rw [← List.append_assoc, ih]

theorem part_cases (part : String) :
    (part = "" ∨ part = ".") ∨ part = ".." ∨ IsName part ∨
      (¬ (part = "" ∨ part = ".") ∧ part ≠ ".." ∧ longestName < part.utf8ByteSize) := by
  by_cases idle : part = "" ∨ part = "."
  · exact Or.inl idle
  · by_cases up : part = ".."
    · exact Or.inr (Or.inl up)
    · rcases Nat.lt_or_ge longestName part.utf8ByteSize with long | short
      · exact Or.inr (Or.inr (Or.inr ⟨idle, up, long⟩))
      · obtain ⟨not_empty, not_here⟩ := not_or.mp idle
        exact Or.inr (Or.inr (Or.inl ⟨not_empty, not_here, up, short⟩))

theorem walkFrom_long (idle : ¬ (part = "" ∨ part = ".")) (up : part ≠ "..")
    (long : longestName < part.utf8ByteSize)
    (hrest : ¬ (last = .write ∧ rest ≠ [] ∧ rest.all (· = ""))) :
    walkFrom fs last n l (part :: rest) = .error .nameTooLong := by
  rw [walkFrom_eq_advance, advance, if_neg idle, if_neg up, if_neg hrest, if_pos long]

/-- A walk that arrives has gone a way over all parts but the last ones, if that is so
behind every link. -/
theorem exists_way_of_links (hmore : more.all (· = "") = false) {spot : Spot}
    (links : ∀ {l : Location} {target : Path} {rest : List String},
      followFrom fs last n l target (rest ++ more) = .ok spot →
      ∃ left, n = left + 1 ∧
        ∃ passed k m, Way fs left (startOf target l) (segments target ++ rest) passed k m) :
    ∀ {parts : List String} {l : Location},
      walkFrom fs last n l (parts ++ more) = .ok spot →
      ∃ passed k m, Way fs n l parts passed k m := by
  intro parts
  induction parts with
  | nil => intro l _; exact ⟨[], n, l, .here⟩
  | cons part rest ih =>
      intro l h
      rw [List.cons_append] at h
      have hrest := all_append_eq_false hmore rest
      rcases part_cases part with idle | rfl | name | ⟨idle, up, long⟩
      · rw [walkFrom_idle idle] at h
        obtain ⟨passed, k, m, way⟩ := ih h
        exact ⟨passed, k, m, .idle idle way⟩
      · rw [walkFrom_up] at h
        obtain ⟨passed, k, m, way⟩ := ih h
        exact ⟨passed, k, m, .up way⟩
      · rw [walkFrom_name name hrest] at h
        split at h
        · cases h
        · next node =>
            obtain ⟨passed, k, m, way⟩ := ih h
            exact ⟨_, k, m, .down name node way⟩
        · cases h
        · next target node =>
            obtain ⟨left, rfl, passed, k, m, way⟩ := links h
            exact ⟨_, k, m, .link name node way⟩
      · rw [walkFrom_long idle up long (by simp [hrest])] at h
        cases h

theorem exists_way_of_walkFrom (hmore : more.all (· = "") = false) {spot : Spot} :
    ∀ {n : Nat} {l : Location} {parts : List String},
      walkFrom fs last n l (parts ++ more) = .ok spot →
      ∃ passed k m, Way fs n l parts passed k m := by
  -- on the links that may be followed: a target's parts take the place of the link,
  -- so the parts alone do not get fewer
  intro n
  induction n with
  | zero =>
      intro l parts h
      exact exists_way_of_links hmore (fun followed => by simp [followFrom] at followed) h
  | succ n ih =>
      intro l parts h
      refine exists_way_of_links hmore (fun followed => ⟨n, rfl, ?_⟩) h
      rw [followFrom, ← List.append_assoc] at followed
      exact ih followed

theorem Way.unique (way : Way fs n l parts passed k m) :
    ∀ {passed' : List Location} {k' : Nat} {m' : Location},
      Way fs n l parts passed' k' m' → passed = passed' ∧ k = k' ∧ m = m' := by
  induction way with
  | here => intro passed' k' m' other; cases other; exact ⟨rfl, rfl, rfl⟩
  | idle idle _ ih =>
      intro passed' k' m' other
      cases other with
      | idle _ other => exact ih other
      | up _ => exact absurd idle up_not_idle
      | down name _ _ => exact absurd idle name.not_idle
      | link name _ _ => exact absurd idle name.not_idle
  | up _ ih =>
      intro passed' k' m' other
      cases other with
      | idle idle _ => exact absurd idle up_not_idle
      | up other => exact ih other
      | down name _ _ => exact absurd rfl name.not_up
      | link name _ _ => exact absurd rfl name.not_up
  | down name node _ ih =>
      intro passed' k' m' other
      cases other with
      | idle idle _ => exact absurd idle name.not_idle
      | up _ => exact absurd rfl name.not_up
      | down _ _ other =>
          obtain ⟨rfl, rfl, rfl⟩ := ih other
          exact ⟨rfl, rfl, rfl⟩
      | link _ node' _ => cases node.symm.trans node'
  | link name node _ ih =>
      intro passed' k' m' other
      cases other with
      | idle idle _ => exact absurd idle name.not_idle
      | up _ => exact absurd rfl name.not_up
      | down _ node' _ => cases node.symm.trans node'
      | link _ node' other =>
          obtain ⟨rfl⟩ := Option.some.inj (node.symm.trans node')
          obtain ⟨rfl, rfl, rfl⟩ := ih other
          exact ⟨rfl, rfl, rfl⟩

/-! ## What a way depends on -/

theorem Way.passed_node (way : Way fs n l parts passed k m) :
    ∀ x ∈ passed, x ≠ [] ∧
      (fs.node? x = some .directory ∨ ∃ target, fs.node? x = some (.link target)) := by
  induction way with
  | here => intro x hx; exact absurd hx List.not_mem_nil
  | idle _ _ ih => exact ih
  | up _ ih => exact ih
  | down _ node _ ih =>
      intro x hx
      rcases List.mem_cons.mp hx with rfl | hx
      · exact ⟨List.cons_ne_nil _ _, Or.inl node⟩
      · exact ih x hx
  | link _ node _ ih =>
      intro x hx
      rcases List.mem_cons.mp hx with rfl | hx
      · exact ⟨List.cons_ne_nil _ _, Or.inr ⟨_, node⟩⟩
      · exact ih x hx

theorem Way.frame {fs' : FileSystem} (way : Way fs n l parts passed k m) :
    (∀ x ∈ passed, fs'.node? x = fs.node? x) → Way fs' n l parts passed k m := by
  induction way with
  | here => intro _; exact .here
  | idle idle _ ih => intro same; exact .idle idle (ih same)
  | up _ ih => intro same; exact .up (ih same)
  | down name node _ ih =>
      intro same
      exact .down name ((same _ List.mem_cons_self).trans node)
        (ih fun x hx => same x (List.mem_cons_of_mem _ hx))
  | link name node _ ih =>
      intro same
      exact .link name ((same _ List.mem_cons_self).trans node)
        (ih fun x hx => same x (List.mem_cons_of_mem _ hx))

theorem Way.put {x : Location} {node : Node} (way : Way fs n l parts passed k m)
    (h : x ∉ passed) : Way (fs.put x node) n l parts passed k m :=
  way.frame fun _ hy => node?_put_of_ne node (fun same => h (same ▸ hy))

/-- A file put on an entry that was passed cuts every walk that goes on from there. -/
theorem Way.walkFrom_put {x : Location} {content : ByteArray}
    (way : Way fs n l parts passed k m) (hmore : more.all (· = "") = false) :
    x ∈ passed →
      walkFrom (fs.put x (.file content)) last n l (parts ++ more) = .error .notDirectory := by
  induction way with
  | here => intro hx; exact absurd hx List.not_mem_nil
  | idle idle _ ih => intro hx; rw [List.cons_append, walkFrom_idle idle, ih hx]
  | up _ ih => intro hx; rw [List.cons_append, walkFrom_up, ih hx]
  | @down n k l m part rest passed name node _ ih =>
      intro hx
      rw [List.cons_append, walkFrom_name name (all_append_eq_false hmore _)]
      by_cases here : x = part :: l
      · rw [here, node?_put_self _ (List.cons_ne_nil _ _)]
      · rw [node?_put_of_ne _ here, node]
        exact ih ((List.mem_cons.mp hx).resolve_left here)
  | @link n k l m part target rest passed name node _ ih =>
      intro hx
      rw [List.cons_append, walkFrom_name name (all_append_eq_false hmore _)]
      by_cases here : x = part :: l
      · rw [here, node?_put_self _ (List.cons_ne_nil _ _)]
      · rw [node?_put_of_ne _ here, node]
        simp only [followFrom]
        rw [← List.append_assoc]
        exact ih ((List.mem_cons.mp hx).resolve_left here)

theorem Way.not_put {x : Location} {content : ByteArray} {k' : Nat} {m' : Location}
    {passed' : List Location} (way : Way fs n l parts passed k m) (hx : x ∈ passed) :
    ¬ Way (fs.put x (.file content)) n l parts passed' k' m' := by
  intro other
  have cut : walkFrom (fs.put x (.file content)) .follow n l (parts ++ ["."]) =
      .error .notDirectory :=
    way.walkFrom_put (by decide) hx
  rw [other.walkFrom_append (by decide), walkFrom_idle (Or.inr rfl), walkFrom_nil] at cut
  cases cut

/-! ## Parts that do nothing -/

theorem Way.append {j : Nat} {r : Location} {passed' : List Location} {parts' : List String}
    (way : Way fs n l parts passed k m) (more : Way fs k m parts' passed' j r) :
    Way fs n l (parts ++ parts') (passed ++ passed') j r := by
  induction way with
  | here => exact more
  | idle idle _ ih => exact .idle idle (ih more)
  | up _ ih => exact .up (ih more)
  | down name node _ ih => exact .down name node (ih more)
  | link name node _ ih => exact .link name node (by simpa using ih more)

theorem Way.concat_empty (way : Way fs n l parts passed k m) :
    Way fs n l (parts ++ [""]) passed k m := by
  simpa using way.append (.idle (Or.inl rfl) .here)

/-- An empty part at the end leads nowhere else. -/
theorem Way.of_concat_empty (way : Way fs n l (parts ++ [""]) passed k m) :
    Way fs n l parts passed k m := by
  have arrives :
      walkFrom fs .follow n l (parts ++ [""] ++ ["."]) = .ok (.present m .directory) := by
    rw [way.walkFrom_append (by decide), walkFrom_idle (Or.inr rfl), walkFrom_nil]
  rw [List.append_assoc] at arrives
  obtain ⟨passed', k', m', front⟩ := exists_way_of_walkFrom (by decide) arrives
  obtain ⟨rfl, rfl, rfl⟩ := way.unique front.concat_empty
  exact front

end SpeechConfig.FileSystem
