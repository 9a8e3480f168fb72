/-
# `SpeechConfig.Proofs.FileSystem.Standing` — a directory that stands, and one that is cut off

## What is proved, with every binder written out

For every file system, path `p`, entries `passed`, place `there`, entry `x` and content:

    fs.Leads p passed there → fs.mkdirAll p = (.ok (), fs)
    fs.Leads p passed there → x ∈ passed →
      ∃ fault, (fs.put x (.file content)).mkdirAll p =
        (.error fault, fs.put x (.file content))

if the path can be looked up at all, or is empty.  So to make a directory that stands changes
nothing; and where a file was put on an entry that the path passes, the directory cannot be
made again, and what is there stays as it is.

## What decides both

The directory is looked for once, with a link in its last place kept, and if something is
found there a second time, with the link followed.  On a way that stands the first look finds
something and the second a directory; on a way that is cut, the first finds something or hits
the file, and the second finds no directory.
-/
import SpeechConfig.Proofs.FileSystem.Making

namespace SpeechConfig.FileSystem

variable {fs : FileSystem} {last : LastPart} {n k : Nat} {l m x there : Location}
  {part : String} {parts rest : List String} {passed : List Location} {p : Path} {node : Node}
  {content : ByteArray}

/-! ## What stands already -/

theorem put_of_node? (below : l ≠ []) (stands : fs.node? l = some node) : fs.put l node = fs := by
  have present : fs.nodes[l]? = some node := by
    rwa [node?, if_neg below] at stands
  have nodes : fs.nodes.insert l node = fs.nodes := by
    apply Std.ExtTreeMap.ext_getElem?
    intro m
    rw [Std.ExtTreeMap.getElem?_insert]
    split
    · next same => rw [← Std.LawfulEqCmp.eq_of_compare same, present]
    · rfl
  rw [put, nodes]

/-! ## Walks that end where a way does -/

/-- A walk that is given no more than a way to go finds something at its end; if it follows
links to the last, it finds the directory. -/
theorem Way.walkFrom_self (way : Way fs n l parts passed k m) (last : LastPart)
    (reading : last ≠ .write) :
    ∃ y node, walkFrom fs last n l parts = .ok (.present y node) ∧
      (last = .follow → node = .directory) := by
  induction way with
  | here => exact ⟨_, _, walkFrom_nil, fun _ => rfl⟩
  | idle idle _ ih => rwa [walkFrom_idle idle]
  | up _ ih => rwa [walkFrom_up]
  | down name stands _ ih =>
      rw [walkFrom_part name (by simp [reading]), stands]
      exact ih
  | link name stands _ ih =>
      rw [walkFrom_part name (by simp [reading]), stands]
      dsimp only
      split
      · next kept => exact ⟨_, _, rfl, fun follow => nomatch kept.2.symm.trans follow⟩
      · exact ih

/-- The walk does not get past a file, and finds no directory. -/
def Blocked (ending : Except Fault Spot) : Prop :=
  ending = .error .notDirectory ∨ ∃ y node, ending = .ok (.present y node) ∧ node ≠ .directory

theorem blocked_of_file (name : IsName part) (reading : last ≠ .write)
    (stands : fs.node? (part :: l) = some (.file content)) :
    Blocked (walkFrom fs last n l (part :: rest)) := by
  rw [walkFrom_part name (by simp [reading]), stands]
  dsimp only
  split
  · exact Or.inr ⟨_, _, rfl, by simp⟩
  · exact Or.inl rfl

/-- Behind a file put on an entry that was passed, such a walk is blocked. -/
theorem Way.blocked_put (way : Way fs n l parts passed k m) (reading : last ≠ .write) :
    x ∈ passed → Blocked (walkFrom (fs.put x (.file content)) last n l parts) := by
  induction way with
  | here => intro hx; exact absurd hx List.not_mem_nil
  | idle idle _ ih => rwa [walkFrom_idle idle]
  | up _ ih => rwa [walkFrom_up]
  | @down n k l m part rest passed name stands _ ih =>
      intro hx
      by_cases here : x = part :: l
      · subst here
        exact blocked_of_file name reading (node?_put_self _ (List.cons_ne_nil _ _))
      · rw [walkFrom_part name (by simp [reading]), node?_put_of_ne _ here, stands]
        exact ih ((List.mem_cons.mp hx).resolve_left here)
  | @link n k l m part target rest passed name stands _ ih =>
      intro hx
      by_cases here : x = part :: l
      · subst here
        exact blocked_of_file name reading (node?_put_self _ (List.cons_ne_nil _ _))
      · rw [walkFrom_part name (by simp [reading]), node?_put_of_ne _ here, stands]
        dsimp only
        split
        · exact Or.inr ⟨_, _, rfl, by simp⟩
        · exact ih ((List.mem_cons.mp hx).resolve_left here)

theorem Way.passed_of_idle (way : Way fs n l parts passed k m)
    (idle : ∀ part ∈ parts, part = "" ∨ part = ".") : passed = [] := by
  induction way with
  | here => rfl
  | idle _ _ ih => exact ih fun part h => idle part (List.mem_cons_of_mem _ h)
  | up _ _ => exact absurd (idle _ List.mem_cons_self) (by decide)
  | down name _ _ _ =>
      exact absurd (idle _ List.mem_cons_self) name.not_idle
  | link name _ _ _ =>
      exact absurd (idle _ List.mem_cons_self) name.not_idle

theorem Way.of_replicate_empty {j : Nat}
    (way : Way fs n l (parts ++ List.replicate j "") passed k m) :
    Way fs n l parts passed k m := by
  induction j with
  | zero => simpa using way
  | succ j ih =>
      rw [List.replicate_succ', ← List.append_assoc] at way
      exact ih way.of_concat_empty

/-! ## Paths that can be looked up -/

theorem checkPath_eq_ok_iff : checkPath p = .ok () ↔
    '\x00' ∉ p.text.toList ∧ p.text ≠ "" ∧ p.text.utf8ByteSize < pathLimit := by
  unfold checkPath
  by_cases nul : '\x00' ∈ p.text.toList
  · simp [nul]
  · by_cases empty : p.text = ""
    · simp [empty]
    · by_cases long : pathLimit ≤ p.text.utf8ByteSize
      · simp [nul, empty, long]
      · simp [nul, empty, long, Nat.lt_of_not_le long]

theorem checkPath_of_append {q : Path} (more : String) (text : p.text = q.text ++ more)
    (something : q.text ≠ "") (h : checkPath p = .ok ()) : checkPath q = .ok () := by
  rw [checkPath_eq_ok_iff, text, String.toList_append, String.utf8ByteSize_append] at h
  obtain ⟨nul, -, short⟩ := h
  exact checkPath_eq_ok_iff.mpr
    ⟨fun mem => nul (List.mem_append_left _ mem), something, Nat.lt_of_le_of_lt (by omega) short⟩

theorem checkPath_of_join {name : String} (h : IsEntryName name) (something : p.text ≠ "")
    (admitted : checkPath (p.join name) = .ok ()) : checkPath p = .ok () := by
  unfold Path.join at admitted
  rw [if_neg h.head] at admitted
  split at admitted
  · exact checkPath_of_append name rfl something admitted
  · exact checkPath_of_append ("/" ++ name) String.append_assoc something admitted

theorem checkPath_dropSlashes (h : checkPath p = .ok ()) :
    checkPath (dropSlashes p) = .ok () := by
  rcases dropSlashes_cases p with ⟨j, -, same⟩ | ⟨cs, c, j, -, spelt, same⟩
  · rwa [same]
  · rw [same]
    refine checkPath_of_append (String.ofList (List.replicate j '/')) ?_ ?_ h
    · rw [← String.ofList_append, ← spelt, String.ofList_toList]
    · intro empty
      have := congrArg String.toList empty
      simp at this

theorem Leads.dropSlashes (leads : fs.Leads p passed there) :
    fs.Leads (FileSystem.dropSlashes p) passed there := by
  rcases dropSlashes_cases p with ⟨j, -, same⟩ | ⟨cs, c, j, not_slash, spelt, same⟩
  · rwa [same]
  · obtain ⟨front, last, -, parts⟩ := segments_append_slashes cs not_slash
    obtain rfl : p = ⟨String.ofList (cs ++ [c] ++ List.replicate j '/')⟩ := by
      rw [← spelt, String.ofList_toList]
    have kept := parts 0
    simp only [List.replicate_zero, List.append_nil] at kept
    obtain ⟨left, way⟩ := leads
    rw [startOf_append, parts j] at way
    rw [same]
    refine ⟨left, ?_⟩
    rw [kept]
    exact way.of_replicate_empty

/-! ## Paths of which nothing is passed -/

theorem stem_cases (cs : List Char) :
    (∃ rest, cs = '/' :: rest ∧ Path.stem cs = (['/'], rest)) ∨ (Path.stem cs).1 = ['.'] ∨
      Path.stem cs = ([], cs) := by
  fun_cases Path.stem cs with
  | case1 rest => exact Or.inl ⟨rest, rfl, rfl⟩
  | case2 => exact Or.inr (Or.inl rfl)
  | case3 rest => exact Or.inr (Or.inl rfl)
  | case4 => exact Or.inr (Or.inr rfl)

theorem idle_of_parent? (none : p.parent? = none) :
    ∀ part ∈ segments p, part = "" ∨ part = "." := by
  have idle : ∀ part ∈ Path.parts p.text.toList, Path.isIdle part = true := by
    rw [Path.parent?] at none
    have body : (Path.stem p.text.toList).1 ≠ ['.'] ∧
        ∀ part ∈ Path.parts (Path.stem p.text.toList).2, Path.isIdle part = true := by
      dsimp only at none
      split at none
      · cases none
      · next nothing =>
          refine ⟨fun here => by simp [here] at none, fun part h => ?_⟩
          exact List.dropWhile_eq_nil_iff.mp nothing part (List.mem_reverse.mpr h)
    rcases stem_cases p.text.toList with ⟨rest, spelt, stem⟩ | here | stem
    · rw [stem] at body
      rw [spelt, show '/' :: rest = [] ++ '/' :: rest from rfl, Path.parts_append_slash]
      intro part h
      rcases List.mem_append.mp h with h | h
      · obtain rfl := List.mem_singleton.mp h
        rfl
      · exact body.2 part h
    · exact absurd here body.1
    · rw [stem] at body
      exact body.2
  intro part h
  obtain ⟨chars, mem, rfl⟩ := List.mem_map.mp h
  have empty_or_here : chars = [] ∨ chars = ['.'] := by
    simpa [Path.isIdle] using idle chars mem
  rcases empty_or_here with rfl | rfl
  · exact Or.inl rfl
  · exact Or.inr rfl

theorem Leads.passed_of_parent? (leads : fs.Leads p passed there) (none : p.parent? = none) :
    passed = [] := by
  obtain ⟨_, way⟩ := leads
  exact way.passed_of_idle (idle_of_parent? none)

theorem Leads.text_ne_empty (leads : fs.Leads p passed there) (hx : x ∈ passed) :
    p.text ≠ "" := by
  intro empty
  have none : p.parent? = none := by
    obtain ⟨text⟩ := p
    subst empty
    decide
  rw [leads.passed_of_parent? none] at hx
  exact absurd hx List.not_mem_nil

/-! ## Making a directory -/

theorem mkdir_of_leads (leads : fs.Leads p passed there) (admitted : checkPath p = .ok ()) :
    fs.mkdir p = .error .exists ∧ fs.isDirectory p = true := by
  obtain ⟨_, way'⟩ := leads.dropSlashes
  obtain ⟨_, way⟩ := leads
  obtain ⟨l, node, found, directory⟩ := way.walkFrom_self .follow (by decide)
  obtain ⟨l', node', found', -⟩ := way'.walkFrom_self .keep (by decide)
  obtain rfl := directory rfl
  constructor
  · rw [mkdir, walk_eq (checkPath_dropSlashes admitted), found']
    rfl
  · rw [isDirectory, walk_eq admitted, found]

theorem mkdir_of_blocked {fs : FileSystem}
    (kept : Blocked (fs.walk .keep (FileSystem.dropSlashes p))) :
    fs.mkdir p = .error .notDirectory ∨ fs.mkdir p = .error .exists := by
  rw [mkdir]
  rcases kept with found | ⟨y, node, found, -⟩
  · rw [found]
    exact Or.inl rfl
  · rw [found]
    exact Or.inr rfl

theorem isDirectory_of_blocked {fs : FileSystem} (followed : Blocked (fs.walk .follow p)) :
    fs.isDirectory p = false := by
  rw [isDirectory]
  rcases followed with found | ⟨y, node, found, other⟩
  · rw [found]
  · rw [found]
    cases node with
    | directory => exact absurd rfl other
    | file _ => rfl
    | link _ => rfl

theorem Leads.mkdirAll (leads : fs.Leads p passed there)
    (admitted : p.text ≠ "" → checkPath p = .ok ()) : fs.mkdirAll p = (.ok (), fs) := by
  have up : fs.mkdirUpwards (p.text.length + 1) p [] = .ok (fs, []) := by
    rw [mkdirUpwards]
    split
    · rfl
    · next something =>
        split
        · rfl
        · obtain ⟨stands, directory⟩ := mkdir_of_leads leads (admitted (by simpa using something))
          rw [stands]
          simp [directory]
  rw [FileSystem.mkdirAll, up]
  rfl

/-- Where a file was put on an entry that the path passes, the directory cannot be made, and
nothing is changed. -/
theorem Leads.mkdirAll_put (leads : fs.Leads p passed there) (hx : x ∈ passed)
    (admitted : checkPath p = .ok ()) :
    ∃ fault, (fs.put x (.file content)).mkdirAll p =
      (.error fault, fs.put x (.file content)) := by
  obtain ⟨_, way'⟩ := leads.dropSlashes
  have nothing := leads.passed_of_parent?
  obtain ⟨_, way⟩ := leads
  have followed : Blocked ((fs.put x (.file content)).walk .follow p) := by
    rw [walk_eq admitted]
    exact way.blocked_put (by decide) hx
  have kept : Blocked ((fs.put x (.file content)).walk .keep (FileSystem.dropSlashes p)) := by
    rw [walk_eq (checkPath_dropSlashes admitted)]
    exact way'.blocked_put (by decide) hx
  have up : ∃ fault,
      (fs.put x (.file content)).mkdirUpwards (p.text.length + 1) p [] = .error fault := by
    rw [mkdirUpwards, if_neg (by simpa using (checkPath_eq_ok_iff.mp admitted).2.1)]
    split
    · next none =>
        rw [nothing none] at hx
        exact absurd hx List.not_mem_nil
    · rcases mkdir_of_blocked kept with hit | found
      · rw [hit]
        exact ⟨_, rfl⟩
      · rw [found]
        simp [isDirectory_of_blocked followed]
  obtain ⟨fault, up⟩ := up
  rw [FileSystem.mkdirAll, up]
  exact ⟨fault, rfl⟩

end SpeechConfig.FileSystem
