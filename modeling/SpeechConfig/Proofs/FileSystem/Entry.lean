/-
# `SpeechConfig.Proofs.FileSystem.Entry` — entries of the directory a path leads to

## What is proved, with every binder written out

For every path `dir`, however it is spelt, and every name of an entry:

    fs.replace (dir.join name) content = .ok fs'
      ↔ the joined path and the name are not too long, and for some passed, there:
          fs.Leads dir passed there, no directory stands at name :: there,
          and fs' is fs with the file put there

and the file at `name :: there` is what `read (dir.join name)` reads.  The joined path
is spelt in three ways — behind an empty path, behind a slash, behind anything
else — but its parts are those of `dir`, up to an empty part at the end, and then the
name (`segments_join`).
-/
import SpeechConfig.FileSystem.Operations
import SpeechConfig.Proofs.FileSystem.Way

namespace SpeechConfig

/-! ## Parts of a joined path -/

namespace Path

theorem splitFrom_of_not_mem :
    ∀ {cs part : List Char}, '/' ∉ cs → splitFrom part cs = [part.reverse ++ cs] := by
  intro cs
  induction cs with
  | nil => intro part _; simp [splitFrom]
  | cons c cs ih =>
      intro part h
      obtain ⟨not_slash, rest⟩ := not_or.mp (mt List.mem_cons.mpr h)
      rw [splitFrom, if_neg (Ne.symm not_slash), ih rest]
      simp

theorem splitFrom_append_slash (ds : List Char) :
    ∀ (cs part : List Char), splitFrom part (cs ++ '/' :: ds) = splitFrom part cs ++ parts ds := by
  intro cs
  induction cs with
  | nil => intro part; simp [splitFrom, parts]
  | cons c cs ih =>
      intro part
      by_cases slash : c = '/'
      · simp [splitFrom, slash, ih]
      · simp [splitFrom, slash, ih]

theorem parts_append_slash (cs ds : List Char) :
    parts (cs ++ '/' :: ds) = parts cs ++ parts ds :=
  splitFrom_append_slash ds cs []

theorem parts_of_not_mem {cs : List Char} (h : '/' ∉ cs) : parts cs = [cs] := by
  rw [parts, splitFrom_of_not_mem h]
  simp

end Path

namespace FileSystem

/-- A name for an entry of a directory; it may still be too long. -/
structure IsEntryName (name : String) : Prop where
  not_empty : name ≠ ""
  not_here : name ≠ "."
  not_up : name ≠ ".."
  no_slash : '/' ∉ name.toList

variable {fs fs' : FileSystem} {dir : Path} {name : String} {content : ByteArray}
  {passed : List Location} {there : Location} {last : LastPart}

theorem IsEntryName.isName (h : IsEntryName name) (short : name.utf8ByteSize ≤ longestName) :
    IsName name :=
  ⟨h.not_empty, h.not_here, h.not_up, short⟩

theorem IsEntryName.not_idle (h : IsEntryName name) : ¬ (name = "" ∨ name = ".") :=
  not_or.mpr ⟨h.not_empty, h.not_here⟩

theorem IsEntryName.head (h : IsEntryName name) : name.toList.head? ≠ some '/' := by
  intro slash
  exact h.no_slash (List.mem_of_head? slash)

theorem IsEntryName.parts (h : IsEntryName name) : Path.parts name.toList = [name.toList] :=
  Path.parts_of_not_mem h.no_slash

theorem segments_join (dir : Path) (h : IsEntryName name) :
    ∃ front, segments (dir.join name) = front ++ [name] ∧
      (segments dir = front ∨ segments dir = front ++ [""]) := by
  unfold Path.join
  rw [if_neg h.head]
  by_cases empty : dir.text = ""
  · refine ⟨[], ?_, Or.inr ?_⟩
    · simp [segments, empty, h.parts]
    · simp [segments, empty, Path.parts, Path.splitFrom]
  · by_cases slash : dir.text.toList.getLast? = some '/'
    · obtain ⟨cs, hcs⟩ := List.getLast?_eq_some_iff.mp slash
      refine ⟨(Path.parts cs).map String.ofList, ?_, Or.inr ?_⟩
      · rw [if_pos (by simp [slash])]
        simp [segments, hcs, Path.parts_append_slash, h.parts]
      · rw [segments, hcs, Path.parts_append_slash]
        simp [Path.parts, Path.splitFrom]
    · refine ⟨segments dir, ?_, Or.inl rfl⟩
      rw [if_neg (by simp [slash, empty])]
      simp [segments, Path.parts_append_slash, h.parts]

theorem startOf_join (dir : Path) (h : IsEntryName name) (l : Location) :
    startOf (dir.join name) l = startOf dir l := by
  have same : (dir.join name).isAbsolute = dir.isAbsolute := by
    unfold Path.join Path.isAbsolute
    rw [if_neg h.head]
    by_cases empty : dir.text = ""
    · simp [empty, h.head]
    · obtain ⟨c, cs, hcs⟩ :=
        List.exists_cons_of_ne_nil (l := dir.text.toList) (by simpa using empty)
      split
      · simp [hcs]
      · simp [hcs]
  rw [startOf, startOf, same]

/-! ## Walks along a joined path -/

theorem walk_eq {p : Path} (h : checkPath p = .ok ()) :
    fs.walk last p = walkFrom fs last linkLimit (startOf p fs.workDir) (segments p) := by
  rw [walk, h]
  rfl

theorem checkPath_of_walk {p : Path} {spot : Spot} (h : fs.walk last p = .ok spot) :
    checkPath p = .ok () := by
  cases admitted : checkPath p with
  | ok _ => rfl
  | error fault =>
      rw [walk, admitted] at h
      cases h

theorem walkFrom_too_long (h : IsEntryName name) (long : longestName < name.utf8ByteSize)
    (n : Nat) (l : Location) : walkFrom fs last n l [name] = .error .nameTooLong :=
  walkFrom_long h.not_idle h.not_up long fun slashes => slashes.2.1 rfl

theorem name_not_idle (h : IsEntryName name) : [name].all (· = "") = false := by
  simpa using h.not_empty

/-- The parts of a joined path before the name go the way of the path. -/
theorem Leads.front_join (leads : fs.Leads dir passed there) (h : IsEntryName name) :
    ∃ front left, segments (dir.join name) = front ++ [name] ∧
      Way fs linkLimit (startOf (dir.join name) fs.workDir) front passed left there := by
  obtain ⟨left, way⟩ := leads
  obtain ⟨front, spelt, same⟩ := segments_join dir h
  refine ⟨front, left, spelt, ?_⟩
  rw [startOf_join dir h]
  rcases same with same | same
  · exact same ▸ way
  · exact (same ▸ way).of_concat_empty

theorem Leads.walk_join (leads : fs.Leads dir passed there) (h : IsEntryName name)
    (admitted : checkPath (dir.join name) = .ok ()) (last : LastPart) :
    ∃ left, fs.walk last (dir.join name) = walkFrom fs last left there [name] := by
  obtain ⟨front, left, spelt, way⟩ := leads.front_join h
  refine ⟨left, ?_⟩
  rw [walk_eq admitted, spelt, way.walkFrom_append (name_not_idle h)]

theorem leads_of_walk_join (h : IsEntryName name) {spot : Spot}
    (found : fs.walk last (dir.join name) = .ok spot) :
    ∃ passed there, fs.Leads dir passed there := by
  obtain ⟨front, spelt, same⟩ := segments_join dir h
  rw [walk_eq (checkPath_of_walk found), spelt, startOf_join dir h] at found
  obtain ⟨passed, left, there, way⟩ := exists_way_of_walkFrom (name_not_idle h) found
  refine ⟨passed, there, left, ?_⟩
  rcases same with same | same
  · exact same ▸ way
  · exact same ▸ way.concat_empty

theorem Leads.unique {passed' : List Location} {there' : Location}
    (leads : fs.Leads dir passed there) (leads' : fs.Leads dir passed' there') :
    passed = passed' ∧ there = there' := by
  obtain ⟨_, way⟩ := leads
  obtain ⟨_, way'⟩ := leads'
  obtain ⟨same, -, same'⟩ := way.unique way'
  exact ⟨same, same'⟩

theorem Leads.passed_node (leads : fs.Leads dir passed there) :
    ∀ x ∈ passed, x ≠ [] ∧
      (fs.node? x = some .directory ∨ ∃ target, fs.node? x = some (.link target)) := by
  obtain ⟨_, way⟩ := leads
  exact way.passed_node

theorem Leads.frame (leads : fs.Leads dir passed there) (workDir : fs'.workDir = fs.workDir)
    (same : ∀ x ∈ passed, fs'.node? x = fs.node? x) : fs'.Leads dir passed there := by
  obtain ⟨left, way⟩ := leads
  exact ⟨left, workDir ▸ way.frame same⟩

theorem Leads.put {x : Location} {node : Node} (leads : fs.Leads dir passed there)
    (h : x ∉ passed) : (fs.put x node).Leads dir passed there := by
  obtain ⟨left, way⟩ := leads
  exact ⟨left, way.put h⟩

/-! ## Replacing and reading an entry -/

/-- The place where a file at a path comes to stand.  What stands there may be replaced,
unless it is a directory. -/
def landing (fs : FileSystem) (p : Path) : Except Fault Location := do
  match ← fs.walk .keep p with
  | .present _ .directory => .error .isDirectory
  | .present l _ => .ok l
  | .absent dir name => .ok (name :: dir)

theorem replace_eq_landing {p : Path} :
    fs.replace p content = (fs.landing p).map fun l => fs.put l (.file content) := by
  unfold replace landing
  cases fs.walk .keep p with
  | error fault => rfl
  | ok spot =>
      cases spot with
      | absent dir name => rfl
      | present l node =>
          cases node with
          | directory => rfl
          | file old => rfl
          | link target => rfl

theorem landing_join_eq_ok_iff (h : IsEntryName name) {l : Location} :
    fs.landing (dir.join name) = .ok l ↔
      checkPath (dir.join name) = .ok () ∧ name.utf8ByteSize ≤ longestName ∧
        ∃ passed there, fs.Leads dir passed there ∧
          fs.node? (name :: there) ≠ some .directory ∧ l = name :: there := by
  constructor
  · intro lands
    cases found : fs.walk .keep (dir.join name) with
    | error fault =>
        rw [landing, found] at lands
        cases lands
    | ok spot =>
        have admitted := checkPath_of_walk found
        obtain ⟨passed, there, leads⟩ := leads_of_walk_join h found
        obtain ⟨left, walked⟩ := leads.walk_join h admitted .keep
        have short : name.utf8ByteSize ≤ longestName := by
          apply Nat.not_lt.mp
          intro long
          rw [walked, walkFrom_too_long h long] at found
          cases found
        refine ⟨admitted, short, passed, there, leads, ?_⟩
        rw [landing, walked, walkFrom_keep (h.isName short)] at lands
        cases node : fs.node? (name :: there) with
        | none =>
            rw [node] at lands
            exact ⟨by simp, (Except.ok.inj lands).symm⟩
        | some kept =>
            rw [node] at lands
            cases kept with
            | directory => cases lands
            | file old => exact ⟨by simp, (Except.ok.inj lands).symm⟩
            | link target => exact ⟨by simp, (Except.ok.inj lands).symm⟩
  · rintro ⟨admitted, short, passed, there, leads, no_directory, rfl⟩
    obtain ⟨left, walked⟩ := leads.walk_join h admitted .keep
    rw [landing, walked, walkFrom_keep (h.isName short)]
    cases node : fs.node? (name :: there) with
    | none => rfl
    | some kept =>
        cases kept with
        | directory => exact absurd node no_directory
        | file old => rfl
        | link target => rfl

theorem replace_join_eq_ok_iff (h : IsEntryName name) :
    fs.replace (dir.join name) content = .ok fs' ↔
      checkPath (dir.join name) = .ok () ∧ name.utf8ByteSize ≤ longestName ∧
        ∃ passed there, fs.Leads dir passed there ∧
          fs.node? (name :: there) ≠ some .directory ∧
          fs' = fs.put (name :: there) (.file content) := by
  rw [replace_eq_landing]
  constructor
  · intro replaced
    cases lands : fs.landing (dir.join name) with
    | error fault =>
        rw [lands] at replaced
        cases replaced
    | ok l =>
        obtain ⟨admitted, short, passed, there, leads, free, rfl⟩ :=
          (landing_join_eq_ok_iff h).mp lands
        rw [lands] at replaced
        exact ⟨admitted, short, passed, there, leads, free, (Except.ok.inj replaced).symm⟩
  · rintro ⟨admitted, short, passed, there, leads, free, rfl⟩
    rw [(landing_join_eq_ok_iff h).mpr ⟨admitted, short, passed, there, leads, free, rfl⟩]
    rfl

theorem Leads.read_join (leads : fs.Leads dir passed there) (h : IsEntryName name)
    (admitted : checkPath (dir.join name) = .ok ()) (short : name.utf8ByteSize ≤ longestName)
    (node : fs.node? (name :: there) = some (.file content)) :
    fs.read (dir.join name) = .ok content := by
  obtain ⟨left, walked⟩ := leads.walk_join h admitted .follow
  rw [read, walked, walkFrom_file (h.isName short) node]
  rfl

/-- Behind a file put on an entry that the path passed, nothing is found any more. -/
theorem Leads.walk_join_put {x : Location} (leads : fs.Leads dir passed there)
    (hx : x ∈ passed) (h : IsEntryName name) (admitted : checkPath (dir.join name) = .ok ())
    (last : LastPart) :
    (fs.put x (.file content)).walk last (dir.join name) = .error .notDirectory := by
  obtain ⟨front, left, spelt, way⟩ := leads.front_join h
  rw [walk_eq admitted, spelt]
  exact way.walkFrom_put (name_not_idle h) hx

theorem Leads.not_put {x : Location} {passed' : List Location} {there' : Location}
    (leads : fs.Leads dir passed there) (hx : x ∈ passed) :
    ¬ (fs.put x (.file content)).Leads dir passed' there' := by
  rintro ⟨left', other⟩
  obtain ⟨left, way⟩ := leads
  exact way.not_put hx other

theorem Leads.read_join_put {x : Location} (leads : fs.Leads dir passed there)
    (hx : x ∈ passed) (h : IsEntryName name) (admitted : checkPath (dir.join name) = .ok ()) :
    (fs.put x (.file content)).read (dir.join name) = .error .notDirectory := by
  rw [read, leads.walk_join_put hx h admitted]
  rfl

end FileSystem
end SpeechConfig
