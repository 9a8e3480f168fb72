/-
# `SpeechConfig.Proofs.Json.Partial` — objects that leave members out

## What is proved, with every binder written out

Let `s` be a shape whose records are written with `write` (`s.Writes write`).  For every record
`x`, every selection `kept` of its members that leaves out only what the start has as well, and
every `doc` that holds members of these keys, once each and in any order, besides unknown ones:

    s.ofJson (.object doc) = .ok x

if each value in `doc` stores what `x` is written with (`s.Stores`).

## The invariant

Of a record that is partly read, each member is that of `x` if its key has been read, and that of
the record before otherwise (`Writes.ofMembers_eq_ok`).  So at the end every member is one of `x`,
and a record is known by its members.
-/
import Mathlib.Data.List.Nodup
import SpeechConfig.Proofs.Json.Records

namespace SpeechConfig.Json

/-! ## Members -/

def members : Json → List (String × Json)
  | .object members => members
  | _ => []

/-- A selection of members that leaves out only those that the default has as well. -/
structure Kept (full default kept : List (String × Json)) : Prop where
  sublist : kept.Sublist full
  differing : ∀ member ∈ full, member ∉ default → member ∈ kept

/-- The members `kept` in any order, and anywhere between them others, with keys that none of the
members `full` has. -/
def Holds (full kept doc : List (String × Json)) : Prop :=
  (doc.filter fun member => member.1 ∈ full.map Prod.fst).Perm kept

def put (key : String) (value : Json) (members : List (String × Json)) : List (String × Json) :=
  members.map fun member => if member.1 = key then (key, value) else member

variable {full default kept doc ms ns : List (String × Json)} {key : String} {value written : Json}

theorem Kept.refl : Kept full default full :=
  ⟨List.Sublist.refl full, fun _ mem _ => mem⟩

theorem Holds.of_keys (keys : doc.map Prod.fst = full.map Prod.fst) : Holds full doc doc := by
  have all : ∀ member ∈ doc, decide (member.1 ∈ full.map Prod.fst) = true := by
    intro member mem
    rw [decide_eq_true_iff, ← keys]
    exact List.mem_map_of_mem mem
  rw [Holds, List.filter_eq_self.mpr all]

theorem mem_put {member : String × Json} (h : member ∈ put key value ms) :
    member = (key, value) ∨ member ∈ ms ∧ member.1 ≠ key := by
  obtain ⟨before, mem, rfl⟩ := List.mem_map.mp h
  by_cases same : before.1 = key
  · exact Or.inl (if_pos same)
  · rw [if_neg same]
    exact Or.inr ⟨mem, same⟩

theorem eq_of_keys (keys : ms.map Prod.fst = ns.map Prod.fst) (distinct : (ns.map Prod.fst).Nodup)
    (among : ∀ member ∈ ms, member ∈ ns) : ms = ns := by
  induction ms generalizing ns with
  | nil => exact (List.map_eq_nil_iff.mp keys.symm).symm
  | cons m ms ih =>
      cases ns with
      | nil => cases keys
      | cons n ns =>
          obtain ⟨head, tail⟩ := List.cons.inj keys
          obtain ⟨once, distinct⟩ := List.nodup_cons.mp distinct
          have absent : ∀ member ∈ ms, member ≠ n := by
            rintro _ mem rfl
            exact once (tail ▸ List.mem_map_of_mem mem)
          have same : m = n := by
            rcases List.mem_cons.mp (among m List.mem_cons_self) with same | mem
            · exact same
            · exact absurd (head ▸ List.mem_map_of_mem mem) once
          have rest : ms = ns := ih tail distinct fun member mem =>
            (List.mem_cons.mp (among member (List.mem_cons_of_mem m mem))).resolve_left
              (absent member mem)
          rw [same, rest]

/-! ## Records -/

namespace Shape

variable {σ : Type} {s : Shape σ} {write : σ → List (String × Json)} {seen : List String}
  {acc x : σ}

/-- The records of a shape whose members may all be absent are written with these members. -/
structure Writes (s : Shape σ) (write : σ → List (String × Json)) : Prop where
  optional : ∀ f ∈ s.fields, f.required = false
  keys : ∀ x, (write x).map Prod.fst = s.fields.map Field.key
  distinct : (s.fields.map Field.key).Nodup
  faithful : ∀ {x y}, write x = write y → x = y

/-- The value of a member stores what is written as `written`, and changes nothing else. -/
def Stores (s : Shape σ) (write : σ → List (String × Json)) (key : String) (value written : Json) :
    Prop :=
  ∃ f store, s.field? key = some f ∧ f.read.on value = .ok store ∧
    ∀ y, write (store y) = put key written (write y)

theorem Stores.of_reads {α : Type} {f : Field σ} {read : Reader α} {meaning : Json → Except Fault α}
    {store : α → σ → σ} {a : α} (known : s.field? key = some f)
    (stores : f.read = do let a ← read; return store a) (reads : Reads read meaning)
    (means : meaning value = .ok a) (change : ∀ y, write (store a y) = put key written (write y)) :
    s.Stores write key value written := by
  refine ⟨f, store a, known, ?_, change⟩
  rw [stores, reads.on_map, means]
  rfl

/-- The invariant: what is read is as in `full`, and what is not read is as it was. -/
theorem Writes.ofMembers_eq_ok (writes : s.Writes write)
    (stores : ∀ member ∈ doc, ∃ written, (member.1, written) ∈ full ∧
      s.Stores write member.1 member.2 written)
    (distinct : (doc.map Prod.fst).Nodup) (fresh : ∀ member ∈ doc, member.1 ∉ seen) :
    ∃ y, s.ofMembers seen acc doc = .ok y ∧ ∀ member ∈ write y,
      member ∈ full ∨ member ∈ write acc ∧ member.1 ∉ doc.map Prod.fst := by
  induction doc generalizing seen acc with
  | nil =>
      have missing : s.missing? seen = none := by
        have present : ∀ f ∈ s.fields, (f.required && !seen.contains f.key) = false :=
          fun f hf => by rw [writes.optional f hf, Bool.false_and]
        rw [missing?, List.find?_eq_none.mpr (by simpa using present)]
        rfl
      refine ⟨acc, by rw [ofMembers, missing], fun member mem => Or.inr ⟨mem, List.not_mem_nil⟩⟩
  | cons member rest ih =>
      obtain ⟨key, value⟩ := member
      obtain ⟨written, mem_full, f, store, known, found, change⟩ := stores _ List.mem_cons_self
      obtain ⟨once, distinct⟩ := List.nodup_cons.mp distinct
      have unseen : seen.contains key = false := by
        simpa using fresh _ List.mem_cons_self
      have later : ∀ member ∈ rest, member.1 ∉ key :: seen := by
        intro member mem h
        rcases List.mem_cons.mp h with same | h
        · exact once (List.mem_map.mpr ⟨member, mem, same⟩)
        · exact fresh member (List.mem_cons_of_mem _ mem) h
      obtain ⟨y, read, all⟩ : ∃ y, s.ofMembers (key :: seen) (store acc) rest = .ok y ∧ _ :=
        ih (fun member mem => stores member (List.mem_cons_of_mem _ mem)) distinct later
      refine ⟨y, ?_, fun member mem => ?_⟩
      · rw [ofMembers, known]
        simp only [unseen, Bool.false_eq_true, if_false, found]
        exact read
      · rcases all member mem with mem | ⟨mem, absent⟩
        · exact Or.inl mem
        · rw [change acc] at mem
          rcases mem_put mem with rfl | ⟨mem, other⟩
          · exact Or.inl mem_full
          · exact Or.inr ⟨mem, by simpa [other] using absent⟩

/-- The main result: what is left out of an object is what the start has. -/
theorem Writes.ofJson_eq_ok (writes : s.Writes write) {meant : String × Json → Json}
    (stores : ∀ member ∈ write x, s.Stores write member.1 (meant member) member.2)
    (sel : Kept (write x) (write s.start) kept)
    (holds : Holds (write x) (kept.map fun member => (member.1, meant member)) doc) :
    s.ofJson (.object doc) = .ok x := by
  have known : ∀ member : String × Json,
      decide (member.1 ∈ (write x).map Prod.fst) = s.knows member.1 := by
    intro member
    rw [Bool.eq_iff_iff, decide_eq_true_iff, writes.keys, knows_iff, List.mem_map]
  generalize selected : doc.filter (fun member => s.knows member.1) = docs
  have perm : docs.Perm (kept.map fun member => (member.1, meant member)) := by
    rw [← selected]
    simpa only [Holds, known] using holds
  have keys : (docs.map Prod.fst).Perm (kept.map Prod.fst) := by
    have mapped := perm.map Prod.fst
    rwa [List.map_map] at mapped
  have distinct : ((write x).map Prod.fst).Nodup := by
    rw [writes.keys]
    exact writes.distinct
  have each : ∀ member ∈ docs, ∃ written, (member.1, written) ∈ write x ∧
      s.Stores write member.1 member.2 written := by
    intro member mem
    obtain ⟨chosen, of_kept, rfl⟩ := List.mem_map.mp (perm.mem_iff.mp mem)
    have of_x := sel.sublist.subset of_kept
    exact ⟨chosen.2, of_x, stores chosen of_x⟩
  obtain ⟨y, read, all⟩ : ∃ y, s.ofMembers [] s.start docs = .ok y ∧ _ :=
    writes.ofMembers_eq_ok each (keys.nodup_iff.mpr (distinct.sublist (sel.sublist.map _)))
      fun _ _ => List.not_mem_nil
  have among : ∀ member ∈ write y, member ∈ write x := by
    intro member mem
    rcases all member mem with mem_x | ⟨mem_start, absent⟩
    · exact mem_x
    · -- a member of the start that is not read is one of `x`, or it would have been kept
      have key : member.1 ∈ (write x).map Prod.fst := by
        rw [writes.keys, ← writes.keys y]
        exact List.mem_map_of_mem mem
      obtain ⟨other, of_x, same⟩ := List.mem_map.mp key
      have left_out : other ∉ kept := fun of_kept =>
        absent (keys.mem_iff.mpr (same ▸ List.mem_map_of_mem of_kept))
      have of_start : other ∈ write s.start :=
        Classical.not_not.mp (mt (sel.differing other of_x) left_out)
      have once : ((write s.start).map Prod.fst).Nodup := by
        rw [writes.keys]
        exact writes.distinct
      rwa [← List.inj_on_of_nodup_map once of_start mem_start same]
  have same : write y = write x :=
    eq_of_keys ((writes.keys y).trans (writes.keys x).symm) distinct among
  rw [ofJson, ofMembers_filter, selected, read, writes.faithful same]

end Shape
end SpeechConfig.Json
