/-
# `SpeechConfig.Proofs.Json.Records` — records as functions of values

## What is proved, with every binder written out

For every shape `s` whose fields are read by readers of values, `Reads s.read s.ofJson`: what is
read of a record is decided by its value.  `Shape.ofJson` goes over the members of an object, or
over the elements of a list, in their order.

## What decides an object

Members that the shape does not know have no share in the answer (`ofMembers_filter`).  Members
of which each means a change, with distinct keys and all that are required, make these changes
one after another (`ofMembers_of_means`).
-/
import Mathlib.Data.List.Forall2
import SpeechConfig.Proofs.Json.Meaning

namespace SpeechConfig.Json.Shape

variable {σ : Type} {s : Shape σ} {items : List Json} {members : List (String × Json)}
  {first : Bool} {c : Char} {before behind cs rest : List Char} {key : String}

/-- The record of members behind those with the keys `seen`, which gave `acc`. -/
def ofMembers (s : Shape σ) (seen : List String) (acc : σ) :
    List (String × Json) → Except Fault σ
  | [] =>
    match s.missing? seen with
    | some key => .error (.mismatch (.missingField key))
    | none => .ok acc
  | (key, value) :: rest =>
    match s.field? key with
    | none => s.ofMembers seen acc rest
    | some f =>
      if seen.contains key then .error (.mismatch (.duplicateField key))
      else do
        let store ← f.read.on value
        s.ofMembers (key :: seen) (store acc) rest

/-- The record of elements, for the fields from number `index` on. -/
def ofItems (s : Shape σ) (index : Nat) : List (Field σ) → σ → List Json → Except Fault σ
  | [], acc, [] => .ok acc
  | [], _, _ :: _ => .error (.malformed .trailingCharacters)
  | f :: fields, acc, [] =>
    match (f :: fields).findIdx? Field.required with
    | some i => .error (.mismatch (.tooShort (index + i) s.name s.fields.length))
    | none => .ok acc
  | f :: fields, acc, item :: rest => do
    let store ← f.read.on item
    s.ofItems (index + 1) fields (store acc) rest

def ofJson (s : Shape σ) : Json → Except Fault σ
  | .object members => s.ofMembers [] s.start members
  | .list items => s.ofItems 0 s.fields s.start items
  | v => .error (unfit ("struct " ++ s.name) v)

/-- The fields are read by readers of values. -/
def Readable (fields : List (Field σ)) : Prop :=
  ∀ f ∈ fields, Reads f.read f.read.on

theorem mem_of_field? {f : Field σ} (h : s.field? key = some f) : f ∈ s.fields ∧ f.key = key := by
  refine ⟨List.mem_of_find?_eq_some h, ?_⟩
  simpa using List.find?_some h

/-! ## Reading a record -/

theorem readMembers_eq (fields : Readable s.fields) {n : Nat} {seen : List String} {acc : σ}
    (spelt : SpellsMembers first members cs) (few : members.length < n) :
    s.readMembers n first seen acc (cs ++ rest) =
      (s.ofMembers seen acc members).map fun x => (x, rest) := by
  induction members generalizing first cs n seen acc with
  | nil =>
      obtain ⟨n, rfl⟩ := Nat.exists_eq_succ_of_ne_zero (Nat.ne_of_gt few)
      cases spelt with
      | nil hgap =>
          rw [List.append_assoc, List.singleton_append, readMembers,
            bind_of_ok (nextKey_close hgap), ofMembers]
          cases s.missing? seen with
          | some key => rfl
          | none => exact bind_of_ok (@closeObject_close [] rest Blank.nil)
  | cons member others ih =>
      obtain ⟨n, rfl⟩ := Nat.exists_eq_succ_of_ne_zero (Nat.ne_zero_of_lt few)
      have fewer := Nat.lt_of_succ_lt_succ few
      cases spelt with
      | @cons _ key value _ before behind colon gap cs ds hbefore hbehind hcolon hgap value_spelt
          spelt =>
          simp only [List.append_assoc, List.cons_append]
          rw [readMembers, bind_of_ok (nextKey_entry hbefore hbehind), ofMembers]
          cases known : s.field? key with
          | none =>
              -- a member that the record does not know is passed over, whatever its value
              simp only [known]
              rw [bind_of_ok (takeColon_append hcolon),
                bind_of_ok (skipValue_append value_spelt hgap (spelt.ends rest))]
              exact ih spelt fewer
          | some f =>
              simp only [known]
              split
              · rfl
              · have field := (fields f (mem_of_field? known).1).append value_spelt hgap
                  (spelt.ends rest)
                rw [bind_of_ok (takeColon_append hcolon), bind_of_map field]
                cases f.read.on value with
                | error fault => rfl
                | ok store => exact ih spelt fewer

/-- A list with more elements than are read is not closed. -/
theorem closeList_entry (hbefore : Blank before) (hbehind : Blank behind) (start : IsStart c) :
    closeList (before ++ (separator first ++ (behind ++ c :: rest))) =
      .error (.malformed .trailingCharacters) := by
  have found : skipBlanks (c :: rest) = c :: rest := skipBlanks_cons start.1
  cases first with
  | true =>
      simp [closeList, separator, skipBlanks_append hbefore, skipBlanks_append hbehind, found,
        start.2.1, start.2.2.1]
  | false =>
      simp [closeList, separator, skipBlanks_append hbefore, skipBlanks_append hbehind, found,
        skipBlanks_cons, isBlank, start.2.2.1]

theorem readInOrder_eq {fields : List (Field σ)} (readable : Readable fields) {index : Nat}
    {acc : σ} (spelt : SpellsItems first items cs) :
    s.readInOrder first index fields acc (cs ++ rest) =
      (s.ofItems index fields acc items).map fun x => (x, rest) := by
  induction fields generalizing items first cs index acc with
  | nil =>
      cases spelt with
      | nil hgap =>
          rw [List.append_assoc, List.singleton_append, readInOrder,
            bind_of_ok (closeList_close hgap)]
          rfl
      | cons hbefore hbehind value _ =>
          obtain ⟨c, body, rfl, start⟩ := value.starts
          simp only [List.append_assoc, List.cons_append]
          rw [readInOrder, bind_of_error (closeList_entry hbefore hbehind start)]
          rfl
  | cons f fields ih =>
      have others : Readable fields := fun g hg => readable g (List.mem_cons_of_mem f hg)
      cases spelt with
      | nil hgap =>
          rw [List.append_assoc, List.singleton_append, readInOrder,
            bind_of_ok (nextElement_close hgap), if_neg Bool.false_ne_true, ofItems]
          cases (f :: fields).findIdx? Field.required with
          | some i => rfl
          | none => exact bind_of_ok (@closeList_close [] rest Blank.nil)
      | @cons _ item _ before behind cs ds hbefore hbehind value spelt =>
          have field := (readable f List.mem_cons_self).append value Blank.nil
            (spelt.ends rest)
          obtain ⟨c, body, rfl, start⟩ := value.starts
          simp only [List.nil_append, List.append_assoc, List.cons_append] at field ⊢
          rw [readInOrder, bind_of_ok (nextElement_entry hbefore hbehind start), if_pos rfl,
            bind_of_map field, ofItems]
          cases f.read.on item with
          | error fault => rfl
          | ok store => exact ih others spelt

/-- The main result: a record is read from its value. -/
theorem reads (fields : Readable s.fields) : Reads s.read s.ofJson := by
  refine Reads.onNext fun {v c cs rest} spelt ends => ?_
  cases v with
  | object members =>
      generalize same : c :: cs = text at spelt
      cases spelt with
      | object spelt =>
          obtain ⟨rfl, rfl⟩ := List.cons.inj same
          have few := spelt.length_lt
          rw [if_pos rfl]
          exact readMembers_eq fields spelt (by simp only [List.length_append]; omega)
  | list items =>
      generalize same : c :: cs = text at spelt
      cases spelt with
      | list spelt =>
          obtain ⟨rfl, rfl⟩ := List.cons.inj same
          rw [if_neg (by decide), if_pos rfl]
          exact readInOrder_eq fields spelt
  | null | bool _ | number _ | string _ =>
      rw [if_neg (by simp [spelt.brace_iff]), if_neg (by simp [spelt.bracket_iff]),
        wrongKind_append spelt ends]
      rfl

/-! ## The members of an object -/

variable {seen : List String} {acc : σ}

def knows (s : Shape σ) (key : String) : Bool :=
  (s.field? key).isSome

theorem knows_iff : s.knows key = true ↔ ∃ f ∈ s.fields, f.key = key := by
  simp [knows, field?, List.find?_isSome]

theorem ofMembers_filter (s : Shape σ) (seen : List String) (acc : σ)
    (members : List (String × Json)) :
    s.ofMembers seen acc members =
      s.ofMembers seen acc (members.filter fun member => s.knows member.1) := by
  induction members generalizing seen acc with
  | nil => rfl
  | cons member rest ih =>
      obtain ⟨key, value⟩ := member
      cases known : s.field? key with
      | none =>
          have unknown : s.knows key = false := by simp [knows, known]
          rw [ofMembers, known, List.filter_cons_of_neg (by simp [unknown])]
          exact ih seen acc
      | some f =>
          have known' : s.knows key = true := by simp [knows, known]
          rw [List.filter_cons_of_pos (by simpa using known'), ofMembers, ofMembers, known]
          simp only [ih (key :: seen)]

/-- The shape knows the member, and its value means this change of a record. -/
def Means (s : Shape σ) (member : String × Json) (change : σ → σ) : Prop :=
  ∃ f, s.field? member.1 = some f ∧ f.read.on member.2 = .ok change

theorem ofMembers_cons_of_means {member : String × Json} {change : σ → σ}
    {rest : List (String × Json)} (means : s.Means member change) (fresh : member.1 ∉ seen) :
    s.ofMembers seen acc (member :: rest) = s.ofMembers (member.1 :: seen) (change acc) rest := by
  obtain ⟨f, known, value⟩ := means
  have unseen : seen.contains member.1 = false := by simpa using fresh
  rw [ofMembers, known]
  simp only [unseen, Bool.false_eq_true, if_false, value]
  rfl

/-- Members that all mean something, with nothing missing, are read as these changes. -/
theorem ofMembers_of_means {changes : List (σ → σ)} (means : List.Forall₂ s.Means members changes)
    (distinct : (members.map Prod.fst).Nodup) (fresh : ∀ member ∈ members, member.1 ∉ seen)
    (complete : s.missing? ((members.map Prod.fst).reverse ++ seen) = none) :
    s.ofMembers seen acc members = .ok (changes.foldl (fun x change => change x) acc) := by
  induction means generalizing seen acc with
  | nil =>
      have complete : s.missing? seen = none := complete
      rw [ofMembers, complete]
      rfl
  | @cons member change rest changes here _ ih =>
      obtain ⟨once, distinct⟩ := List.nodup_cons.mp distinct
      have later : ∀ other ∈ rest, other.1 ∉ member.1 :: seen := by
        intro other mem h
        rcases List.mem_cons.mp h with same | h
        · exact once (same ▸ List.mem_map_of_mem mem)
        · exact fresh other (List.mem_cons_of_mem _ mem) h
      rw [ofMembers_cons_of_means here (fresh member List.mem_cons_self)]
      refine ih distinct later ?_
      rwa [List.map_cons, List.reverse_cons, List.append_assoc, List.singleton_append] at complete

end SpeechConfig.Json.Shape
