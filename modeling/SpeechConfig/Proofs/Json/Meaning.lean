/-
# `SpeechConfig.Proofs.Json.Meaning` — a reader sees the value, not its text

## What is proved, with every binder written out

`Reads read meaning` says that for every value `v`, every text `cs` of it, every `gap` of blanks
and every `rest` that may stand behind a value:

    read (gap ++ (cs ++ rest)) = (meaning v).map fun x => (x, rest)

Here `meaning` is a function of values, so the reader's answer, a fault included, depends on the
value alone and leaves exactly what stands behind its text.  There is one such statement for each
reader of a known shape, and what is put together from readers has the meaning put together from
theirs.  For whole documents (`Reads.readDocument`):

    v.IsDocument text → readDocument read text = meaning v

## Faults

A value of the wrong kind is named by its kind and, where it is short, by what it is (`unfit`).
A number may be out of range where it is read to be named, and then that is the fault.
-/
import SpeechConfig.Proofs.Json.Skipping

namespace SpeechConfig.Json

variable {α β : Type} {v : Json} {items : List Json} {first : Bool} {c e : Char}
  {cs gap rest : List Char} {expected : String}

/-! ## Readers one after another -/

theorem bind_of_ok {x : Reader α} {f : α → Reader β} {a : α} (h : x cs = .ok (a, rest)) :
    (x >>= f) cs = f a rest := by
  simp only [bind, StateT.bind, h, Except.bind]

theorem bind_of_error {x : Reader α} {f : α → Reader β} {fault : Fault} (h : x cs = .error fault) :
    (x >>= f) cs = .error fault := by
  simp only [bind, StateT.bind, h, Except.bind]

theorem bind_of_map {x : Reader α} {f : α → Reader β} {answer : Except Fault α}
    (h : x cs = answer.map fun a => (a, rest)) :
    (x >>= f) cs = answer >>= fun a => f a rest := by
  cases answer with
  | ok a => exact bind_of_ok h
  | error fault => exact bind_of_error h

theorem bind_eq_ok_iff {x : Except Fault α} {f : α → Except Fault β} {b : β} :
    (x >>= f) = .ok b ↔ ∃ a, x = .ok a ∧ f a = .ok b := by
  cases x with
  | error fault => exact ⟨nofun, nofun⟩
  | ok a =>
      constructor
      · intro h
        exact ⟨a, rfl, h⟩
      · rintro ⟨_, ⟨⟩, h⟩
        exact h

theorem onNext_append {k : Char → Reader α} (h : Blank gap) (start : isBlank c = false) :
    onNext k (gap ++ c :: cs) = k c cs := by
  simp only [onNext, skipBlanks_append h, skipBlanks_cons start]

/-! ## What a text starts with -/

/-- The character that tells the kind of a value, for all kinds but numbers. -/
def opener? : Json → Option Char
  | .null => some 'n'
  | .bool b => some (if b then 't' else 'f')
  | .number _ => none
  | .string _ => some '"'
  | .list _ => some '['
  | .object _ => some '{'

theorem Numeral.head_text {n : Numeral} (h : n.text = c :: cs) : c = '-' ∨ c.isDigit = true := by
  rcases n.text_cases with ⟨-, text⟩ | ⟨-, text⟩
  · exact Or.inl (List.cons.inj (h.symm.trans text)).1
  · obtain ⟨d, ds, spelt, digit⟩ := n.unsigned_eq_cons
    exact Or.inr ((List.cons.inj (h.symm.trans (text.trans spelt))).1 ▸ digit)

/-- A text starts with a character that tells a kind exactly if it is a text of that kind. -/
theorem Spells.head_eq_iff (h : Spells v (c :: cs)) (sign : e ≠ '-') (digit : e.isDigit = false) :
    c = e ↔ v.opener? = some e := by
  generalize spelt : c :: cs = text at h
  cases h with
  | number n =>
      have head := Numeral.head_text spelt.symm
      refine ⟨?_, nofun⟩
      rintro rfl
      rcases head with rfl | head
      · exact absurd rfl sign
      · rw [digit] at head
        cases head
  | bool b =>
      cases b <;>
        · obtain ⟨rfl, -⟩ := List.cons.inj spelt
          simp [opener?]
  | null | string s | list _ | object _ =>
      obtain ⟨rfl, -⟩ := List.cons.inj spelt
      simp [opener?]

theorem Spells.quote_iff (h : Spells v (c :: cs)) : c = '"' ↔ ∃ s, v = .string s := by
  rw [h.head_eq_iff (by decide) (by decide)]
  rcases v with _ | ⟨_ | _⟩ | _ | _ | _ | _ <;> simp [opener?]

theorem Spells.bracket_iff (h : Spells v (c :: cs)) : c = '[' ↔ ∃ items, v = .list items := by
  rw [h.head_eq_iff (by decide) (by decide)]
  rcases v with _ | ⟨_ | _⟩ | _ | _ | _ | _ <;> simp [opener?]

theorem Spells.brace_iff (h : Spells v (c :: cs)) : c = '{' ↔ ∃ members, v = .object members := by
  rw [h.head_eq_iff (by decide) (by decide)]
  rcases v with _ | ⟨_ | _⟩ | _ | _ | _ | _ <;> simp [opener?]

theorem Spells.null_iff (h : Spells v (c :: cs)) : c = 'n' ↔ v = .null := by
  rw [h.head_eq_iff (by decide) (by decide)]
  rcases v with _ | ⟨_ | _⟩ | _ | _ | _ | _ <;> simp [opener?]

theorem Spells.true_iff (h : Spells v (c :: cs)) : c = 't' ↔ v = .bool true := by
  rw [h.head_eq_iff (by decide) (by decide)]
  rcases v with _ | ⟨_ | _⟩ | _ | _ | _ | _ <;> simp [opener?]

theorem Spells.false_iff (h : Spells v (c :: cs)) : c = 'f' ↔ v = .bool false := by
  rw [h.head_eq_iff (by decide) (by decide)]
  rcases v with _ | ⟨_ | _⟩ | _ | _ | _ | _ <;> simp [opener?]

/-! ## Values of the wrong kind -/

/-- The fault of a value where another kind is expected. -/
def unfit (expected : String) : Json → Fault
  | .null => .mismatch (.wrongKind .null expected)
  | .bool b => .mismatch (.wrongKind (.boolean b) expected)
  | .number n =>
    match readNumber n.negative n.unsigned with
    | .ok found => .mismatch (.wrongKind found expected)
    | .error fault => fault
  | .string s => .mismatch (.wrongKind (.string s) expected)
  | .list _ => .mismatch (.wrongKind .sequence expected)
  | .object _ => .mismatch (.wrongKind .map expected)

theorem wrongKind_number {n : Numeral} (h : n.text = c :: cs) (ends : Ends rest) :
    wrongKind expected c (cs ++ rest) = unfit expected (.number n) := by
  have read : readNumber n.negative (n.unsigned ++ rest) = readNumber n.negative n.unsigned :=
    readNumber_unsigned ends
  rcases n.text_cases with ⟨negative, text⟩ | ⟨negative, text⟩
  · obtain ⟨rfl, rfl⟩ := List.cons.inj (h.symm.trans text)
    rw [negative] at read
    cases found : readNumber true n.unsigned <;>
      simp [wrongKind, unfit, negative, read, found]
  · obtain ⟨d, ds, spelt, digit⟩ := n.unsigned_eq_cons
    obtain ⟨rfl, rfl⟩ := List.cons.inj (h.symm.trans (text.trans spelt))
    have other : ∀ e : Char, e.isDigit = false → c ≠ e := fun e he same => by
      rw [same, he] at digit
      cases digit
    rw [negative, spelt, List.cons_append] at read
    cases found : readNumber false (c :: cs) <;>
      simp [wrongKind, unfit, negative, other, isDigit_of_char digit, spelt, read, found]

theorem wrongKind_append (h : Spells v (c :: cs)) (ends : Ends rest) :
    wrongKind expected c (cs ++ rest) = unfit expected v := by
  generalize spelt : c :: cs = text at h
  cases h with
  | number n => exact wrongKind_number spelt.symm ends
  | null =>
      obtain ⟨rfl, rfl⟩ := List.cons.inj spelt
      simp [wrongKind, literal, unfit]
  | bool b =>
      cases b <;>
        · obtain ⟨rfl, rfl⟩ := List.cons.inj spelt
          simp [wrongKind, literal, unfit]
  | string s =>
      obtain ⟨rfl, rfl⟩ := List.cons.inj spelt
      simp [wrongKind, stringBody_escaped, unfit, isDigit]
  | list _ =>
      obtain ⟨rfl, rfl⟩ := List.cons.inj spelt
      rfl
  | object _ =>
      obtain ⟨rfl, rfl⟩ := List.cons.inj spelt
      rfl

/-! ## Readers and meanings -/

/-- The reader makes of every text of a value what `meaning` says of the value, and leaves what
stands behind the text. -/
structure Reads (read : Reader α) (meaning : Json → Except Fault α) : Prop where
  append {v : Json} {cs gap rest : List Char} : Spells v cs → Blank gap → Ends rest →
    read (gap ++ (cs ++ rest)) = (meaning v).map fun x => (x, rest)

theorem Reads.onNext {k : Char → Reader α} {meaning : Json → Except Fault α}
    (h : ∀ {v c cs rest}, Spells v (c :: cs) → Ends rest →
      k c (cs ++ rest) = (meaning v).map fun x => (x, rest)) : Reads (onNext k) meaning := by
  refine ⟨fun {v cs gap rest} spelt hgap ends => ?_⟩
  obtain ⟨c, cs, rfl, start⟩ := spelt.starts
  rw [List.cons_append, onNext_append hgap start.1]
  exact h spelt ends

/-- What a reader makes of a value. -/
def Reader.on (read : Reader α) (v : Json) : Except Fault α :=
  (read (compactChars v)).map Prod.fst

variable {read : Reader α} {meaning : Json → Except Fault α}

theorem map_fst_map (x : Except Fault α) (rest : List Char) :
    (x.map fun a => (a, rest)).map Prod.fst = x := by
  cases x <;> rfl

theorem Reads.on_eq (h : Reads read meaning) : read.on = meaning := by
  funext v
  have whole := h.append (spells_compactChars v) Blank.nil Ends.nil
  rw [List.append_nil, List.nil_append] at whole
  rw [Reader.on, whole, map_fst_map]

/-- A meaning found in any way is what the reader makes of a value. -/
theorem Reads.on (h : Reads read meaning) : Reads read read.on := by
  rw [h.on_eq]
  exact h

/-- The main result: what is read from a document is what its value means. -/
theorem Reads.readDocument (h : Reads read meaning) {text : String} (doc : v.IsDocument text) :
    readDocument read text = meaning v := by
  obtain ⟨before, cs, behind, hbefore, spelt, hbehind, whole⟩ := doc
  rw [Json.readDocument, whole, h.append spelt hbefore (Ends.of_blank hbehind)]
  cases meaning v with
  | error fault => rfl
  | ok x => simp [Except.map, skipBlanks_of_blank hbehind]

theorem Reads.map (h : Reads read meaning) (f : α → β) :
    Reads (do let x ← read; return f x) fun v => (meaning v).map f := by
  refine ⟨fun {v cs gap rest} spelt hgap ends => ?_⟩
  rw [bind_of_map (h.append spelt hgap ends)]
  cases meaning v <;> rfl

theorem Reads.on_map (h : Reads read meaning) (f : α → β) (v : Json) :
    Reader.on (do let x ← read; return f x) v = (meaning v).map f :=
  congrFun (h.map f).on_eq v

/-! ## Short values -/

def ofString (expected : String) : Json → Except Fault String
  | .string s => .ok s
  | v => .error (unfit expected v)

theorem ofString_eq_ok_iff {s : String} : ofString expected v = .ok s ↔ v = .string s := by
  cases v <;> simp [ofString]

theorem reads_string (expected : String) : Reads (readString expected) (ofString expected) := by
  refine Reads.onNext fun {v c cs rest} spelt ends => ?_
  cases v with
  | string s =>
      obtain ⟨rfl, rfl⟩ := List.cons.inj spelt.eq_string
      simp [stringBody_escaped, ofString, Except.map]
  | null | bool _ | number _ | list _ | object _ =>
      rw [if_neg (by simp [spelt.quote_iff]), wrongKind_append spelt ends]
      rfl

def ofBool : Json → Except Fault Bool
  | .bool b => .ok b
  | v => .error (unfit "a boolean" v)

theorem reads_bool : Reads readBool ofBool := by
  refine Reads.onNext fun {v c cs rest} spelt ends => ?_
  cases v with
  | bool b =>
      cases b <;>
        · obtain ⟨rfl, rfl⟩ := List.cons.inj spelt.eq_bool
          simp [literal, ofBool, Except.map]
  | null | string _ | number _ | list _ | object _ =>
      rw [if_neg (by simp [spelt.true_iff]), if_neg (by simp [spelt.false_iff]),
        wrongKind_append spelt ends]
      rfl

def ofNull : Json → Except Fault Unit
  | .null => .ok ()
  | v => .error (unfit "unit" v)

theorem reads_null : Reads readNull ofNull := by
  refine Reads.onNext fun {v c cs rest} spelt ends => ?_
  cases v with
  | null =>
      obtain ⟨rfl, rfl⟩ := List.cons.inj spelt.eq_null
      simp [literal, ofNull, Except.map]
  | bool _ | string _ | number _ | list _ | object _ =>
      rw [if_neg (by simp [spelt.null_iff]), wrongKind_append spelt ends]
      rfl

def ofOptional (meaning : Json → Except Fault α) : Json → Except Fault (Option α)
  | .null => .ok none
  | v => (meaning v).map some

theorem Reads.optional (h : Reads read meaning) :
    Reads (readOptional read) (ofOptional meaning) := by
  refine ⟨fun {v cs gap rest} spelt hgap ends => ?_⟩
  have whole := h.append spelt hgap ends
  obtain ⟨c, cs, rfl, start⟩ := spelt.starts
  rw [readOptional, skipBlanks_append hgap, List.cons_append, skipBlanks_cons start.1]
  cases v with
  | null =>
      obtain ⟨rfl, rfl⟩ := List.cons.inj spelt.eq_null
      simp [literal, ofOptional, Except.map]
  | bool _ | string _ | number _ | list _ | object _ =>
      have other : c ≠ 'n' := by simp [spelt.null_iff]
      split
      · next same => exact absurd (List.cons.inj same).1 other
      · rw [← List.cons_append, whole]
        simp only [ofOptional]
        cases meaning _ <;> rfl

/-! ## Lists -/

def ofList (meaning : Json → Except Fault α) : Json → Except Fault (List α)
  | .list items => items.mapM meaning
  | v => .error (unfit "a sequence" v)

theorem nextElement_close (h : Blank gap) :
    nextElement first (gap ++ ']' :: rest) = .ok (false, ']' :: rest) := by
  simp [nextElement, skipBlanks_append h, skipBlanks_cons, isBlank]

theorem nextElement_entry {before behind : List Char} (hbefore : Blank before)
    (hbehind : Blank behind) (start : IsStart c) :
    nextElement first (before ++ (separator first ++ (behind ++ c :: rest))) =
      .ok (true, c :: rest) := by
  have found : skipBlanks (c :: rest) = c :: rest := skipBlanks_cons start.1
  cases first with
  | true =>
      simp [nextElement, separator, skipBlanks_append hbefore, skipBlanks_append hbehind, found,
        start.2.2.1]
  | false =>
      simp [nextElement, separator, skipBlanks_append hbefore, skipBlanks_append hbehind, found,
        skipBlanks_cons, isBlank, start.2.2.1]

theorem closeList_close (h : Blank gap) : closeList (gap ++ ']' :: rest) = .ok ((), rest) := by
  simp [closeList, skipBlanks_append h, skipBlanks_cons, isBlank]

theorem SpellsItems.length_lt (h : SpellsItems first items cs) : items.length < cs.length := by
  induction items generalizing first cs with
  | nil =>
      cases h with
      | nil _ => simp
  | cons item rest ih =>
      cases h with
      | cons _ _ spelt others =>
          have few := ih others
          obtain ⟨c, body, rfl, -⟩ := spelt.starts
          simp only [List.length_append, List.length_cons]
          omega

theorem Reads.elements (h : Reads read meaning) {n : Nat} (spelt : SpellsItems first items cs)
    (few : items.length < n) :
    readElements read n first (cs ++ rest) = (items.mapM meaning).map fun xs => (xs, rest) := by
  induction items generalizing first cs n with
  | nil =>
      obtain ⟨n, rfl⟩ := Nat.exists_eq_succ_of_ne_zero (Nat.ne_of_gt few)
      cases spelt with
      | nil hgap =>
          rw [List.append_assoc, List.singleton_append, readElements,
            bind_of_ok (nextElement_close hgap)]
          exact bind_of_ok (@closeList_close [] rest Blank.nil)
  | cons item others ih =>
      obtain ⟨n, rfl⟩ := Nat.exists_eq_succ_of_ne_zero (Nat.ne_zero_of_lt few)
      cases spelt with
      | @cons _ _ _ before behind cs ds hbefore hbehind value spelt =>
          have element := h.append value Blank.nil (spelt.ends rest)
          have elements := ih spelt (Nat.lt_of_succ_lt_succ few)
          obtain ⟨c, body, rfl, start⟩ := value.starts
          simp only [List.nil_append, List.append_assoc, List.cons_append] at element ⊢
          rw [readElements, bind_of_ok (nextElement_entry hbefore hbehind start), if_pos rfl,
            bind_of_map element, List.mapM_cons]
          cases meaning item with
          | error fault => rfl
          | ok x =>
              have collected := bind_of_map (f := fun xs => return x :: xs) elements
              refine collected.trans ?_
              cases others.mapM meaning <;> rfl

theorem Reads.list (h : Reads read meaning) : Reads (readList read) (ofList meaning) := by
  refine Reads.onNext fun {v c cs rest} spelt ends => ?_
  cases v with
  | list items =>
      generalize same : c :: cs = text at spelt
      cases spelt with
      | list spelt =>
          obtain ⟨rfl, rfl⟩ := List.cons.inj same
          have few := spelt.length_lt
          rw [if_pos rfl]
          exact h.elements spelt (by simp only [List.length_append]; omega)
  | null | bool _ | string _ | number _ | object _ =>
      rw [if_neg (by simp [spelt.bracket_iff]), wrongKind_append spelt ends]
      rfl

/-! ## Objects -/

variable {members : List (String × Json)} {key : String} {before behind : List Char}

theorem nextKey_close (h : Blank gap) :
    nextKey first (gap ++ '}' :: rest) = .ok (none, '}' :: rest) := by
  simp [nextKey, skipBlanks_append h, skipBlanks_cons, isBlank]

theorem nextKey_entry (hbefore : Blank before) (hbehind : Blank behind) :
    nextKey first (before ++ (separator first ++ (behind ++ (stringText key ++ rest)))) =
      .ok (some key, rest) := by
  cases first with
  | true =>
      simp [nextKey, separator, skipBlanks_append hbefore, skipBlanks_append hbehind, stringText_eq,
        skipBlanks_cons, isBlank, stringBody_escaped, Except.map]
  | false =>
      simp [nextKey, separator, skipBlanks_append hbefore, skipBlanks_append hbehind, stringText_eq,
        skipBlanks_cons, isBlank, stringBody_escaped, Except.map]

theorem takeColon_append (h : Blank gap) : takeColon (gap ++ ':' :: rest) = .ok ((), rest) := by
  simp [takeColon, skipBlanks_append h, skipBlanks_cons, isBlank]

theorem closeObject_close (h : Blank gap) : closeObject (gap ++ '}' :: rest) = .ok ((), rest) := by
  simp [closeObject, skipBlanks_append h, skipBlanks_cons, isBlank]

theorem SpellsMembers.length_lt (h : SpellsMembers first members cs) :
    members.length < cs.length := by
  induction members generalizing first cs with
  | nil =>
      cases h with
      | nil _ => simp
  | cons member rest ih =>
      cases h with
      | cons _ _ _ _ _ others =>
          have few := ih others
          simp only [List.length_append, List.length_cons]
          omega

/-! ## Choices -/

namespace Choice

variable {choice : Choice α}

/-- The value with a name, given alone or as the one key of an object. -/
def ofJson (choice : Choice α) : Json → Except Fault α
  | .string name => choice.pick name
  | .object ((name, value) :: others) => do
    let x ← choice.pick name
    ofNull value
    if others.isEmpty then return x else .error (.malformed .expectedValue)
  | _ => .error (.malformed .expectedValue)

theorem readOnlyKey_entry (hbefore : Blank before) (hbehind : Blank behind) :
    readOnlyKey (before ++ (separator true ++ (behind ++ (stringText key ++ rest)))) =
      .ok (key, rest) := by
  simp [readOnlyKey, separator, skipBlanks_append hbefore, skipBlanks_append hbehind, stringText_eq,
    skipBlanks_cons, isBlank, stringBody_escaped]

/-- Behind the value of a member stands the brace, or a comma with more members. -/
theorem skipBlanks_others (spelt : SpellsMembers false members cs) (rest : List Char) :
    (members.isEmpty = true ∧ skipBlanks (cs ++ rest) = '}' :: rest) ∨
      (members.isEmpty = false ∧ ∃ ds, skipBlanks (cs ++ rest) = ',' :: ds) := by
  cases spelt with
  | nil hgap =>
      refine Or.inl ⟨rfl, ?_⟩
      simp [skipBlanks_append hgap, skipBlanks_cons, isBlank]
  | cons hbefore _ _ _ _ _ =>
      refine Or.inr ⟨rfl, ?_⟩
      rw [List.append_assoc, skipBlanks_append hbefore]
      exact ⟨_, skipBlanks_cons rfl⟩

theorem reads (choice : Choice α) : Reads choice.read choice.ofJson := by
  refine Reads.onNext fun {v c cs rest} spelt ends => ?_
  cases v with
  | string name =>
      obtain ⟨rfl, rfl⟩ := List.cons.inj spelt.eq_string
      simp [stringBody_escaped, ofJson]
  | object members =>
      generalize same : c :: cs = text at spelt
      cases spelt with
      | object spelt =>
          obtain ⟨rfl, rfl⟩ := List.cons.inj same
          rw [if_neg (by decide), if_pos rfl]
          cases spelt with
          | nil hgap =>
              simp [readOnlyKey, skipBlanks_append hgap, skipBlanks_cons, isBlank, ofJson,
                Except.map]
          | @cons _ name value others before behind colon gap cs ds hbefore hbehind hcolon hgap
              spelt others_spelt =>
              have content : (do takeColon; readNull : Reader Unit)
                  (colon ++ ':' :: (gap ++ (cs ++ (ds ++ rest)))) =
                    (ofNull value).map fun x => (x, ds ++ rest) := by
                rw [bind_of_ok (takeColon_append hcolon)]
                exact reads_null.append spelt hgap (others_spelt.ends rest)
              simp only [List.append_assoc, List.cons_append, readOnlyKey_entry hbefore hbehind,
                ofJson]
              cases choice.pick name with
              | error fault => rfl
              | ok x =>
                  simp only [content]
                  cases ofNull value with
                  | error fault => rfl
                  | ok _ =>
                      rcases skipBlanks_others others_spelt rest with
                        ⟨alone, left⟩ | ⟨more, _, left⟩
                      · simp only [Except.map, left, alone]
                        rfl
                      · simp only [Except.map, left, more]
                        rfl
  | null | bool _ | number _ | list _ =>
      rw [if_neg (by simp [spelt.quote_iff]), if_neg (by simp [spelt.brace_iff])]
      rfl

end Choice

end SpeechConfig.Json
