/-
# `SpeechConfig.Proofs.Json.Spelling` — the texts of a value

## What is proved, with every binder written out

A value has many texts: blanks may stand in front of every element, key, colon, comma and
closing bracket, and around the whole.  `Spells v cs` says that `cs` is a text of `v`, blanks
around it left aside, and `v.IsDocument text` that `text` is one with them.  For every value `v`

    v.IsDocument v.compact  ∧  v.IsDocument v.pretty

so that what is proved for every text of a value holds of the two that are written.

## What a reader may rely on

A text of a value starts with a character of its own (`Spells.starts`), and behind it, inside a
bracket or at the end, stands nothing that could belong to it (`Ends`).  The second matters for
numbers alone, which have no end of their own.
-/
import SpeechConfig.Json.Scan
import SpeechConfig.Json.Value

namespace SpeechConfig.Json

/-- The values below a value come first. -/
@[elab_as_elim]
theorem induction {motive : Json → Prop} (null : motive .null) (bool : ∀ b, motive (.bool b))
    (number : ∀ n, motive (.number n)) (string : ∀ s, motive (.string s))
    (list : ∀ items, (∀ item ∈ items, motive item) → motive (.list items))
    (object : ∀ members, (∀ member ∈ members, motive member.2) → motive (.object members)) :
    ∀ v, motive v
  | .null => null
  | .bool b => bool b
  | .number n => number n
  | .string s => string s
  | .list items =>
      list items fun item _ => induction null bool number string list object item
  | .object members =>
      object members fun member _ => induction null bool number string list object member.2
termination_by v => sizeOf v
decreasing_by
  · next mem =>
      have smaller := List.sizeOf_lt_of_mem mem
      simp only [Json.list.sizeOf_spec]
      omega
  · next mem =>
      have smaller := List.sizeOf_lt_of_mem mem
      have part : sizeOf member.2 < sizeOf member := by
        cases member
        simp only [Prod.mk.sizeOf_spec]
        omega
      simp only [Json.object.sizeOf_spec]
      omega

/-! ## Texts of a value -/

def Blank (cs : List Char) : Prop :=
  ∀ c ∈ cs, isBlank c = true

/-- What divides an entry of a bracket from the one before it. -/
def separator (first : Bool) : List Char :=
  if first then [] else [',']

mutual

/-- A text of a value, without blanks around it. -/
inductive Spells : Json → List Char → Prop
  | null : Spells .null nullText
  | bool (b : Bool) : Spells (.bool b) (boolText b)
  | number (n : Numeral) : Spells (.number n) n.text
  | string (s : String) : Spells (.string s) (stringText s)
  | list {items : List Json} {cs : List Char} :
      SpellsItems true items cs → Spells (.list items) ('[' :: cs)
  | object {members : List (String × Json)} {cs : List Char} :
      SpellsMembers true members cs → Spells (.object members) ('{' :: cs)

/-- A text of elements with the closing bracket. -/
inductive SpellsItems : Bool → List Json → List Char → Prop
  | nil {first : Bool} {gap : List Char} : Blank gap → SpellsItems first [] (gap ++ [']'])
  | cons {first : Bool} {item : Json} {rest : List Json} {before behind cs ds : List Char} :
      Blank before → Blank behind → Spells item cs → SpellsItems false rest ds →
      SpellsItems first (item :: rest) (before ++ (separator first ++ (behind ++ (cs ++ ds))))

/-- A text of members with the closing brace. -/
inductive SpellsMembers : Bool → List (String × Json) → List Char → Prop
  | nil {first : Bool} {gap : List Char} : Blank gap → SpellsMembers first [] (gap ++ ['}'])
  | cons {first : Bool} {key : String} {value : Json} {rest : List (String × Json)}
      {before behind colon gap cs ds : List Char} :
      Blank before → Blank behind → Blank colon → Blank gap → Spells value cs →
      SpellsMembers false rest ds →
      SpellsMembers first ((key, value) :: rest)
        (before ++ (separator first ++ (behind ++ (stringText key ++
          (colon ++ ':' :: (gap ++ (cs ++ ds)))))))

end

/-- A whole text of a value. -/
def IsDocument (v : Json) (text : String) : Prop :=
  ∃ before cs behind, Blank before ∧ Spells v cs ∧ Blank behind ∧
    text.toList = before ++ (cs ++ behind)

/-- What may stand behind a value: nothing, a blank, a comma or a closing bracket. -/
def Ends (rest : List Char) : Prop :=
  ∀ c ∈ rest.head?, isBlank c = true ∨ c = ',' ∨ c = ']' ∨ c = '}'

variable {first : Bool} {v : Json} {items : List Json} {members : List (String × Json)}
  {cs ds gap rest : List Char} {c : Char}

/-! ## Blanks -/

theorem Blank.nil : Blank [] :=
  fun _ h => absurd h List.not_mem_nil

theorem blank_newLine (level : Nat) : Blank (newLine level) := by
  intro c h
  rcases List.mem_cons.mp h with rfl | h
  · rfl
  · rw [List.eq_of_mem_replicate h]
    rfl

theorem skipBlanks_append (h : Blank gap) : skipBlanks (gap ++ cs) = skipBlanks cs :=
  List.dropWhile_append_of_pos h

theorem skipBlanks_cons (h : isBlank c = false) : skipBlanks (c :: cs) = c :: cs :=
  List.dropWhile_cons_of_neg (by simp [h])

theorem skipBlanks_of_blank (h : Blank gap) : skipBlanks gap = [] := by
  have whole : skipBlanks (gap ++ []) = [] := skipBlanks_append h
  rwa [List.append_nil] at whole

/-! ## The ends of a text -/

theorem Ends.nil : Ends [] := by
  intro c h
  simp at h

theorem Ends.cons (h : isBlank c = true ∨ c = ',' ∨ c = ']' ∨ c = '}') : Ends (c :: cs) := by
  intro d hd
  obtain rfl : c = d := by simpa using hd
  exact h

theorem Ends.append (h : Blank gap) (ends : Ends rest) : Ends (gap ++ rest) := by
  cases gap with
  | nil => exact ends
  | cons c gap => exact Ends.cons (Or.inl (h c List.mem_cons_self))

theorem Ends.of_blank (h : Blank gap) : Ends gap := by
  simpa using Ends.append h Ends.nil

theorem SpellsItems.ends (h : SpellsItems false items ds) (rest : List Char) :
    Ends (ds ++ rest) := by
  cases h with
  | nil gap =>
      rw [List.append_assoc]
      exact Ends.append gap (Ends.cons (Or.inr (Or.inr (Or.inl rfl))))
  | cons before _ _ _ =>
      rw [List.append_assoc]
      exact Ends.append before (Ends.cons (Or.inr (Or.inl rfl)))

theorem SpellsMembers.ends (h : SpellsMembers false members ds) (rest : List Char) :
    Ends (ds ++ rest) := by
  cases h with
  | nil gap =>
      rw [List.append_assoc]
      exact Ends.append gap (Ends.cons (Or.inr (Or.inr (Or.inr rfl))))
  | cons before _ _ _ _ _ =>
      rw [List.append_assoc]
      exact Ends.append before (Ends.cons (Or.inr (Or.inl rfl)))

/-! ## The start of a text -/

/-- A character that a value can start with. -/
def IsStart (c : Char) : Prop :=
  isBlank c = false ∧ c ≠ ',' ∧ c ≠ ']' ∧ c ≠ '}'

instance (c : Char) : Decidable (IsStart c) :=
  inferInstanceAs (Decidable (_ ∧ _))

theorem IsStart.of_isDigit (h : c.isDigit = true) : IsStart c := by
  have not_blank : isBlank c = false := by
    refine Bool.eq_false_iff.mpr fun blank => ?_
    simp only [isBlank, Bool.or_eq_true, beq_iff_eq] at blank
    rcases blank with ((rfl | rfl) | rfl) | rfl <;> exact absurd h (by decide)
  refine ⟨not_blank, ?_, ?_, ?_⟩ <;>
    · rintro rfl
      exact absurd h (by decide)

/-- The decimals of a number with their point. -/
def Numeral.decimals (n : Numeral) : List Char :=
  if n.fraction.isEmpty then [] else '.' :: n.fraction.map fun d => Nat.digitChar d.val

/-- The exponent of a number with its letter. -/
def Numeral.power (n : Numeral) : List Char :=
  match n.exponent with
  | none => []
  | some e => 'e' :: (if e < 0 then ['-'] else []) ++ Nat.toDigits 10 e.natAbs

def Numeral.unsigned (n : Numeral) : List Char :=
  Nat.toDigits 10 n.whole ++ (n.decimals ++ n.power)

theorem Numeral.text_eq (n : Numeral) :
    n.text = (if n.negative then ['-'] else []) ++ n.unsigned := by
  have parts : n.text = (if n.negative then ['-'] else []) ++ Nat.toDigits 10 n.whole ++
      n.decimals ++ n.power := rfl
  rw [parts, List.append_assoc, List.append_assoc, unsigned]

theorem toDigits_eq_cons (n : Nat) : ∃ d ds, Nat.toDigits 10 n = d :: ds ∧ d.isDigit = true := by
  obtain ⟨d, ds, spelt⟩ := List.exists_cons_of_ne_nil (Nat.toDigits_ne_nil (b := 10) (n := n))
  refine ⟨d, ds, spelt, ?_⟩
  exact Nat.isDigit_of_mem_toDigits (b := 10) (by decide) (by decide) (spelt ▸ List.mem_cons_self)

theorem Numeral.unsigned_eq_cons (n : Numeral) :
    ∃ d ds, n.unsigned = d :: ds ∧ d.isDigit = true := by
  obtain ⟨d, ds, spelt, digit⟩ := toDigits_eq_cons n.whole
  exact ⟨d, _, by rw [unsigned, spelt, List.cons_append], digit⟩

theorem Numeral.text_cases (n : Numeral) :
    (n.negative = true ∧ n.text = '-' :: n.unsigned) ∨
      (n.negative = false ∧ n.text = n.unsigned) := by
  rw [n.text_eq]
  cases n.negative with
  | true => exact Or.inl ⟨rfl, rfl⟩
  | false => exact Or.inr ⟨rfl, rfl⟩

theorem Numeral.text_starts (n : Numeral) : ∃ c cs, n.text = c :: cs ∧ IsStart c := by
  rcases n.text_cases with ⟨-, text⟩ | ⟨-, text⟩
  · exact ⟨'-', _, text, by decide⟩
  · obtain ⟨d, ds, spelt, digit⟩ := n.unsigned_eq_cons
    exact ⟨d, ds, text.trans spelt, IsStart.of_isDigit digit⟩

theorem Spells.starts (h : Spells v cs) : ∃ c cs', cs = c :: cs' ∧ IsStart c := by
  cases h with
  | null => exact ⟨'n', _, rfl, by decide⟩
  | bool b =>
      cases b with
      | true => exact ⟨'t', _, rfl, by decide⟩
      | false => exact ⟨'f', _, rfl, by decide⟩
  | number n => exact n.text_starts
  | string s => exact ⟨'"', _, rfl, by decide⟩
  | list _ => exact ⟨'[', _, rfl, by decide⟩
  | object _ => exact ⟨'{', _, rfl, by decide⟩

/-! ## The only text of a short value -/

theorem Spells.eq_null (h : Spells .null cs) : cs = nullText := by
  cases h
  rfl

theorem Spells.eq_bool {b : Bool} (h : Spells (.bool b) cs) : cs = boolText b := by
  cases h
  rfl

theorem Spells.eq_string {s : String} (h : Spells (.string s) cs) : cs = stringText s := by
  cases h
  rfl

/-! ## The two texts that are written -/

theorem spellsItems_compact (h : ∀ item ∈ items, Spells item (compactChars item)) (first : Bool) :
    SpellsItems first items (compactItems first items) := by
  induction items generalizing first with
  | nil => exact .nil Blank.nil
  | cons item rest ih =>
      rw [compactItems, List.append_assoc]
      exact .cons Blank.nil Blank.nil (h item List.mem_cons_self)
        (ih (fun item mem => h item (List.mem_cons_of_mem _ mem)) false)

theorem spellsMembers_compact (h : ∀ member ∈ members, Spells member.2 (compactChars member.2))
    (first : Bool) : SpellsMembers first members (compactMembers first members) := by
  induction members generalizing first with
  | nil => exact .nil Blank.nil
  | cons member rest ih =>
      obtain ⟨key, value⟩ := member
      have others := ih (fun member mem => h member (List.mem_cons_of_mem _ mem)) false
      have spelt : SpellsMembers first ((key, value) :: rest) _ :=
        .cons Blank.nil Blank.nil Blank.nil Blank.nil (h _ List.mem_cons_self) others
      simpa [compactMembers, separator] using spelt

theorem spells_compactChars (v : Json) : Spells v (compactChars v) := by
  induction v using Json.induction with
  | null => rw [compactChars]; exact .null
  | bool b => rw [compactChars]; exact .bool b
  | number n => rw [compactChars]; exact .number n
  | string s => rw [compactChars]; exact .string s
  | list items ih => rw [compactChars]; exact .list (spellsItems_compact ih true)
  | object members ih => rw [compactChars]; exact .object (spellsMembers_compact ih true)

theorem blank_closing (first : Bool) (level : Nat) :
    Blank (if first then [] else newLine level) := by
  cases first with
  | true => exact Blank.nil
  | false => exact blank_newLine level

theorem spellsItems_pretty {level : Nat}
    (h : ∀ item ∈ items, Spells item (prettyChars (level + 1) item)) (first : Bool) :
    SpellsItems first items (prettyItems level first items) := by
  induction items generalizing first with
  | nil =>
      rw [prettyItems]
      exact .nil (blank_closing first level)
  | cons item rest ih =>
      have others := ih (fun item mem => h item (List.mem_cons_of_mem _ mem)) false
      have spelt : SpellsItems first (item :: rest) _ :=
        .cons Blank.nil (blank_newLine (level + 1)) (h item List.mem_cons_self) others
      simpa [prettyItems, separator] using spelt

theorem spellsMembers_pretty {level : Nat}
    (h : ∀ member ∈ members, Spells member.2 (prettyChars (level + 1) member.2)) (first : Bool) :
    SpellsMembers first members (prettyMembers level first members) := by
  induction members generalizing first with
  | nil =>
      rw [prettyMembers]
      exact .nil (blank_closing first level)
  | cons member rest ih =>
      obtain ⟨key, value⟩ := member
      have space : Blank [' '] := by simp [Blank, isBlank]
      have others := ih (fun member mem => h member (List.mem_cons_of_mem _ mem)) false
      have spelt : SpellsMembers first ((key, value) :: rest) _ :=
        .cons Blank.nil (blank_newLine (level + 1)) Blank.nil space (h _ List.mem_cons_self) others
      simpa [prettyMembers, separator] using spelt

theorem spells_prettyChars (v : Json) : ∀ level, Spells v (prettyChars level v) := by
  induction v using Json.induction with
  | null => intro level; rw [prettyChars]; exact .null
  | bool b => intro level; rw [prettyChars]; exact .bool b
  | number n => intro level; rw [prettyChars]; exact .number n
  | string s => intro level; rw [prettyChars]; exact .string s
  | list items ih =>
      intro level
      rw [prettyChars]
      exact .list (spellsItems_pretty (fun item mem => ih item mem (level + 1)) true)
  | object members ih =>
      intro level
      rw [prettyChars]
      exact .object (spellsMembers_pretty (fun member mem => ih member mem (level + 1)) true)

theorem isDocument_of_spells (h : Spells v cs) : v.IsDocument (String.ofList cs) :=
  ⟨[], cs, [], Blank.nil, h, Blank.nil, by simp⟩

theorem isDocument_compact (v : Json) : v.IsDocument v.compact :=
  isDocument_of_spells (spells_compactChars v)

theorem isDocument_pretty (v : Json) : v.IsDocument v.pretty :=
  isDocument_of_spells (spells_prettyChars v 0)

end SpeechConfig.Json
