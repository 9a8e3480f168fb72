/-
# `SpeechConfig.Proofs.Json.Skipping` — a value that nobody asks for is passed over

## What is proved, with every binder written out

For every value `v` of any depth, every text `cs` of it, every `gap` of blanks and every `rest`
that may stand behind a value:

    skipValue (gap ++ (cs ++ rest)) = .ok ((), rest)

## Why the steps are counted

The skipper is a machine with a stack of open brackets and a number of steps that it may take.
`Skips cs` says that it goes over `cs` in fewer than two steps per character, whatever is open
around it and however many steps are left for what follows.  Elements and members are put
together from one lemma per step: a bracket closes (`skipFrom_close`), or the way to the next
value in it is found (`skipFrom_entry`).
-/
import SpeechConfig.Proofs.Json.Scalars

namespace SpeechConfig.Json

variable {v : Json} {items : List Json} {members : List (String × Json)} {first : Bool}
  {cs ds gap before behind body rest target : List Char} {c : Char} {key : String}
  {b : Bracket} {brackets : List Bracket} {m : Nat}

/-- The machine goes over a text, in whatever brackets it stands. -/
def Skips (cs : List Char) : Prop :=
  ∃ k, k < 2 * cs.length ∧ ∀ m brackets rest, Ends rest →
    skipFrom (m + k) .value brackets (cs ++ rest) = skipFrom m .after brackets rest

/-- Where the machine stands in front of an entry of a bracket. -/
def placeOf (first : Bool) : SkipPlace :=
  if first then .opened else .after

/-! ## Values without parts -/

theorem ne_bracket_of_start (start : IsStart c) : c ≠ b.closer := by
  cases b with
  | list => exact start.2.2.1
  | object => exact start.2.2.2

theorem skips_scalar (start : IsStart c) (no_list : c ≠ '[') (no_object : c ≠ '{')
    (h : ∀ rest, Ends rest → skipScalar c (cs ++ rest) = .ok rest) : Skips (c :: cs) := by
  refine ⟨1, by simp only [List.length_cons]; omega, fun m brackets rest ends => ?_⟩
  simp only [skipFrom, List.cons_append, skipBlanks_cons start.1, if_neg no_list, if_neg no_object,
    h rest ends]

theorem skips_number (n : Numeral) : Skips n.text := by
  rcases n.text_cases with ⟨-, text⟩ | ⟨-, text⟩
  · rw [text]
    refine skips_scalar (by decide) (by decide) (by decide) fun rest ends => ?_
    simp [skipScalar, skipNumber_unsigned ends]
  · obtain ⟨d, ds, spelt, digit⟩ := n.unsigned_eq_cons
    have other : ∀ e : Char, e.isDigit = false → d ≠ e := fun e he same => by
      rw [same, he] at digit
      cases digit
    rw [text, spelt]
    refine skips_scalar (IsStart.of_isDigit digit) (other _ rfl) (other _ rfl) fun rest ends => ?_
    have skipped := skipNumber_unsigned (n := n) ends
    rw [spelt, List.cons_append] at skipped
    rw [skipScalar, if_neg (other _ rfl), if_neg (other _ rfl), if_neg (other _ rfl),
      if_neg (other _ rfl), if_pos (isDigit_of_char digit), skipped]

theorem skips_string (s : String) : Skips (stringText s) := by
  refine skips_scalar (by decide) (by decide) (by decide) fun rest _ => ?_
  have skipped := skipString_escaped s rest
  simpa [skipScalar, isDigit] using skipped

theorem skips_null : Skips nullText :=
  skips_scalar (by decide) (by decide) (by decide) fun rest _ => by
    simp [skipScalar, literal, Except.map]

theorem skips_bool (b : Bool) : Skips (boolText b) := by
  cases b with
  | true =>
      exact skips_scalar (by decide) (by decide) (by decide) fun rest _ => by
        simp [skipScalar, literal, Except.map]
  | false =>
      exact skips_scalar (by decide) (by decide) (by decide) fun rest _ => by
        simp [skipScalar, literal, Except.map]

/-! ## Steps inside a bracket -/

theorem skipFrom_value_append (h : Blank gap) :
    skipFrom m .value brackets (gap ++ cs) = skipFrom m .value brackets cs := by
  cases m with
  | zero => rfl
  | succ m => simp only [skipFrom, skipBlanks_append h]

theorem skipFrom_close (h : Blank gap) :
    skipFrom (m + 1) (placeOf first) (b :: brackets) (gap ++ b.closer :: rest) =
      skipFrom m .after brackets rest := by
  have not_blank : isBlank b.closer = false := by cases b <;> rfl
  have not_comma : b.closer ≠ ',' := by cases b <;> decide
  cases first with
  | true => simp [placeOf, skipFrom, skipBlanks_append h, skipBlanks_cons not_blank]
  | false => simp [placeOf, skipFrom, skipBlanks_append h, skipBlanks_cons not_blank, not_comma]

theorem skipKey_append {colon : List Char} (hb : Blank behind) (hc : Blank colon) :
    skipKey (behind ++ (stringText key ++ (colon ++ ':' :: rest))) = .ok rest := by
  rw [skipKey, skipBlanks_append hb, stringText_eq, skipBlanks_cons (by decide)]
  simp [skipString_escaped, skipBlanks_append hc, skipBlanks_cons, isBlank]

theorem skipToValue_append (h : Blank gap) (found : skipToValue b cs = .ok target) :
    ∃ gap', Blank gap' ∧ skipToValue b (gap ++ cs) = .ok (gap' ++ target) := by
  cases b with
  | list =>
      obtain rfl := Except.ok.inj found
      exact ⟨gap, h, rfl⟩
  | object =>
      refine ⟨[], Blank.nil, ?_⟩
      simp only [skipToValue, skipKey, skipBlanks_append h] at found ⊢
      exact found

theorem skipFrom_entry (hbefore : Blank before) (hbehind : Blank behind) (start : IsStart c)
    (found : skipToValue b (c :: body) = .ok target) :
    skipFrom (m + 1) (placeOf first) (b :: brackets)
        (before ++ (separator first ++ (behind ++ c :: body))) =
      skipFrom m .value (b :: brackets) target := by
  cases first with
  | true =>
      simp [placeOf, separator, skipFrom, skipBlanks_append hbefore, skipBlanks_append hbehind,
        skipBlanks_cons start.1, ne_bracket_of_start start, found]
  | false =>
      obtain ⟨gap, hgap, behind_found⟩ := skipToValue_append hbehind found
      simp [placeOf, separator, skipFrom, skipBlanks_append hbefore, skipBlanks_cons, isBlank,
        behind_found, skipFrom_value_append hgap]

/-! ## Values of any depth -/

/-- The machine goes over the rest of a bracket with the bracket that closes it. -/
def SkipsRest (b : Bracket) (first : Bool) (cs : List Char) : Prop :=
  ∃ k, k < 2 * cs.length ∧ ∀ m brackets rest,
    skipFrom (m + k) (placeOf first) (b :: brackets) (cs ++ rest) = skipFrom m .after brackets rest

theorem skipsRest_nil (h : Blank gap) : SkipsRest b first (gap ++ [b.closer]) := by
  refine ⟨1, by simp only [List.length_append, List.length_singleton]; omega,
    fun m brackets rest => ?_⟩
  rw [List.append_assoc]
  exact skipFrom_close h

/-- An entry of a bracket, whose value is spelt `cs`, and behind it the rest `ds` of the bracket. -/
theorem skipsRest_cons {entry : List Char} (hbefore : Blank before) (hbehind : Blank behind)
    (hgap : Blank gap) (start : ∃ c body, entry = c :: body ∧ IsStart c)
    (found : ∀ rest, skipToValue b (entry ++ rest) = .ok (gap ++ (cs ++ (ds ++ rest))))
    (long : cs.length + ds.length ≤ entry.length) (value : Skips cs)
    (ends : ∀ rest, Ends (ds ++ rest)) (others : SkipsRest b false ds) :
    SkipsRest b first (before ++ (separator first ++ (behind ++ entry))) := by
  obtain ⟨k, few, goes⟩ := value
  obtain ⟨l, few', goes'⟩ := others
  obtain ⟨c, body, rfl, start⟩ := start
  refine ⟨l + k + 1, ?_, fun m brackets rest => ?_⟩
  · simp only [List.length_append]
    omega
  · calc skipFrom (m + (l + k + 1)) (placeOf first) (b :: brackets)
          (before ++ (separator first ++ (behind ++ c :: body)) ++ rest)
        = skipFrom (m + l + k + 1) (placeOf first) (b :: brackets)
            (before ++ (separator first ++ (behind ++ c :: (body ++ rest)))) := by
          simp only [List.append_assoc, List.cons_append, Nat.add_assoc]
      _ = skipFrom (m + l + k) .value (b :: brackets) (gap ++ (cs ++ (ds ++ rest))) :=
          skipFrom_entry hbefore hbehind start (found rest)
      _ = skipFrom (m + l + k) .value (b :: brackets) (cs ++ (ds ++ rest)) :=
          skipFrom_value_append hgap
      _ = skipFrom (m + l) .after (b :: brackets) (ds ++ rest) := goes _ _ _ (ends rest)
      _ = skipFrom m .after brackets rest := goes' m brackets rest

/-- A bracket takes one step more than what stands in it. -/
theorem skips_bracket (opener : b = .list ∧ c = '[' ∨ b = .object ∧ c = '{')
    (inside : SkipsRest b true cs) : Skips (c :: cs) := by
  obtain ⟨k, few, goes⟩ := inside
  refine ⟨k + 1, ?_, fun m brackets rest _ => ?_⟩
  · simp only [List.length_cons]
    omega
  · rw [← goes m brackets rest, ← Nat.add_assoc]
    rcases opener with ⟨rfl, rfl⟩ | ⟨rfl, rfl⟩
    · rw [List.cons_append, skipFrom, skipBlanks_cons (by decide)]
      rfl
    · rw [List.cons_append, skipFrom, skipBlanks_cons (by decide)]
      rfl

theorem SpellsItems.skips (h : ∀ item ∈ items, ∀ cs, Spells item cs → Skips cs) :
    ∀ {first : Bool} {cs : List Char}, SpellsItems first items cs → SkipsRest .list first cs := by
  induction items with
  | nil =>
      intro first cs spelt
      cases spelt with
      | nil gap => exact skipsRest_nil gap
  | cons item rest ih =>
      intro first cs spelt
      cases spelt with
      | @cons _ _ _ before behind cs ds hbefore hbehind value others =>
          obtain ⟨c, body, rfl, start⟩ := value.starts
          exact skipsRest_cons hbefore hbehind Blank.nil ⟨c, _, rfl, start⟩
            (fun rest => by simp [skipToValue]) (List.length_append ▸ Nat.le_refl _)
            (h item List.mem_cons_self _ value) (fun _ => others.ends _)
            (ih (fun item mem => h item (List.mem_cons_of_mem _ mem)) others)

theorem SpellsMembers.skips (h : ∀ member ∈ members, ∀ cs, Spells member.2 cs → Skips cs) :
    ∀ {first : Bool} {cs : List Char},
      SpellsMembers first members cs → SkipsRest .object first cs := by
  induction members with
  | nil =>
      intro first cs spelt
      cases spelt with
      | nil gap => exact skipsRest_nil gap
  | cons member rest ih =>
      intro first cs spelt
      cases spelt with
      | @cons _ key value _ before behind colon gap cs ds hbefore hbehind hcolon hgap spelt
          others =>
          have found : ∀ rest, skipToValue .object
              (stringText key ++ (colon ++ ':' :: (gap ++ (cs ++ ds))) ++ rest) =
                .ok (gap ++ (cs ++ (ds ++ rest))) := fun rest => by
            have passed : skipKey ([] ++ (stringText key ++
                (colon ++ ':' :: (gap ++ (cs ++ (ds ++ rest)))))) =
                  .ok (gap ++ (cs ++ (ds ++ rest))) :=
              skipKey_append Blank.nil hcolon
            simpa [skipToValue] using passed
          exact skipsRest_cons hbefore hbehind hgap ⟨'"', _, rfl, by decide⟩ found
            (by simp only [List.length_append, List.length_cons]; omega)
            (h _ List.mem_cons_self _ spelt) (fun _ => others.ends _)
            (ih (fun member mem => h member (List.mem_cons_of_mem _ mem)) others)

/-- The machine goes over every text of every value. -/
theorem Spells.skips : ∀ {cs : List Char}, Spells v cs → Skips cs := by
  induction v using Json.induction with
  | null => intro cs h; cases h; exact skips_null
  | bool b => intro cs h; cases h; exact skips_bool b
  | number n => intro cs h; cases h; exact skips_number n
  | string s => intro cs h; cases h; exact skips_string s
  | list items ih =>
      intro cs h
      cases h with
      | list spelt =>
          exact skips_bracket (Or.inl ⟨rfl, rfl⟩) (spelt.skips fun item mem _ => ih item mem)
  | object members ih =>
      intro cs h
      cases h with
      | object spelt =>
          exact skips_bracket (Or.inr ⟨rfl, rfl⟩) (spelt.skips fun member mem _ => ih member mem)

/-- The main result: a value is passed over, with the blanks before it and nothing behind it. -/
theorem skipValue_append (spelt : Spells v cs) (hgap : Blank gap) (ends : Ends rest) :
    skipValue (gap ++ (cs ++ rest)) = .ok ((), rest) := by
  obtain ⟨k, few, goes⟩ := spelt.skips
  have enough : 2 * (gap ++ (cs ++ rest)).length + 2 =
      2 * (gap ++ (cs ++ rest)).length + 1 - k + 1 + k := by
    simp only [List.length_append]
    omega
  rw [skipValue, enough, skipFrom_value_append hgap, goes _ _ _ ends]
  rfl

end SpeechConfig.Json
