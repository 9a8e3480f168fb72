/-
# `SpeechConfig.Proofs.Json.Scalars` — strings and numbers are read to their ends

## What is proved, with every binder written out

For every string `s`, every number `n` and every text `rest`:

    stringFrom strict [] .plain (s.toList.flatMap escapeChar ++ '"' :: rest) = .ok (s.toList, rest)
    Ends rest → skipNumber (n.unsigned ++ rest) = .ok rest
    Ends rest → readNumber b (n.unsigned ++ rest) = readNumber b n.unsigned

A string has a quote at its end, a number has not: its digits go on as long as there are any.
So the statements on numbers are made for a `rest` that may stand behind a value, and come down
to one fact about runs of digits in front of something else (`Bounded`).
-/
import SpeechConfig.Json.Read
import SpeechConfig.Proofs.Json.Spelling

namespace SpeechConfig.Json

variable {strict : Bool} {text cs ds rest : List Char} {c : Char}

/-! ## Strings -/

theorem hexValue?_digitChar : ∀ d < 16, hexValue? (Nat.digitChar d) = some d := by
  decide

theorem hasFourOctets_cons (a b c d : Char) (cs : List Char) :
    hasFourOctets (a :: b :: c :: d :: cs) = true := by
  have ha := Char.utf8Size_pos a
  have hb := Char.utf8Size_pos b
  have hc := Char.utf8Size_pos c
  have hd := Char.utf8Size_pos d
  simp only [hasFourOctets, List.take, List.foldl, decide_eq_true_eq]
  omega

theorem stringFrom_number (h : c.toNat < 0x20) :
    stringFrom strict text .plain (['\\', 'u', '0', '0', Nat.digitChar (c.toNat / 16),
      Nat.digitChar (c.toNat % 16)] ++ rest) = stringFrom strict (c :: text) .plain rest := by
  have high := hexValue?_digitChar (c.toNat / 16) (by omega)
  have low := hexValue?_digitChar (c.toNat % 16) (by omega)
  have zero : hexValue? '0' = some 0 := rfl
  have value : ((0 * 16 + 0) * 16 + 0) * 16 + c.toNat / 16 = c.toNat / 16 := by omega
  have whole : c.toNat / 16 * 16 + c.toNat % 16 = c.toNat := by omega
  have closed : closeHex strict c.toNat none = .ok ([c], .plain) := by
    cases strict with
    | false => simp [closeHex]
    | true =>
        rw [closeHex, if_neg (by simp), if_neg (by omega), if_neg (by omega), Char.ofNat_toNat]
  simp [stringFrom, hasFourOctets_cons, high, low, zero, whole, closed]

theorem stringFrom_escapeChar (c : Char) (rest : List Char) :
    stringFrom strict text .plain (escapeChar c ++ rest) =
      stringFrom strict (c :: text) .plain rest := by
  unfold escapeChar
  split
  · next h => subst h; simp [stringFrom, shortEscape?]
  split
  · next h => subst h; simp [stringFrom, shortEscape?]
  split
  · next h => subst h; simp [stringFrom, shortEscape?]
  split
  · next h => subst h; simp [stringFrom, shortEscape?]
  split
  · next h => subst h; simp [stringFrom, shortEscape?]
  split
  · next h => subst h; simp [stringFrom, shortEscape?]
  split
  · next h => subst h; simp [stringFrom, shortEscape?]
  split
  · next small => exact stringFrom_number small
  · next no_quote no_backslash _ _ _ _ _ plain =>
      rw [List.singleton_append, stringFrom, if_neg no_quote, if_neg no_backslash, if_neg plain]

theorem stringFrom_escaped (cs rest : List Char) :
    ∀ text, stringFrom strict text .plain (cs.flatMap escapeChar ++ '"' :: rest) =
      .ok (text.reverse ++ cs, rest) := by
  induction cs with
  | nil => intro text; simp [stringFrom]
  | cons c cs ih =>
      intro text
      rw [List.flatMap_cons, List.append_assoc, stringFrom_escapeChar, ih]
      simp

theorem stringText_eq (s : String) (rest : List Char) :
    stringText s ++ rest = '"' :: (s.toList.flatMap escapeChar ++ '"' :: rest) := by
  simp [stringText]

theorem stringBody_escaped (s : String) (rest : List Char) :
    stringBody (s.toList.flatMap escapeChar ++ '"' :: rest) = .ok (s, rest) := by
  simp [stringBody, stringFrom_escaped]

theorem skipString_escaped (s : String) (rest : List Char) :
    skipString (s.toList.flatMap escapeChar ++ '"' :: rest) = .ok rest := by
  simp [skipString, stringFrom_escaped, Except.map]

/-! ## Runs of digits -/

/-- Nothing that a run of digits could go on with. -/
def Bounded (cs : List Char) : Prop :=
  ∀ c ∈ cs.head?, isDigit c = false

def Digits (ds : List Char) : Prop :=
  ∀ d ∈ ds, isDigit d = true

theorem Bounded.nil : Bounded [] := by
  simp [Bounded]

theorem Digits.nil : Digits [] :=
  nofun

theorem takeWhile_digits (h : Digits ds) (bound : Bounded cs) :
    (ds ++ cs).takeWhile isDigit = ds := by
  rw [List.takeWhile_append_of_pos h]
  cases cs with
  | nil => simp
  | cons c cs => simp [bound c rfl]

theorem dropWhile_digits (h : Digits ds) (bound : Bounded cs) :
    (ds ++ cs).dropWhile isDigit = cs := by
  rw [List.dropWhile_append_of_pos h]
  cases cs with
  | nil => rfl
  | cons c cs => simp [bound c rfl]

theorem any_head?_of_bounded (bound : Bounded cs) : cs.head?.any isDigit = false := by
  cases cs with
  | nil => rfl
  | cons c cs => exact bound c rfl

/-- What is left of a run of digits when no more of them are taken. -/
theorem absorbDigits_append (bound : Bounded cs) :
    ∀ (ds : List Char) (n taken : Nat), Digits ds →
      ∃ m count left, Digits left ∧
        absorbDigits n taken (ds ++ cs) = (m, count, left ++ cs) ∧
        absorbDigits n taken ds = (m, count, left) := by
  intro ds
  induction ds with
  | nil =>
      intro n taken h
      refine ⟨n, taken, [], h, ?_, rfl⟩
      cases cs with
      | nil => rfl
      | cons c cs => simp [absorbDigits, bound c rfl]
  | cons d ds ih =>
      intro n taken h
      have digits : Digits ds := fun x hx => h x (List.mem_cons_of_mem d hx)
      rw [List.cons_append, absorbDigits, absorbDigits]
      split
      · exact ih _ _ digits
      · exact ⟨n, taken, d :: ds, h, rfl, rfl⟩

theorem isDigit_of_char (h : c.isDigit = true) : isDigit c = true := by
  simpa [isDigit, Char.isDigit, Char.le_def] using h

theorem digits_toDigits (n : Nat) : Digits (Nat.toDigits 10 n) :=
  fun _ h => isDigit_of_char (Nat.isDigit_of_mem_toDigits (by decide) (by decide) h)

theorem digits_fraction (fraction : List (Fin 10)) :
    Digits (fraction.map fun d => Nat.digitChar d.val) := by
  intro d hd
  obtain ⟨i, -, rfl⟩ := List.mem_map.mp hd
  have digit : ∀ i : Fin 10, isDigit (Nat.digitChar i.val) = true := by decide
  exact digit i

/-- A number has no zero in front but the one it consists of. -/
theorem toDigits_head {n : Nat} (h : (Nat.toDigits 10 n).head? = some '0') : n = 0 := by
  induction n using Nat.strongRecOn with
  | ind n ih =>
      rcases Nat.lt_or_ge n 10 with small | large
      · rw [Nat.toDigits_of_lt_base small] at h
        simpa using h
      · rw [Nat.toDigits_of_base_le (by decide) large] at h
        obtain ⟨d, ds, tens, -⟩ := toDigits_eq_cons (n / 10)
        have no_tens := ih (n / 10) (by omega) (by simpa [tens] using h)
        omega

/-! ## Numbers -/

theorem Ends.bounded (ends : Ends rest) :
    Bounded rest ∧ ∀ c ∈ rest.head?, c ≠ '.' ∧ c ≠ 'e' ∧ c ≠ 'E' := by
  have apart : ∀ c ∈ rest.head?, isDigit c = false ∧ c ≠ '.' ∧ c ≠ 'e' ∧ c ≠ 'E' := by
    intro c hc
    have closing := ends c hc
    simp only [isBlank, Bool.or_eq_true, beq_iff_eq] at closing
    rcases closing with (((rfl | rfl) | rfl) | rfl) | rfl | rfl | rfl <;> decide
  exact ⟨fun c hc => (apart c hc).1, fun c hc => (apart c hc).2⟩

variable {n : Numeral}

theorem Numeral.bounded_power (ends : Ends rest) : Bounded (n.power ++ rest) := by
  unfold power
  cases n.exponent with
  | none => exact ends.bounded.1
  | some e =>
      intro c hc
      obtain rfl : 'e' = c := by simpa using hc
      rfl

theorem Numeral.power_head (ends : Ends rest) : ∀ c ∈ (n.power ++ rest).head?, c ≠ '.' := by
  unfold power
  cases n.exponent with
  | none => exact fun c hc => (ends.bounded.2 c hc).1
  | some e =>
      intro c hc
      obtain rfl : 'e' = c := by simpa using hc
      decide

theorem Numeral.bounded_decimals (ends : Ends rest) :
    Bounded (n.decimals ++ (n.power ++ rest)) := by
  unfold decimals
  split
  · exact bounded_power ends
  · intro c hc
    obtain rfl : '.' = c := by simpa using hc
    rfl

/-! ### Passing over a number -/

theorem skipDigits_append (digits : Digits ds) (some : ds ≠ []) (bound : Bounded cs) :
    skipDigits (ds ++ cs) = .ok cs := by
  obtain ⟨d, ds, rfl⟩ := List.exists_cons_of_ne_nil some
  rw [skipDigits, dropWhile_digits digits bound, if_pos]
  simp [digits d List.mem_cons_self]

theorem skipExponent_append (digits : Digits ds) (some : ds ≠ []) (bound : Bounded cs)
    (down : Bool) : skipExponent ((if down then ['-'] else []) ++ (ds ++ cs)) = .ok cs := by
  cases down with
  | true => exact skipDigits_append digits some bound
  | false =>
      rw [← skipDigits_append digits some bound]
      obtain ⟨d, ds, rfl⟩ := List.exists_cons_of_ne_nil some
      have digit := digits d List.mem_cons_self
      simp only [Bool.false_eq_true, if_false, List.nil_append, List.cons_append]
      unfold skipExponent
      split
      · next sign => cases sign; exact absurd digit (by decide)
      · next sign => cases sign; exact absurd digit (by decide)
      · rfl

theorem skipTail_power (ends : Ends rest) : skipTail (n.power ++ rest) = .ok rest := by
  unfold Numeral.power
  cases n.exponent with
  | none =>
      have plain := ends.bounded.2
      rw [List.nil_append]
      unfold skipTail
      split
      · exact absurd rfl (plain 'e' rfl).2.1
      · exact absurd rfl (plain 'E' rfl).2.2
      · rfl
  | some e =>
      have skipped := skipExponent_append (digits_toDigits e.natAbs) Nat.toDigits_ne_nil
        ends.bounded.1 (decide (e < 0))
      simpa [skipTail] using skipped

theorem skipFraction_decimals (ends : Ends rest) :
    skipFraction (n.decimals ++ (n.power ++ rest)) = .ok rest := by
  unfold Numeral.decimals
  split
  · have plain := Numeral.power_head (n := n) ends
    rw [List.nil_append, ← skipTail_power (n := n) ends]
    unfold skipFraction
    split
    · next point => exact absurd rfl (plain '.' (by simp [point]))
    · rfl
  · next some =>
      have digits := skipDigits_append (digits_fraction n.fraction) (by simpa using some)
        (Numeral.bounded_power (n := n) ends)
      rw [List.cons_append, skipFraction, digits]
      exact skipTail_power ends

theorem skipNumber_unsigned (ends : Ends rest) : skipNumber (n.unsigned ++ rest) = .ok rest := by
  have bound := Numeral.bounded_decimals (n := n) ends
  have skipped := skipDigits_append (digits_toDigits n.whole) Nat.toDigits_ne_nil bound
  simp only [Numeral.unsigned, List.append_assoc]
  unfold skipNumber
  split
  · next cs zero =>
      -- a zero in front is the whole part
      have head : (Nat.toDigits 10 n.whole).head? = some '0' := by
        obtain ⟨d, ds, digits, -⟩ := toDigits_eq_cons n.whole
        rw [digits] at zero ⊢
        exact congrArg some (List.cons.inj zero).1
      rw [toDigits_head head] at zero
      obtain rfl := (List.cons.inj zero).2
      rw [any_head?_of_bounded (by simpa using bound), if_neg Bool.false_ne_true]
      exact skipFraction_decimals ends
  · rw [skipped]
    exact skipFraction_decimals ends

/-! ### Reading a number

What is read of a number does not depend on what stands behind it. -/

variable {negative : Bool} {digits : Nat} {scale : Int}

theorem readExponent_append (down : Bool) (h : Digits ds) (some : ds ≠ []) (bound : Bounded cs) :
    readExponent negative digits scale ((if down then ['-'] else []) ++ (ds ++ cs)) =
      readExponent negative digits scale ((if down then ['-'] else []) ++ ds) := by
  have taken : (ds ++ cs).takeWhile isDigit = ds.takeWhile isDigit := by
    rw [takeWhile_digits h bound]
    simpa using (takeWhile_digits h Bounded.nil).symm
  obtain ⟨d, ds, rfl⟩ := List.exists_cons_of_ne_nil some
  have digit := h d List.mem_cons_self
  cases down with
  | true =>
      simp only [List.cons_append] at taken
      simp only [readExponent, if_true, List.cons_append, List.nil_append, taken]
  | false =>
      have no_plus : d ≠ '+' := by
        rintro rfl
        exact absurd digit (by decide)
      have no_minus : d ≠ '-' := by
        rintro rfl
        exact absurd digit (by decide)
      simp only [List.cons_append] at taken
      simp [readExponent, no_plus, no_minus, taken]

theorem readTail_power (ends : Ends rest) :
    readTail negative digits scale (n.power ++ rest) = readTail negative digits scale n.power := by
  unfold Numeral.power
  cases n.exponent with
  | none =>
      have plain := ends.bounded.2
      cases rest with
      | nil => rfl
      | cons c rest =>
          have other := (plain c rfl).2
          rw [List.nil_append, readTail, if_neg (by simp [other])]
          rfl
  | some e =>
      have all := digits_toDigits e.natAbs
      simpa [readTail] using
        readExponent_append (decide (e < 0)) all Nat.toDigits_ne_nil ends.bounded.1

theorem readDecimals_append (h : Digits ds) (some : ds ≠ []) (ends : Ends rest) :
    readDecimals negative digits scale (ds ++ (n.power ++ rest)) =
      readDecimals negative digits scale (ds ++ n.power) := by
  obtain ⟨d, ds, rfl⟩ := List.exists_cons_of_ne_nil some
  have digit := h d List.mem_cons_self
  have closed : Bounded n.power := by simpa using Numeral.bounded_power (n := n) Ends.nil
  have bound := Numeral.bounded_power (n := n) ends
  obtain ⟨m, count, left, left_digits, absorbed, alone⟩ :=
    absorbDigits_append bound (d :: ds) digits 0 h
  obtain ⟨m', count', left', -, absorbed', alone'⟩ :=
    absorbDigits_append closed (d :: ds) digits 0 h
  obtain ⟨rfl, rfl, rfl⟩ : m = m' ∧ count = count' ∧ left = left' := by
    simpa using alone.symm.trans alone'
  rw [List.cons_append] at absorbed absorbed'
  rw [List.cons_append, List.cons_append, readDecimals, readDecimals]
  simp only [digit, if_true, absorbed, absorbed', dropWhile_digits left_digits bound,
    dropWhile_digits left_digits closed]
  exact readTail_power ends

theorem readFraction_decimals (ends : Ends rest) :
    readFraction negative digits scale (n.decimals ++ (n.power ++ rest)) =
      readFraction negative digits scale (n.decimals ++ n.power) := by
  unfold Numeral.decimals
  split
  · -- nothing but the exponent, if there is one
    have tail : ∀ cs : List Char, (∀ c ∈ cs.head?, c ≠ '.') →
        readFraction negative digits scale cs = readTail negative digits scale cs := by
      intro cs plain
      unfold readFraction
      split
      · exact absurd rfl (plain '.' rfl)
      · rfl
    have closed : ∀ c ∈ n.power.head?, c ≠ '.' := by
      simpa using Numeral.power_head (n := n) Ends.nil
    rw [List.nil_append, List.nil_append, tail _ (Numeral.power_head ends), tail _ closed]
    exact readTail_power ends
  · next some =>
      exact readDecimals_append (digits_fraction n.fraction) (by simpa using some) ends

/-- The whole part of a number is read apart from what stands behind it. -/
theorem readNumber_whole (negative : Bool) (whole : Nat) :
    ∃ digits dropped, ∀ cs, Bounded cs →
      readNumber negative (Nat.toDigits 10 whole ++ cs) =
        readBehind negative digits dropped cs := by
  have all := digits_toDigits whole
  obtain ⟨d, ds, spelt, -⟩ := toDigits_eq_cons whole
  rw [spelt] at all ⊢
  have digit := all d List.mem_cons_self
  by_cases zero : d = '0'
  · have none_left : ds = [] := by
      have head : (Nat.toDigits 10 whole).head? = some '0' := by rw [spelt, zero]; rfl
      rw [toDigits_head head] at spelt
      exact (List.cons.inj spelt).2.symm
    subst zero none_left
    refine ⟨0, 0, fun cs bound => ?_⟩
    have none_taken := takeWhile_digits Digits.nil bound
    have none_dropped := dropWhile_digits Digits.nil bound
    rw [List.nil_append] at none_taken none_dropped
    simp [readNumber, digit, any_head?_of_bounded bound, none_taken, none_dropped]
  · have rest_digits : Digits ds := fun x hx => all x (List.mem_cons_of_mem d hx)
    obtain ⟨m, count, left, left_digits, -, alone⟩ :=
      absorbDigits_append Bounded.nil ds (digitValue d) 0 rest_digits
    refine ⟨m, left.length, fun cs bound => ?_⟩
    obtain ⟨m', count', left', -, absorbed, alone'⟩ :=
      absorbDigits_append bound ds (digitValue d) 0 rest_digits
    obtain ⟨rfl, rfl, rfl⟩ : m = m' ∧ count = count' ∧ left = left' := by
      simpa using alone.symm.trans alone'
    simp [readNumber, digit, zero, absorbed, takeWhile_digits left_digits bound,
      dropWhile_digits left_digits bound]

theorem readNumber_unsigned (ends : Ends rest) :
    readNumber negative (n.unsigned ++ rest) = readNumber negative n.unsigned := by
  obtain ⟨digits, dropped, read⟩ := readNumber_whole negative n.whole
  have bound := Numeral.bounded_decimals (n := n) ends
  have closed : Bounded (n.decimals ++ n.power) := by
    simpa using Numeral.bounded_decimals (n := n) Ends.nil
  simp only [Numeral.unsigned, List.append_assoc]
  rw [read _ bound, read _ closed]
  have same : readFraction negative digits dropped (n.decimals ++ (n.power ++ rest)) =
      readFraction negative digits dropped (n.decimals ++ n.power) := readFraction_decimals ends
  unfold Numeral.decimals Numeral.power at same ⊢
  generalize n.fraction = fraction at same ⊢
  generalize n.exponent = exponent at same ⊢
  cases fraction with
  | cons d ds => exact same
  | nil =>
      cases exponent with
      | some e => exact same
      | none =>
          -- nothing follows the whole part
          have plain := ends.bounded.2
          unfold readBehind
          simp only [List.isEmpty_nil, if_true, List.nil_append]
          split
          · exact absurd rfl (plain '.' rfl).1
          · exact absurd rfl (plain 'e' rfl).2.1
          · exact absurd rfl (plain 'E' rfl).2.2
          · rfl

end SpeechConfig.Json
