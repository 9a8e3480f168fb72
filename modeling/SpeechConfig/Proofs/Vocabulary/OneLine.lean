/-
# `SpeechConfig.Proofs.Vocabulary.OneLine` — what validation reports stays on one line

## What is proved, with every binder written out

For every request `r` — any word list, any rules, any sentences — and every failure `e`:

    r.validate = .error e → OnOneLine e.message

where a text is on one line if the plain space is the only white space in it: no line feed and no
carriage return, and no other character either that some reader takes for the end of a line.

## Two reasons, and both are needed

The words of a failure are fixed up to what they say of the request.  Its entry is quoted, and all
white space but the space is hidden from a quoted text (`isHidden_of_isSpace`).  Its token is put in
raw, and is on one line only because a text is cut into tokens at white space
(`Splits.isSpace_eq_false`); other characters that are never shown raw in a quoted text may stand in
a token.

A word that is given twice is reported raw as well, and need not be a token of anything.  That is no
offence of a request: a word list without repetitions is part of what a request is.
-/
import SpeechConfig.Proofs.Vocabulary.FirstOffence

namespace SpeechConfig

namespace Text

/-- The only white space in the text is the space. -/
def OnOneLine (s : String) : Prop :=
  ∀ c ∈ s.toList, isSpace c = true → c = ' '

-- The instance is named: one that is searched for may go through all characters there are.
instance (s : String) : Decidable (OnOneLine s) :=
  List.decidableBAll (fun c => isSpace c = true → c = ' ') s.toList

variable {s t : String} {c : Char}

theorem OnOneLine.append (h : OnOneLine s) (h' : OnOneLine t) : OnOneLine (s ++ t) := by
  intro c mem
  rw [String.toList_append] at mem
  exact (List.mem_append.mp mem).elim (h c) (h' c)

theorem OnOneLine.not_mem (h : OnOneLine s) (space : isSpace c = true) (other : c ≠ ' ') :
    c ∉ s.toList :=
  fun mem => other (h c mem space)

theorem onOneLine_of_fallsInto {tokens : List String} (split : FallsInto s tokens) {token : String}
    (mem : token ∈ tokens) : OnOneLine token := by
  intro c inside space
  have run : token.toList ∈ tokens.map String.toList := List.mem_map_of_mem mem
  rw [split.isSpace_eq_false _ run c inside] at space
  exact nomatch space

/-! ## Numbers -/

theorem isSpace_digitChar : ∀ d < 16, isSpace (Nat.digitChar d) = false := by
  decide

theorem isSpace_of_mem_toDigits {b n : Nat} (low : 1 < b) (high : b ≤ 16)
    (mem : c ∈ Nat.toDigits b n) : isSpace c = false := by
  induction n using Nat.strongRecOn with
  | _ n ih =>
      rw [Nat.toDigits_eq_if low] at mem
      split at mem
      · next small =>
          rw [List.mem_singleton.mp mem]
          exact isSpace_digitChar n (by omega)
      · next large =>
          rcases List.mem_append.mp mem with front | last
          · exact ih (n / b) (Nat.div_lt_self (by omega) low) front
          · rw [List.mem_singleton.mp last]
            exact isSpace_digitChar (n % b) (Nat.lt_of_lt_of_le (Nat.mod_lt n (by omega)) high)

theorem onOneLine_repr (n : Nat) : OnOneLine (Nat.repr n) := by
  intro c mem space
  rw [Nat.toList_repr] at mem
  rw [isSpace_of_mem_toDigits (by decide) (by decide) mem] at space
  exact nomatch space

/-! ## Quoted texts -/

theorem isHidden_of_range {low high : Nat} (range : (low, high) ∈ hiddenRanges)
    (above : 0x7F ≤ low) (inside : low ≤ c.toNat ∧ c.toNat ≤ high) : isHidden c = true := by
  have listed : (hiddenRanges.any fun r => r.1 ≤ c.toNat && c.toNat ≤ r.2) = true :=
    List.any_eq_true.mpr ⟨(low, high), range, by simpa using inside⟩
  simp [isHidden, listed]
  omega

/-- All white space but the space is hidden, or has a short form of its own. -/
theorem isHidden_of_isSpace (space : isSpace c = true) (other : c ≠ ' ') : isHidden c = true := by
  have code : c.toNat ≠ 0x20 := fun same => other (Char.toNat_inj.mp same)
  have above (low high : Nat) (range : (low, high) ∈ hiddenRanges) (hidden : 0x7F ≤ low)
      (inside : low ≤ c.toNat ∧ c.toNat ≤ high) := isHidden_of_range range hidden inside
  simp only [isSpace, Bool.or_eq_true, Bool.and_eq_true, decide_eq_true_eq, beq_iff_eq] at space
  by_cases low : c.toNat < 0x20
  · simp [isHidden, low]
  by_cases latin : c.toNat ≤ 0xA0
  · exact above 0x7F 0xA0 (by decide +kernel) (by decide) (by omega)
  by_cases ogham : c.toNat = 0x1680
  · exact above 0x1680 0x1680 (by decide +kernel) (by decide) (by omega)
  by_cases quads : c.toNat ≤ 0x200A
  · exact above 0x1FFF 0x200F (by decide +kernel) (by decide) (by omega)
  by_cases separators : c.toNat ≤ 0x202F
  · exact above 0x2028 0x202F (by decide +kernel) (by decide) (by omega)
  by_cases mathematical : c.toNat = 0x205F
  · exact above 0x205F 0x206F (by decide +kernel) (by decide) (by omega)
  · exact above 0x3000 0x3000 (by decide +kernel) (by decide) (by omega)

theorem eq_space_of_mem_quoteChar {d : Char} (mem : d ∈ quoteChar c) (space : isSpace d = true) :
    d = ' ' := by
  have unspaced (ds : List Char) (none : ds.any isSpace = false) (here : d ∈ ds) : d = ' ' :=
    absurd space (List.any_eq_false.mp none d here)
  unfold quoteChar at mem
  -- the six characters with a short form
  iterate 6
    split at mem
    · exact unspaced _ rfl mem
  split at mem
  · next hidden =>
      have digits : (Nat.toDigits 16 c.toNat).any isSpace = false :=
        List.any_eq_false.mpr fun x digit => by
          simp [isSpace_of_mem_toDigits (by decide) (by decide) digit]
      refine unspaced _ ?_ mem
      rw [List.any_append, List.any_append, digits]
      rfl
  · next shown =>
      rw [List.mem_singleton] at mem
      subst mem
      exact Decidable.byContradiction fun other => shown (isHidden_of_isSpace space other)

theorem onOneLine_quoted (s : String) : OnOneLine (quoted s) := by
  intro c mem space
  rw [quoted, String.toList_ofList] at mem
  simp only [List.mem_append, List.mem_cons, List.not_mem_nil, or_false, List.cons_append,
    List.mem_flatMap] at mem
  rcases mem with rfl | ⟨d, -, written⟩ | rfl
  · exact nomatch space
  · exact eq_space_of_mem_quoteChar written space
  · exact nomatch space

end Text

/-! ## What is reported -/

open Text (OnOneLine)

theorem Origin.onOneLine_describe (o : Origin) : OnOneLine o.describe := by
  obtain ⟨collection, index, text⟩ := o
  have behind (kind : String) (line : OnOneLine kind) :
      OnOneLine (kind ++ " #" ++ Nat.repr index ++ " (" ++ Text.quoted text ++ ")") :=
    ((((line.append (by decide)).append (Text.onOneLine_repr index)).append (by decide)).append
      (Text.onOneLine_quoted text)).append (by decide)
  cases collection with
  | grammar => exact behind "grammar rule" (by decide)
  | sentences => exact behind "sentence" (by decide)

theorem WordList.Offends.onOneLine {w : WordList} {o : Origin} {e : Failure} (h : w.Offends o e) :
    OnOneLine e.message := by
  have place := o.onOneLine_describe
  cases h with
  | blank _ => exact place.append (by decide)
  | @missing before after token _ _ split _ _ =>
      have token := Text.onOneLine_of_fallsInto split (List.mem_append_cons_self)
      have known : OnOneLine "word `" := by decide
      exact ((known.append token).append (by decide)).append place

namespace Request

variable {r : Request} {e : Failure}

theorem Fails.onOneLine {p : Position} (h : r.Fails p e) : OnOneLine e.message := by
  cases h with
  | rule _ offends => exact offends.onOneLine
  | vocabulary _ _ => decide
  | sentence _ offends => exact offends.onOneLine

/-- The main result: whatever stands in the entries, what validation reports is on one line. -/
theorem reported_on_one_line (r : Request) (e : Failure) (failed : r.validate = .error e) :
    OnOneLine e.message ∧ '\n' ∉ e.message.toList ∧ '\r' ∉ e.message.toList := by
  obtain ⟨p, fails, -⟩ := firstOffence_of_validate failed
  have line := fails.onOneLine
  exact ⟨line, line.not_mem (by decide) (by decide), line.not_mem (by decide) (by decide)⟩

/-- Line breaks inside a rule are shown by number, and those between its tokens belong to none. -/
theorem reported_on_one_line_broken :
    let w : WordList := ⟨[⟨"yes", ["Y"]⟩], by decide⟩
    let r : Request := ⟨w, ["yes\r\nno\u2028yes"], []⟩
    let e : Failure := .missingWord "no" ⟨.grammar, 1, "yes\r\nno\u2028yes"⟩
    r.validate = .error e ∧
      e.message = "word `no` is not in words but exists in grammar rule #1 " ++
        "(\"yes\\r\\nno\\u\x7b2028\x7dyes\")" ∧
      OnOneLine e.message ∧ '\n' ∉ e.message.toList ∧ '\r' ∉ e.message.toList := by
  intro w r e
  have failed : r.validate = .error e := rfl
  exact ⟨failed, by decide +kernel, reported_on_one_line r e failed⟩

end Request
end SpeechConfig
