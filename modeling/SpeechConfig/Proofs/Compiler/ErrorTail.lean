/-
# `SpeechConfig.Proofs.Compiler.ErrorTail` — what a failure keeps of an error output

## What is proved, with every binder written out

For all octets `q`, UTF-8 or not, let `text` be what they show and `lines` the lines that it falls
into.  If these are 20 or more, then for all octets `p` of which the last is a line feed,

    stderrTail (p ++ q) = stderrTail q

and if they are 20 or fewer, nothing is dropped: the tail is all lines with a line feed between each
two, or `<empty>` where that is the empty string.

## What the line feed does

`p` may end its last character halfway and its last line with a carriage return.  The line feed
behind it is a character by itself, so what `p` shows is not changed by `q`, nor what `q` shows by
`p` (`ofOctets_append_cons`); and it ends a line, so their lines are not either (`lines_append`).
Without it both can go wrong: a character may be cut in two, and the last line of `p` may go on
in `q`.
-/
import SpeechConfig.Compiler.Script
import SpeechConfig.Proofs.Text.Octets
import SpeechConfig.Proofs.Text.PrintedLines

namespace SpeechConfig

namespace Text

theorem lastEntries_append {α : Type} {n : Nat} {xs ys : List α} (enough : n ≤ ys.length) :
    lastEntries n (xs ++ ys) = lastEntries n ys := by
  have kept : (xs ++ ys).length - n = xs.length + (ys.length - n) := by
    rw [List.length_append]
    omega
  rw [lastEntries, kept, List.drop_length_add_append, lastEntries]

theorem lastEntries_eq_self {α : Type} {n : Nat} {xs : List α} (few : xs.length ≤ n) :
    lastEntries n xs = xs := by
  rw [lastEntries, Nat.sub_eq_zero_of_le few, List.drop_zero]

/-- A line feed keeps apart what stands before it and what stands behind it. -/
theorem lines_ofOctets_append {p : List UInt8} (ended : p.getLast? = some 0x0A) (q : List UInt8) :
    lines (ofOctets (p ++ q)) = lines (ofOctets p) ++ lines (ofOctets q) := by
  obtain ⟨front, rfl⟩ := List.getLast?_eq_some_iff.mp ended
  have feed : String.utf8EncodeChar '\n' = [0x0A] := by decide
  have before := ofOctets_append_cons feed front []
  have whole := ofOctets_append_cons feed front q
  have broken : Ended (ofOctets front ++ ['\n']) := by simp [Ended]
  have shown : ofOctets (front ++ [0x0A]) = ofOctets front ++ ['\n'] := before
  rw [List.append_assoc, List.singleton_append, whole, shown, ← lines_append broken,
    List.append_assoc, List.singleton_append]

end Text

namespace Script

theorem stderrTail_append {p q : List UInt8} (ended : p.getLast? = some 0x0A)
    (enough : tailLength ≤ (Text.lines (Text.ofOctets q)).length) :
    stderrTail (p ++ q) = stderrTail q := by
  rw [stderrTail, Text.lines_ofOctets_append ended, Text.lastEntries_append enough, stderrTail]

theorem stderrTail_of_few {q : List UInt8}
    (few : (Text.lines (Text.ofOctets q)).length ≤ tailLength) :
    stderrTail q = if "\n".intercalate (Text.lines (Text.ofOctets q)) = "" then "<empty>"
      else "\n".intercalate (Text.lines (Text.ofOctets q)) := by
  rw [stderrTail, Text.lastEntries_eq_self few, Text.joinLines]
  simp only [String.isEmpty_iff]

/-- The main result: of twenty lines or more, what is before the last twenty does not count, and
fewer are all kept. -/
theorem stderrTail_of_last_lines (q : List UInt8) :
    let text := Text.ofOctets q
    let lines := Text.lines text
    let whole := "\n".intercalate lines
    (∀ t, Text.Shows q t ↔ t = text) ∧ (∀ ls, Text.FallsIntoLines text ls ↔ ls = lines) ∧
      (20 ≤ lines.length → ∀ p : List UInt8, p.getLast? = some 0x0A →
        stderrTail (p ++ q) = stderrTail q) ∧
      (lines.length ≤ 20 → stderrTail q = if whole = "" then "<empty>" else whole) := by
  intro text lines whole
  refine ⟨fun t => ?_, fun ls => ?_, fun enough p ended => stderrTail_append ended enough,
    fun few => stderrTail_of_few few⟩
  · rw [← Text.ofOctets_eq_iff, eq_comm]
  · rw [← Text.lines_eq_iff, eq_comm]

/-- Twenty lines, the last of them a broken character without a line feed, behind another broken
character. -/
theorem stderrTail_of_last_lines_broken :
    let p : List UInt8 := [0xE2, 0x82, 0x0A]
    let q : List UInt8 := (List.replicate 19 [0x61, 0x0D, 0x0A]).flatten ++ [0xFF]
    p.getLast? = some 0x0A ∧ (Text.lines (Text.ofOctets q)).length = 20 ∧
      stderrTail (p ++ q) = stderrTail q ∧
      stderrTail q = "\n".intercalate (List.replicate 19 "a" ++ ["\uFFFD"]) := by
  intro p q
  have ended : p.getLast? = some 0x0A := rfl
  have lines : Text.lines (Text.ofOctets q) = List.replicate 19 "a" ++ ["\uFFFD"] := by decide
  have twenty : (Text.lines (Text.ofOctets q)).length = 20 := by rw [lines]; rfl
  obtain ⟨-, -, enough, few⟩ := stderrTail_of_last_lines q
  refine ⟨ended, twenty, enough (Nat.le_of_eq twenty.symm) p ended, ?_⟩
  have something : "\n".intercalate (List.replicate 19 "a" ++ ["\uFFFD"]) ≠ "" := by decide
  rw [few (Nat.le_of_eq twenty), lines, if_neg something]

end Script
end SpeechConfig
