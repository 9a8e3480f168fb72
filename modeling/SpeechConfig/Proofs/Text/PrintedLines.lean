/-
# `SpeechConfig.Proofs.Text.PrintedLines` — the lines of what a program printed

## What is proved, with every binder written out

For all characters `text` and all `lines`:

    Text.lines text = lines ↔ FallsIntoLines text lines

`Text.lines` carries the open line along, last character first, and looks back when it meets a line
feed.  `PrintedLines` says what the lines are: each is some characters without a line feed, ended by
a line feed, or by a carriage return and a line feed, or, if it is the last one and not empty, by
nothing.

A text whose last line is ended can be continued without touching its lines:

    Text.lines (before ++ behind) = Text.lines before ++ Text.lines behind

if `before` is empty or ends with a line feed, and not in general.
-/
import SpeechConfig.Proofs.Text.Tokens
import SpeechConfig.Text.Lines

namespace SpeechConfig.Text

/-- `PrintedLines cs lines`: the characters `cs` are `lines` with their ends. -/
inductive PrintedLines : List Char → List (List Char) → Prop
  | nil : PrintedLines [] []
  | last {line : List Char} : line ≠ [] → '\n' ∉ line → PrintedLines line [line]
  | feed {line rest : List Char} {lines : List (List Char)} :
      '\n' ∉ line → line.getLast? ≠ some '\r' → PrintedLines rest lines →
      PrintedLines (line ++ '\n' :: rest) (line :: lines)
  | returnFeed {line rest : List Char} {lines : List (List Char)} :
      '\n' ∉ line → PrintedLines rest lines →
      PrintedLines (line ++ '\r' :: '\n' :: rest) (line :: lines)

def FallsIntoLines (text : List Char) (lines : List String) : Prop :=
  PrintedLines text (lines.map String.toList)

def Ended (cs : List Char) : Prop :=
  ∀ c ∈ cs.getLast?, c = '\n'

variable {cs ds line : List Char} {ls ms : List (List Char)}

/-! ## The scan follows the lines -/

theorem linesFrom_append (unbroken : '\n' ∉ line) :
    ∀ acc cs : List Char, linesFrom acc (line ++ cs) = linesFrom (line.reverse ++ acc) cs := by
  induction line with
  | nil => intro acc cs; rfl
  | cons c line ih =>
      intro acc cs
      have other : c ≠ '\n' := fun feed => unbroken (feed ▸ List.mem_cons_self)
      rw [List.cons_append, linesFrom, if_neg other,
        ih fun mem => unbroken (List.mem_cons_of_mem _ mem)]
      simp

theorem closeLine_reverse (bare : line.getLast? ≠ some '\r') : closeLine line.reverse = line := by
  have head : line.reverse.head? ≠ some '\r' := by rwa [List.head?_reverse]
  unfold closeLine
  split
  · next rest spelt => simp [spelt] at head
  · exact List.reverse_reverse line

theorem linesFrom_of_printed (h : PrintedLines cs ls) : linesFrom [] cs = ls := by
  induction h with
  | nil => rfl
  | @last line something unbroken =>
      have scanned := linesFrom_append unbroken [] []
      simp only [List.append_nil] at scanned
      simp [scanned, linesFrom, something]
  | feed unbroken bare _ ih =>
      rw [linesFrom_append unbroken, linesFrom, if_pos rfl, List.append_nil,
        closeLine_reverse bare, ih]
  | @returnFeed line rest lines unbroken _ ih =>
      rw [linesFrom_append unbroken, linesFrom, if_neg (by decide), linesFrom, if_pos rfl, ih,
        List.append_nil, closeLine, List.reverse_reverse]

theorem PrintedLines.closed {acc : List Char} (unbroken : '\n' ∉ acc) (rest : PrintedLines cs ls) :
    PrintedLines (acc.reverse ++ '\n' :: cs) (closeLine acc :: ls) := by
  unfold closeLine
  split
  · next line =>
      have unbroken : '\n' ∉ line.reverse := by simpa using unbroken
      simpa using PrintedLines.returnFeed unbroken rest
  · next bare =>
      refine .feed (by simpa using unbroken) ?_ rest
      intro returned
      rw [List.getLast?_reverse, List.head?_eq_some_iff] at returned
      obtain ⟨line, spelt⟩ := returned
      exact bare line spelt

/-- With a line open, the scan finds the lines of it together with what is to come. -/
theorem printed_linesFrom :
    ∀ cs acc : List Char, '\n' ∉ acc → PrintedLines (acc.reverse ++ cs) (linesFrom acc cs) := by
  intro cs
  induction cs with
  | nil =>
      intro acc unbroken
      by_cases something : acc = []
      · subst something
        exact .nil
      · have last : PrintedLines acc.reverse [acc.reverse] :=
          .last (by simpa using something) (by simpa using unbroken)
        simpa [linesFrom, something] using last
  | cons c cs ih =>
      intro acc unbroken
      by_cases feed : c = '\n'
      · subst feed
        rw [linesFrom, if_pos rfl]
        exact .closed unbroken (ih [] List.not_mem_nil)
      · rw [linesFrom, if_neg feed]
        simpa using ih (c :: acc) (List.not_mem_cons_of_ne_of_not_mem (Ne.symm feed) unbroken)

theorem lines_eq_iff {text : List Char} {lines : List String} :
    Text.lines text = lines ↔ FallsIntoLines text lines := by
  constructor
  · rintro rfl
    rw [FallsIntoLines, Text.lines, toList_map_ofList]
    exact printed_linesFrom text [] List.not_mem_nil
  · intro printed
    rw [Text.lines, linesFrom_of_printed printed]
    simp [Function.comp_def]

/-! ## Texts one behind another -/

theorem Ended.suffix (ended : Ended cs) (h : ds <:+ cs) : Ended ds := by
  obtain ⟨front, rfl⟩ := h
  intro c last
  exact ended c (by rw [List.getLast?_append, last, Option.some_or]; rfl)

theorem PrintedLines.append (h : PrintedLines cs ls) (ended : Ended cs)
    (h' : PrintedLines ds ms) : PrintedLines (cs ++ ds) (ls ++ ms) := by
  induction h with
  | nil => exact h'
  | @last line something unbroken =>
      have mem := List.getLast_mem something
      rw [ended _ (List.getLast?_eq_some_getLast something)] at mem
      exact absurd mem unbroken
  | @feed line rest lines unbroken bare _ ih =>
      rw [List.append_assoc]
      exact .feed unbroken bare (ih (ended.suffix ⟨line ++ ['\n'], by simp⟩))
  | @returnFeed line rest lines unbroken _ ih =>
      rw [List.append_assoc]
      exact .returnFeed unbroken (ih (ended.suffix ⟨line ++ ['\r', '\n'], by simp⟩))

theorem lines_append {before : List Char} (ended : Ended before) (behind : List Char) :
    Text.lines (before ++ behind) = Text.lines before ++ Text.lines behind := by
  rw [lines_eq_iff, FallsIntoLines, List.map_append]
  exact (lines_eq_iff.mp rfl).append ended (lines_eq_iff.mp rfl)

end SpeechConfig.Text
