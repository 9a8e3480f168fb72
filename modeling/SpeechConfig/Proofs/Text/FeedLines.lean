/-
# `SpeechConfig.Proofs.Text.FeedLines` — texts made of lines that a line feed ends

## What is proved, with every binder written out

    HasLines text lines

says that `text` is `lines`, one behind another, each with a line feed at its end, and
that no line holds a line feed of its own.  A text has lines in one way
(`HasLines.unique`), as many as it holds line feeds (`HasLines.length_eq`), and texts put
behind one another have the lines of the first and then those of the second
(`HasLines.append`).

This is not `Text.lines`, which reads what a program printed: there a last line needs no
end, and a carriage return in front of a line feed belongs to it.
-/
import Mathlib.Data.List.Basic

namespace SpeechConfig.Text

/-- The text consists of these lines, each ended by a line feed. -/
structure HasLines (text : String) (lines : List String) : Prop where
  spelt : text = String.join (lines.map (· ++ "\n"))
  no_feed : ∀ line ∈ lines, '\n' ∉ line.toList

variable {s t : String} {ls ms : List String}

theorem HasLines.nil : HasLines "" [] :=
  ⟨rfl, fun _ h => absurd h List.not_mem_nil⟩

theorem HasLines.singleton (h : '\n' ∉ s.toList) : HasLines (s ++ "\n") [s] := by
  refine ⟨by simp, fun line mem => ?_⟩
  rwa [List.mem_singleton.mp mem]

theorem HasLines.append (h : HasLines s ls) (h' : HasLines t ms) :
    HasLines (s ++ t) (ls ++ ms) := by
  constructor
  · rw [List.map_append, String.join_append, ← h.spelt, ← h'.spelt]
  · intro line mem
    exact (List.mem_append.mp mem).elim (h.no_feed line) (h'.no_feed line)

theorem hasLines_join {α : Type} {xs : List α} {piece line : α → String}
    (h : ∀ x ∈ xs, HasLines (piece x) [line x]) :
    HasLines (String.join (xs.map piece)) (xs.map line) := by
  induction xs with
  | nil => exact .nil
  | cons x xs ih =>
      obtain ⟨first, rest⟩ := List.forall_mem_cons.mp h
      rw [List.map_cons, String.join_cons]
      exact first.append (ih rest)

/-! ## One way to have lines -/

/-- Cut at its line feeds, a text falls into its lines and nothing behind them. -/
theorem HasLines.splitOn (h : HasLines s ls) :
    s.toList.splitOn '\n' = ls.map String.toList ++ [[]] := by
  obtain ⟨rfl, no_feed⟩ := h
  induction ls with
  | nil => simp
  | cons line rest ih =>
      obtain ⟨first, others⟩ := List.forall_mem_cons.mp no_feed
      have cut : (String.join ((line :: rest).map (· ++ "\n"))).toList =
          line.toList ++ '\n' :: (String.join (rest.map (· ++ "\n"))).toList := by
        simp
      rw [cut, List.splitOn_append_cons_self_of_not_mem first, ih others]
      rfl

theorem HasLines.unique (h : HasLines s ls) (h' : HasLines s ms) : ls = ms := by
  have same := List.append_cancel_right (h.splitOn.symm.trans h'.splitOn)
  exact List.map_injective_iff.mpr (fun _ _ => String.toList_inj.mp) same

theorem HasLines.length_eq (h : HasLines s ls) : ls.length = s.toList.count '\n' := by
  obtain ⟨rfl, no_feed⟩ := h
  induction ls with
  | nil => rfl
  | cons line rest ih =>
      obtain ⟨first, others⟩ := List.forall_mem_cons.mp no_feed
      have none_inside : line.toList.count '\n' = 0 := List.count_eq_zero.mpr first
      have behind := ih others
      simp [none_inside, behind, Nat.add_comm]

/-! ## Texts that a line feed ends -/

theorem not_mem_of_mem_splitOn {c : Char} :
    ∀ {cs piece : List Char}, piece ∈ cs.splitOn c → c ∉ piece := by
  intro cs
  induction cs with
  | nil => intro piece mem; simp_all
  | cons d cs ih =>
      intro piece mem
      rw [List.splitOn_cons_eq_if_modifyHead] at mem
      split at mem
      · rcases List.mem_cons.mp mem with rfl | mem
        · exact List.not_mem_nil
        · exact ih mem
      · next other =>
          obtain ⟨first, rest, split⟩ := List.exists_cons_of_ne_nil (List.splitOn_ne_nil c cs)
          rw [split] at ih mem
          rcases List.mem_cons.mp mem with rfl | mem
          · have other : c ≠ d := fun same => other (by simp [same])
            exact List.not_mem_cons_of_ne_of_not_mem other (ih List.mem_cons_self)
          · exact ih (List.mem_cons_of_mem _ mem)

theorem exists_hasLines (s : String) : ∃ ls, HasLines (s ++ "\n") ls := by
  refine ⟨(s.toList.splitOn '\n').map String.ofList, ?_, ?_⟩
  · have spelt : ∀ pieces : List (List Char), pieces ≠ [] →
        (String.join ((pieces.map String.ofList).map (· ++ "\n"))).toList =
          ['\n'].intercalate pieces ++ ['\n'] := by
      intro pieces
      induction pieces with
      | nil => intro h; exact absurd rfl h
      | cons piece rest ih =>
          intro _
          cases rest with
          | nil => simp
          | cons next rest => simpa using ih (List.cons_ne_nil _ _)
    apply String.toList_inj.mp
    rw [spelt _ (List.splitOn_ne_nil _ _), List.intercalate_splitOn, String.toList_append]
    rfl
  · intro line mem
    obtain ⟨piece, cut, rfl⟩ := List.mem_map.mp mem
    rw [String.toList_ofList]
    exact not_mem_of_mem_splitOn cut

theorem exists_hasLines_join {pieces : List String}
    (h : ∀ piece ∈ pieces, ∃ ls, HasLines piece ls) : ∃ ls, HasLines (String.join pieces) ls := by
  induction pieces with
  | nil => exact ⟨[], .nil⟩
  | cons piece rest ih =>
      obtain ⟨here, others⟩ := List.forall_mem_cons.mp h
      obtain ⟨first, front⟩ := here
      obtain ⟨below, behind⟩ := ih others
      rw [String.join_cons]
      exact ⟨first ++ below, front.append behind⟩

end SpeechConfig.Text
