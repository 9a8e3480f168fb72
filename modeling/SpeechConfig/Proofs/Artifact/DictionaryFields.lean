/-
# `SpeechConfig.Proofs.Artifact.DictionaryFields` — what a dictionary tells of its words

## What is proved, with every binder written out

A line of a dictionary is the token and the phonemes of a word with a space between each
two, a line feed ends it, and nothing in it is escaped.  For every two word lists `w` and
`w'` with the same dictionary,

    w.words.map Word.marks = w'.words.map Word.marks → w = w'

where `marks` counts the spaces and line feeds in each part of a word: nothing is asked of
the tokens and phonemes themselves.  Where no part holds a line feed, the dictionary tells
the fields of every word and no more,

    render .verbatim w = render .verbatim w' ↔ w.words.map Word.fields = w'.words.map Word.fields

and it tells the words themselves where no phoneme holds a space and tokens at the same
place hold equally many: none, or as many as a phrase needs.

None of the conditions is empty: valid requests with different words have the same
dictionary if a space may belong to a token or to a phoneme, or a line feed to a token
(`separators_are_confusable`).
-/
import SpeechConfig.Artifact.Dictionary
import SpeechConfig.Proofs.Text.FeedLines
import SpeechConfig.Vocabulary.Validation

namespace SpeechConfig

/-! ## The parts of a word -/

namespace Word

/-- What stands in the line of a word: its token and its phonemes. -/
def parts (word : Word) : List String :=
  word.token :: word.phonemes

/-- The parts as a reader of the line finds them, cut at every space. -/
def fields (word : Word) : List (List Char) :=
  word.parts.flatMap fun part => part.toList.splitOn ' '

/-- How many spaces and line feeds a part holds. -/
def marksIn (part : String) : Nat :=
  part.toList.countP fun c => c == ' ' || c == '\n'

def marks (word : Word) : List Nat :=
  word.parts.map marksIn

theorem parts_injective : Function.Injective parts := by
  rintro ⟨token, phonemes⟩ ⟨token', phonemes'⟩ same
  obtain ⟨rfl, rfl⟩ := List.cons.inj same
  rfl

end Word

def WordList.FreeOf (w : WordList) (c : Char) : Prop :=
  ∀ word ∈ w.words, ∀ part ∈ word.parts, c ∉ part.toList

instance (w : WordList) (c : Char) : Decidable (w.FreeOf c) :=
  inferInstanceAs (Decidable (∀ word ∈ w.words, ∀ part ∈ word.parts, c ∉ part.toList))

def WordList.PlainPhonemes (w : WordList) : Prop :=
  ∀ word ∈ w.words, ∀ phoneme ∈ word.phonemes, ' ' ∉ phoneme.toList

instance (w : WordList) : Decidable w.PlainPhonemes :=
  inferInstanceAs
    (Decidable (∀ word ∈ w.words, ∀ phoneme ∈ word.phonemes, ' ' ∉ phoneme.toList))

theorem WordList.FreeOf.plainPhonemes {w : WordList} (h : w.FreeOf ' ') : w.PlainPhonemes :=
  fun word mem phoneme stands => h word mem phoneme (List.mem_cons_of_mem _ stands)

theorem WordList.FreeOf.spaces_eq {w : WordList} (h : w.FreeOf ' ') :
    w.tokens.map (·.toList.count ' ') = List.replicate w.words.length 0 := by
  rw [WordList.tokens, List.map_map, List.eq_replicate_iff]
  refine ⟨List.length_map .., fun n mem => ?_⟩
  obtain ⟨word, stands, rfl⟩ := List.mem_map.mp mem
  exact List.count_eq_zero.mpr (h word stands word.token List.mem_cons_self)

namespace Dictionary

def lineText (word : Word) : String :=
  " ".intercalate word.parts

theorem toList_lineText (word : Word) :
    (lineText word).toList = [' '].intercalate (word.parts.map String.toList) := by
  simp [lineText, String.toList_intercalate]

theorem line_verbatim (word : Word) : line .verbatim word = lineText word ++ "\n" := by
  have behind : ∀ (phonemes : List String) (token : List Char),
      token ++ (String.join (phonemes.map fun p => " " ++ p)).toList =
        [' '].intercalate (token :: phonemes.map String.toList) := by
    intro phonemes
    induction phonemes with
    | nil => simp
    | cons phoneme rest ih =>
        intro token
        rw [List.map_cons, List.map_cons, List.intercalate_cons_cons, ← ih]
        simp
  apply String.toList_inj.mp
  rw [String.toList_append, toList_lineText, Word.parts, List.map_cons, ← behind]
  simp [line, PhonemePolicy.write]

/-! ## Text and marks determine the words -/

/-- A piece behind which a marked character stands is known from its text, up to the number
of marked characters in the piece itself. -/
theorem piece_append_inj {p : Char → Bool} {a b r t : List Char} {c d : Char}
    (hc : p c = true) (hd : p d = true) (count : a.countP p = b.countP p)
    (same : a ++ c :: r = b ++ d :: t) : a = b ∧ c = d ∧ r = t := by
  -- The shorter piece and the mark behind it would be the front of the longer one.
  have beyond : ∀ {x y u v : List Char} {e f : Char}, p e = true →
      e :: u = y ++ f :: v → (x ++ y).countP p = x.countP p → y = [] := by
    intro x y u v e f he cut count
    cases y with
    | nil => rfl
    | cons g y =>
        obtain ⟨rfl, -⟩ := List.cons.inj cut
        rw [List.countP_append, List.countP_cons_of_pos he] at count
        omega
  rcases List.append_eq_append_iff.mp same with ⟨more, rfl, cut⟩ | ⟨more, rfl, cut⟩
  · obtain rfl := beyond hc cut count.symm
    obtain ⟨rfl, rfl⟩ := List.cons.inj cut
    simp
  · obtain rfl := beyond hd cut count
    obtain ⟨rfl, rfl⟩ := List.cons.inj cut
    simp

theorem parts_append_inj {x y : String} {xs ys : List String} {r t : List Char}
    (marks : (x :: xs).map Word.marksIn = (y :: ys).map Word.marksIn)
    (same : [' '].intercalate ((x :: xs).map String.toList) ++ '\n' :: r =
      [' '].intercalate ((y :: ys).map String.toList) ++ '\n' :: t) :
    x :: xs = y :: ys ∧ r = t := by
  obtain ⟨count, others⟩ := List.cons.inj marks
  induction xs generalizing x y ys with
  | nil =>
      cases ys with
      | nil =>
          obtain ⟨xy, -, rt⟩ := piece_append_inj rfl rfl count (by simpa using same)
          exact ⟨by rw [String.toList_inj.mp xy], rt⟩
      | cons _ _ => exact nomatch others
  | cons x' xs ih =>
      cases ys with
      | nil => exact nomatch others
      | cons y' ys =>
          simp only [List.map_cons, List.intercalate_cons_cons, List.append_assoc] at same
          obtain ⟨xy, -, behind⟩ := piece_append_inj rfl rfl count same
          obtain ⟨rest, rt⟩ := ih others behind (List.cons.inj others).1 (List.cons.inj others).2
          exact ⟨by rw [String.toList_inj.mp xy, rest], rt⟩

theorem toList_join_line (word : Word) (rest : List Word) :
    (String.join ((word :: rest).map (line .verbatim))).toList =
      [' '].intercalate (word.parts.map String.toList) ++
        '\n' :: (String.join (rest.map (line .verbatim))).toList := by
  rw [List.map_cons, String.join_cons, String.toList_append, line_verbatim, String.toList_append,
    toList_lineText, List.append_assoc]
  rfl

/-- Words with the same lines are the same if their parts hold equally many spaces and line
feeds. -/
theorem words_eq_of_marks {ws ws' : List Word} (marks : ws.map Word.marks = ws'.map Word.marks)
    (same : String.join (ws.map (line .verbatim)) = String.join (ws'.map (line .verbatim))) :
    ws = ws' := by
  induction ws generalizing ws' with
  | nil => exact (List.map_eq_nil_iff.mp marks.symm).symm
  | cons word ws ih =>
      cases ws' with
      | nil => exact nomatch marks
      | cons word' ws' =>
          obtain ⟨count, others⟩ := List.cons.inj marks
          have text := congrArg String.toList same
          rw [toList_join_line, toList_join_line] at text
          obtain ⟨parts, rest⟩ := parts_append_inj count text
          rw [Word.parts_injective parts, ih others (String.toList_inj.mp rest)]

/-! ## Fields of a line -/

theorem splitOn_intercalate_flatMap {c : Char} {piece : List Char} {pieces : List (List Char)} :
    ([c].intercalate (piece :: pieces)).splitOn c = (piece :: pieces).flatMap (·.splitOn c) := by
  induction pieces generalizing piece with
  | nil => simp
  | cons next rest ih =>
      have cut : [c].intercalate (piece :: next :: rest) =
          piece ++ c :: [c].intercalate (next :: rest) := by
        rw [List.intercalate_cons_cons, List.append_assoc]
        rfl
      rw [cut, List.splitOn_append_cons_self, ih]
      rfl

theorem fields_eq_splitOn (word : Word) : word.fields = (lineText word).toList.splitOn ' ' := by
  rw [toList_lineText, Word.parts, List.map_cons, splitOn_intercalate_flatMap, Word.fields,
    ← List.map_cons, List.flatMap_map]
  rfl

theorem splitOn_injective (c : Char) : Function.Injective fun s : String => s.toList.splitOn c := by
  intro s t pieces
  have joined := congrArg ([c].intercalate ·) pieces
  simp only [List.intercalate_splitOn] at joined
  exact String.toList_inj.mp joined

theorem not_mem_intercalate {c : Char} (other : c ≠ ' ') {pieces : List (List Char)}
    (h : ∀ piece ∈ pieces, c ∉ piece) : c ∉ [' '].intercalate pieces := by
  induction pieces with
  | nil => simp
  | cons piece rest ih =>
      obtain ⟨first, others⟩ := List.forall_mem_cons.mp h
      cases rest with
      | nil => simpa using first
      | cons next rest =>
          rw [List.intercalate_cons_cons]
          simp [first, other, ih others]

theorem hasLines_render {w : WordList} (free : w.FreeOf '\n') :
    Text.HasLines (render .verbatim w) (w.words.map lineText) := by
  refine Text.hasLines_join fun word mem => ?_
  rw [line_verbatim]
  apply Text.HasLines.singleton
  rw [toList_lineText]
  refine not_mem_intercalate (by decide) fun piece inside => ?_
  obtain ⟨part, stands, rfl⟩ := List.mem_map.mp inside
  exact free word mem part stands

theorem render_eq_iff {w w' : WordList} (free : w.FreeOf '\n') (free' : w'.FreeOf '\n') :
    render .verbatim w = render .verbatim w' ↔
      w.words.map Word.fields = w'.words.map Word.fields := by
  have fields_of_lines : ∀ ws : List Word, ws.map Word.fields =
      (ws.map lineText).map (fun text => text.toList.splitOn ' ') := by
    intro ws
    rw [List.map_map]
    exact List.map_congr_left fun word _ => fields_eq_splitOn word
  rw [fields_of_lines, fields_of_lines, List.map_inj_right (splitOn_injective ' ')]
  constructor
  · intro same
    exact (hasLines_render free).unique (same ▸ hasLines_render free')
  · intro lines
    rw [(hasLines_render free).spelt, (hasLines_render free').spelt, lines]

/-! ## Phonemes without spaces -/

theorem marksIn_eq_count {part : String} (free : '\n' ∉ part.toList) :
    Word.marksIn part = part.toList.count ' ' := by
  refine List.countP_congr fun c mem => ?_
  have other : c ≠ '\n' := fun feed => free (feed ▸ mem)
  simp [other]

theorem count_intercalate {token : List Char} {phonemes : List (List Char)}
    (plain : ∀ phoneme ∈ phonemes, ' ' ∉ phoneme) :
    ([' '].intercalate (token :: phonemes)).count ' ' = token.count ' ' + phonemes.length := by
  induction phonemes generalizing token with
  | nil => simp
  | cons phoneme rest ih =>
      obtain ⟨first, others⟩ := List.forall_mem_cons.mp plain
      rw [List.intercalate_cons_cons, List.count_append, ih others, List.count_eq_zero.mpr first]
      simp
      omega

/-- The marks of a word with so many spaces in its token, from its line. -/
def marksFrom (line : String) (spaces : Nat) : List Nat :=
  spaces :: List.replicate (line.toList.count ' ' - spaces) 0

theorem marks_eq_marksFrom {word : Word} (free : ∀ part ∈ word.parts, '\n' ∉ part.toList)
    (plain : ∀ phoneme ∈ word.phonemes, ' ' ∉ phoneme.toList) :
    word.marks = marksFrom (lineText word) (word.token.toList.count ' ') := by
  obtain ⟨here, others⟩ := List.forall_mem_cons.mp free
  have spaces : (lineText word).toList.count ' ' =
      word.token.toList.count ' ' + word.phonemes.length := by
    rw [toList_lineText, Word.parts, List.map_cons, count_intercalate, List.length_map]
    simpa using plain
  have unmarked : word.phonemes.map Word.marksIn = List.replicate word.phonemes.length 0 := by
    rw [List.eq_replicate_iff]
    refine ⟨List.length_map .., fun n mem => ?_⟩
    obtain ⟨phoneme, stands, rfl⟩ := List.mem_map.mp mem
    rw [marksIn_eq_count (others phoneme stands), List.count_eq_zero.mpr (plain phoneme stands)]
  rw [marksFrom, spaces, Nat.add_sub_cancel_left, Word.marks, Word.parts, List.map_cons,
    marksIn_eq_count here, unmarked]

theorem map_marks_eq {w : WordList} (free : w.FreeOf '\n') (plain : w.PlainPhonemes) :
    w.words.map Word.marks =
      ((w.words.map lineText).zip (w.tokens.map (·.toList.count ' '))).map
        fun p => marksFrom p.1 p.2 := by
  rw [WordList.tokens, List.map_map, List.zip_map', List.map_map]
  exact List.map_congr_left fun word mem => marks_eq_marksFrom (free word mem) (plain word mem)

end Dictionary

/-! ## Words from a dictionary -/

namespace WordList

open Dictionary

/-- What word lists with the same dictionary have in common. -/
theorem eq_of_render_eq (w w' : WordList) :
    (render .verbatim w = render .verbatim w' →
      w.words.map Word.marks = w'.words.map Word.marks → w = w') ∧
    (w.FreeOf '\n' → w'.FreeOf '\n' →
      (render .verbatim w = render .verbatim w' ↔
        w.words.map Word.fields = w'.words.map Word.fields) ∧
      (render .verbatim w = render .verbatim w' → w.PlainPhonemes → w'.PlainPhonemes →
        w.tokens.map (·.toList.count ' ') = w'.tokens.map (·.toList.count ' ') → w = w') ∧
      (render .verbatim w = render .verbatim w' → w.FreeOf ' ' → w'.FreeOf ' ' → w = w')) := by
  have by_marks : render .verbatim w = render .verbatim w' →
      w.words.map Word.marks = w'.words.map Word.marks → w = w' :=
    fun same marks => WordList.ext (words_eq_of_marks marks same)
  refine ⟨by_marks, fun free free' => ⟨render_eq_iff free free', ?_⟩⟩
  have by_spaces : render .verbatim w = render .verbatim w' → w.PlainPhonemes →
      w'.PlainPhonemes →
      w.tokens.map (·.toList.count ' ') = w'.tokens.map (·.toList.count ' ') → w = w' := by
    intro same plain plain' spaces
    have lines := (hasLines_render free).unique (same ▸ hasLines_render free')
    refine by_marks same ?_
    rw [map_marks_eq free plain, map_marks_eq free' plain', lines, spaces]
  refine ⟨by_spaces, fun same unspaced unspaced' => ?_⟩
  have lines := (hasLines_render free).unique (same ▸ hasLines_render free')
  have size : w.words.length = w'.words.length := by
    simpa using congrArg List.length lines
  refine by_spaces same unspaced.plainPhonemes unspaced'.plainPhonemes ?_
  rw [unspaced.spaces_eq, unspaced'.spaces_eq, size]

/-- A phrase and a word. -/
def turns : WordList := ⟨[⟨"turn left", ["T", "L"]⟩, ⟨"stop", ["S"]⟩], by decide⟩

/-- The same with another phoneme. -/
def turns' : WordList := ⟨[⟨"turn left", ["T", "L"]⟩, ⟨"stop", ["P"]⟩], by decide⟩

theorem eq_of_render_eq_turns :
    (∃ w, ofList [⟨"turn left", ["T", "L"]⟩, ⟨"stop", ["S"]⟩] = .ok w ∧
      render .verbatim w = "turn left T L\nstop S\n" ∧ w = turns) ∧
      render .verbatim turns ≠ render .verbatim turns' := by
  have free : turns.FreeOf '\n' := by decide
  have plain : turns.PlainPhonemes := by decide
  constructor
  · obtain ⟨-, lined⟩ := eq_of_render_eq turns turns
    exact ⟨turns, by decide, by decide, (lined free free).2.1 rfl plain plain rfl⟩
  · intro same
    obtain ⟨-, lined⟩ := eq_of_render_eq turns turns'
    have equal := (lined free (by decide)).2.1 same plain (by decide) rfl
    exact absurd equal (by decide)

end WordList

/-! ## Words that a dictionary does not tell apart -/

namespace Request

/-- Both requests are valid, and their dictionaries are the same while their words are
not. -/
def Confusable (r r' : Request) : Prop :=
  r.validate = .ok () ∧ r'.validate = .ok () ∧
    Dictionary.render .verbatim r.words = Dictionary.render .verbatim r'.words ∧
    r.words ≠ r'.words

instance (r r' : Request) : Decidable (Confusable r r') :=
  inferInstanceAs (Decidable (_ ∧ _ ∧ _ ∧ _))

/-- A space may belong to a token, stand before a phoneme or belong to a phoneme; and a
line feed may belong to a token or end a line. -/
theorem separators_are_confusable :
    Confusable ⟨⟨[⟨"turn left", []⟩], by decide⟩, [], []⟩
        ⟨⟨[⟨"turn", ["left"]⟩], by decide⟩, [], []⟩ ∧
      Confusable ⟨⟨[⟨"stop", ["S T"]⟩], by decide⟩, [], []⟩
        ⟨⟨[⟨"stop", ["S", "T"]⟩], by decide⟩, [], []⟩ ∧
      Confusable ⟨⟨[⟨"turn\nleft", []⟩], by decide⟩, [], []⟩
        ⟨⟨[⟨"turn", []⟩, ⟨"left", []⟩], by decide⟩, [], []⟩ := by
  decide

end Request
end SpeechConfig
