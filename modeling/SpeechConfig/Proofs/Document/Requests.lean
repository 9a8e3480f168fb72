/-
# `SpeechConfig.Proofs.Document.Requests` — which documents are requests

## What is proved, with every binder written out

For every value `v`, with its members in order and keys possibly repeated:

    (∃ r, Request.ofText v.compact = .ok r) ↔ WellShaped v
    ∀ r, Request.ofText v.compact = .ok r ↔ Describes v r

`WellShaped` says it of the value alone: an object in which `words` occurs once and `grammar` and
`sentences` at most once, or a list of one to three elements in the place of these three, each of
its kind.  `Describes` says which request it is.  And two objects that differ in members with other
keys only, of whatever value and wherever they stand, have the same outcome, a fault included.

## The invariant

Members are taken one after another.  What those that are left say of a field depends on whether
it has been seen (`Says`): if so, they may not speak of it again; if not, at most once, and once if
it must be there.  Each of the three fields is settled apart from the others
(`ofMembers_eq_ok_iff`).
-/
import SpeechConfig.Proofs.Document.WordLists
import SpeechConfig.Proofs.Json.Records

namespace SpeechConfig

open Json (Fault Shape)

/-! ## Shapes of values -/

namespace Json

variable {v : Json}

def IsStrings (v : Json) : Prop :=
  ∃ items, v = .list items ∧ ∀ item ∈ items, ∃ s, item = .string s

/-- An object with pairwise distinct keys, from each of which there is a list of strings. -/
def IsWords (v : Json) : Prop :=
  ∃ members, v = .object members ∧ (members.map Prod.fst).Nodup ∧
    ∀ member ∈ members, IsStrings member.2

def valuesOf (key : String) (members : List (String × Json)) : List Json :=
  (members.filter fun member => member.1 == key).map Prod.snd

theorem valuesOf_cons_self (key : String) (value : Json) (rest : List (String × Json)) :
    valuesOf key ((key, value) :: rest) = value :: valuesOf key rest := by
  simp [valuesOf]

theorem valuesOf_cons_of_ne {key other : String} (h : other ≠ key) (value : Json)
    (rest : List (String × Json)) :
    valuesOf key ((other, value) :: rest) = valuesOf key rest := by
  simp [valuesOf, h]

theorem isStrings_iff : IsStrings v ↔ ∃ xs, v = strings xs := by
  constructor
  · rintro ⟨items, rfl, all⟩
    induction items with
    | nil => exact ⟨[], rfl⟩
    | cons item rest ih =>
        obtain ⟨s, rfl⟩ := all item List.mem_cons_self
        obtain ⟨xs, h⟩ := ih fun item mem => all item (List.mem_cons_of_mem _ mem)
        exact ⟨s :: xs, by simp [strings, Json.list.inj h]⟩
  · rintro ⟨xs, rfl⟩
    refine ⟨_, rfl, fun item mem => ?_⟩
    obtain ⟨s, -, rfl⟩ := List.mem_map.mp mem
    exact ⟨s, rfl⟩

end Json

namespace WordList

variable {w w' : WordList} {v : Json} {members : List (String × Json)}

theorem ofMembers_eq_ok_iff :
    w.ofMembers members = .ok w' ↔ ∃ words, members = words.map entry ∧
      w.insertAll words = .ok w' := by
  induction members generalizing w with
  | nil =>
      constructor
      · intro h
        exact ⟨[], rfl, by rw [insertAll, Except.ok.inj h]⟩
      · rintro ⟨words, none, h⟩
        rw [List.map_eq_nil_iff.mp none.symm] at h
        exact congrArg Except.ok (Except.ok.inj h)
  | cons member rest ih =>
      obtain ⟨token, value⟩ := member
      rw [ofMembers, Json.bind_eq_ok_iff]
      constructor
      · rintro ⟨phonemes, strings, taken⟩
        obtain rfl := Json.ofStrings_eq_ok_iff.mp strings
        cases took : w.insert? ⟨token, phonemes⟩ with
        | none =>
            rw [took] at taken
            cases taken
        | some v =>
            rw [took] at taken
            obtain ⟨words, rfl, all⟩ := ih.mp taken
            exact ⟨⟨token, phonemes⟩ :: words, rfl, by rw [insertAll, took]; exact all⟩
      · rintro ⟨words, split, all⟩
        cases words with
        | nil => cases split
        | cons word words =>
            obtain ⟨head, rfl⟩ := List.cons.inj split
            obtain ⟨rfl, rfl⟩ := Prod.mk.inj head
            refine ⟨word.phonemes, Json.ofStrings_eq_ok_iff.mpr rfl, ?_⟩
            rw [insertAll] at all
            cases took : w.insert? word with
            | none =>
                rw [took] at all
                cases all
            | some v =>
                rw [took] at all
                exact ih.mpr ⟨words, rfl, all⟩

theorem ofJson_eq_ok_iff : ofJson v = .ok w ↔ v = w.toJson := by
  cases v with
  | object members =>
      rw [ofJson, ofMembers_eq_ok_iff]
      constructor
      · rintro ⟨words, rfl, all⟩
        rw [toJson, ofList_eq_ok_iff.mp all]
        rfl
      · intro h
        exact ⟨w.words, Json.object.inj h, ofList_eq_ok_iff.mpr rfl⟩
  | null | bool _ | number _ | string _ | list _ => exact ⟨nofun, nofun⟩

end WordList

theorem Json.isWords_iff {v : Json} : Json.IsWords v ↔ ∃ w : WordList, v = w.toJson := by
  constructor
  · rintro ⟨members, rfl, distinct, all⟩
    have entries : ∃ words : List Word, members = words.map WordList.entry := by
      clear distinct
      induction members with
      | nil => exact ⟨[], rfl⟩
      | cons member rest ih =>
          obtain ⟨token, value⟩ := member
          obtain ⟨phonemes, strings⟩ := isStrings_iff.mp (all _ List.mem_cons_self)
          obtain ⟨words, rfl⟩ := ih fun member mem => all member (List.mem_cons_of_mem _ mem)
          obtain rfl : value = Json.strings phonemes := strings
          exact ⟨⟨token, phonemes⟩ :: words, rfl⟩
    obtain ⟨words, rfl⟩ := entries
    rw [List.map_map] at distinct
    exact ⟨⟨words, distinct⟩, rfl⟩
  · rintro ⟨w, rfl⟩
    refine ⟨_, rfl, ?_, fun member mem => ?_⟩
    · have distinct := w.distinct
      rw [List.map_map]
      exact distinct
    · obtain ⟨word, -, rfl⟩ := List.mem_map.mp mem
      exact Json.isStrings_iff.mpr ⟨word.phonemes, rfl⟩

namespace Request

variable {v : Json} {r acc : Request} {members : List (String × Json)} {seen : List String}
  {key : String}

/-! ## Which values are requests -/

def keys : List String := ["words", "grammar", "sentences"]

/-- A value that is read as a request. -/
inductive WellShaped : Json → Prop
  | object {members : List (String × Json)} :
      (Json.valuesOf "words" members).length = 1 →
      (Json.valuesOf "grammar" members).length ≤ 1 →
      (Json.valuesOf "sentences" members).length ≤ 1 →
      (∀ v ∈ Json.valuesOf "words" members, Json.IsWords v) →
      (∀ v ∈ Json.valuesOf "grammar" members, Json.IsStrings v) →
      (∀ v ∈ Json.valuesOf "sentences" members, Json.IsStrings v) →
      WellShaped (.object members)
  | list {words : Json} {tail : List Json} :
      tail.length ≤ 2 → Json.IsWords words → (∀ v ∈ tail, Json.IsStrings v) →
      WellShaped (.list (words :: tail))

/-- The strings of the one value there is, or none. -/
def OrAbsent (values : List Json) (xs : List String) : Prop :=
  values = [] ∧ xs = [] ∨ values = [Json.strings xs]

/-- The value describes the request. -/
inductive Describes : Json → Request → Prop
  | object {members : List (String × Json)} {r : Request} :
      Json.valuesOf "words" members = [r.words.toJson] →
      OrAbsent (Json.valuesOf "grammar" members) r.grammar →
      OrAbsent (Json.valuesOf "sentences" members) r.sentences →
      Describes (.object members) r
  | list {tail : List Json} {r : Request} :
      OrAbsent (tail.take 1) r.grammar → OrAbsent (tail.drop 1) r.sentences →
      Describes (.list (r.words.toJson :: tail)) r

theorem exists_orAbsent_iff {values : List Json} :
    (∃ xs, OrAbsent values xs) ↔ values.length ≤ 1 ∧ ∀ v ∈ values, Json.IsStrings v := by
  constructor
  · rintro ⟨xs, ⟨rfl, -⟩ | rfl⟩
    · exact ⟨Nat.zero_le _, nofun⟩
    · refine ⟨Nat.le_refl _, fun v mem => ?_⟩
      exact Json.isStrings_iff.mpr ⟨xs, List.mem_singleton.mp mem⟩
  · rintro ⟨few, all⟩
    match values, few with
    | [], _ => exact ⟨[], Or.inl ⟨rfl, rfl⟩⟩
    | [v], _ =>
        obtain ⟨xs, rfl⟩ := Json.isStrings_iff.mp (all v List.mem_cons_self)
        exact ⟨xs, Or.inr rfl⟩

theorem wellShaped_iff : WellShaped v ↔ ∃ r, Describes v r := by
  constructor
  · intro h
    cases h with
    | @object members once grammar_once sentences_once words grammar sentences =>
        obtain ⟨value, words_eq⟩ := List.length_eq_one_iff.mp once
        rw [words_eq] at words
        obtain ⟨w, rfl⟩ := Json.isWords_iff.mp (words value List.mem_cons_self)
        obtain ⟨g, hg⟩ := exists_orAbsent_iff.mpr ⟨grammar_once, grammar⟩
        obtain ⟨s, hs⟩ := exists_orAbsent_iff.mpr ⟨sentences_once, sentences⟩
        exact ⟨⟨w, g, s⟩, .object words_eq hg hs⟩
    | @list words tail few is_words all =>
        obtain ⟨w, rfl⟩ := Json.isWords_iff.mp is_words
        obtain ⟨g, hg⟩ := exists_orAbsent_iff.mpr
          ⟨List.length_take_le 1 tail, fun v mem => all v (List.mem_of_mem_take mem)⟩
        have most : (tail.drop 1).length ≤ 1 := by
          rw [List.length_drop]
          omega
        obtain ⟨s, hs⟩ := exists_orAbsent_iff.mpr
          ⟨most, fun v mem => all v (List.mem_of_mem_drop mem)⟩
        exact ⟨⟨w, g, s⟩, @Describes.list tail ⟨w, g, s⟩ hg hs⟩
  · rintro ⟨r, h⟩
    cases h with
    | object words grammar sentences =>
        obtain ⟨grammar_once, grammar⟩ := exists_orAbsent_iff.mp ⟨_, grammar⟩
        obtain ⟨sentences_once, sentences⟩ := exists_orAbsent_iff.mp ⟨_, sentences⟩
        refine .object (by rw [words]; rfl) grammar_once sentences_once (fun v mem => ?_) grammar
          sentences
        rw [words] at mem
        exact Json.isWords_iff.mpr ⟨r.words, List.mem_singleton.mp mem⟩
    | @list tail _ grammar sentences =>
        obtain ⟨-, grammar⟩ := exists_orAbsent_iff.mp ⟨_, grammar⟩
        obtain ⟨few, sentences⟩ := exists_orAbsent_iff.mp ⟨_, sentences⟩
        have most : tail.length ≤ 2 := by
          rw [List.length_drop] at few
          omega
        refine .list most (Json.isWords_iff.mpr ⟨r.words, rfl⟩) fun v mem => ?_
        rw [← List.take_append_drop 1 tail] at mem
        exact (List.mem_append.mp mem).elim (grammar v) (sentences v)

/-! ## Reading a request -/

theorem readable : Shape.Readable shape.fields := by
  intro f hf
  simp only [shape, List.mem_cons, List.not_mem_nil, or_false] at hf
  rcases hf with rfl | rfl | rfl
  · exact (WordList.reads.map _).on
  · exact (Json.reads_strings.map _).on
  · exact (Json.reads_strings.map _).on

theorem ofText_eq {text : String} (doc : v.IsDocument text) : ofText text = shape.ofJson v :=
  (Shape.reads readable).readDocument doc

/-- The field stores what its value is written from, and takes no other value. -/
def Takes {α : Type} (f : Json.Field Request) (write : α → Json) (store : α → Request → Request) :
    Prop :=
  ∀ (v : Json) (next : (Request → Request) → Except Fault Request) (r : Request),
    (f.read.on v >>= next) = .ok r ↔ ∃ x, v = write x ∧ next (store x) = .ok r

theorem takes_of_reads {α : Type} {f : Json.Field Request} {read : Json.Reader α}
    {meaning : Json → Except Fault α} {write : α → Json} {store : α → Request → Request}
    (reads : Json.Reads read meaning) (written : ∀ v x, meaning v = .ok x ↔ v = write x)
    (stores : f.read = do let x ← read; return store x) : Takes f write store := by
  intro v next r
  rw [stores, reads.on_map]
  cases means : meaning v with
  | error fault =>
      refine ⟨nofun, ?_⟩
      rintro ⟨x, same, -⟩
      rw [(written v x).mpr same] at means
      cases means
  | ok x =>
      obtain rfl := (written v x).mp means
      refine ⟨fun h => ⟨x, rfl, h⟩, ?_⟩
      rintro ⟨y, same, h⟩
      rw [(written _ y).mpr same] at means
      cases means
      exact h

theorem shape_fields : ∃ words grammar sentences : Json.Field Request,
    shape.fields = [words, grammar, sentences] ∧
    (words.required = true ∧ grammar.required = false ∧ sentences.required = false) ∧
    (shape.field? "words" = some words ∧ shape.field? "grammar" = some grammar ∧
      shape.field? "sentences" = some sentences) ∧
    Takes words WordList.toJson (fun w r => { r with words := w }) ∧
    Takes grammar Json.strings (fun xs r => { r with grammar := xs }) ∧
    Takes sentences Json.strings (fun xs r => { r with sentences := xs }) :=
  ⟨_, _, _, rfl, ⟨rfl, rfl, rfl⟩, ⟨rfl, rfl, rfl⟩,
    takes_of_reads WordList.reads (fun _ _ => WordList.ofJson_eq_ok_iff) rfl,
    takes_of_reads Json.reads_strings (fun _ _ => Json.ofStrings_eq_ok_iff) rfl,
    takes_of_reads Json.reads_strings (fun _ _ => Json.ofStrings_eq_ok_iff) rfl⟩

theorem knows_iff : shape.knows key = true ↔ key ∈ keys := by
  rw [Shape.knows_iff]
  simp [shape, keys, eq_comm]

/-- Behind the last member there is a request if the words have been seen. -/
theorem ofMembers_nil_iff : shape.ofMembers seen acc [] = .ok r ↔ "words" ∈ seen ∧ acc = r := by
  have missing : shape.missing? seen = if "words" ∈ seen then none else some "words" := by
    by_cases present : "words" ∈ seen <;> simp [Shape.missing?, shape, present]
  rw [Shape.ofMembers, missing]
  by_cases present : "words" ∈ seen <;> simp [present]

/-- What the members left say of a field that they have the `values` for: nothing, and it keeps
what it had; or, if it has not been seen, what it becomes. -/
def Says {α : Type} (values : List Json) (write : α → Json) (needed seen : Prop) (had x : α) :
    Prop :=
  values = [] ∧ x = had ∧ (needed → seen) ∨ ¬ seen ∧ values = [write x]

theorem says_cons_iff {α : Type} {value : Json} {values : List Json} {write : α → Json}
    {needed seen : Prop} {had x : α} :
    Says (value :: values) write needed seen had x ↔
      ¬ seen ∧ ∃ y, value = write y ∧ Says values write needed True y x := by
  constructor
  · rintro (⟨⟨⟩, -⟩ | ⟨unseen, same⟩)
    obtain ⟨rfl, rfl⟩ := List.cons.inj same
    exact ⟨unseen, x, rfl, Or.inl ⟨rfl, rfl, fun _ => trivial⟩⟩
  · rintro ⟨unseen, y, rfl, ⟨rfl, rfl, -⟩ | ⟨seen, -⟩⟩
    · exact Or.inr ⟨unseen, rfl⟩
    · exact absurd trivial seen

section Field

variable {α : Type} {f : Json.Field Request} {write : α → Json} {store : α → Request → Request}

theorem Takes.ofMembers_iff {value : Json} (takes : Takes f write store)
    (known : shape.field? key = some f) :
    shape.ofMembers seen acc ((key, value) :: members) = .ok r ↔
      key ∉ seen ∧ ∃ x, value = write x ∧
        shape.ofMembers (key :: seen) (store x acc) members = .ok r := by
  rw [Shape.ofMembers, known]
  by_cases present : key ∈ seen
  · simp [present]
  · simp only [List.contains_eq_mem, present, decide_false, Bool.false_eq_true, if_false,
      takes _ _ r, not_false_eq_true, true_and]

theorem Takes.ofItems_iff {fields : List (Json.Field Request)} {index : Nat} {items : List Json}
    (takes : Takes f write store) :
    shape.ofItems index (f :: fields) acc items = .ok r ↔
      (items = [] ∧ (f :: fields).findIdx? Json.Field.required = none ∧ acc = r) ∨
      ∃ x rest, items = write x :: rest ∧
        shape.ofItems (index + 1) fields (store x acc) rest = .ok r := by
  cases items with
  | nil =>
      cases missing : (f :: fields).findIdx? Json.Field.required <;>
        simp [Shape.ofItems, missing]
  | cons item rest =>
      rw [Shape.ofItems, takes _ _ r]
      constructor
      · rintro ⟨x, rfl, others⟩
        exact Or.inr ⟨x, rest, rfl, others⟩
      · rintro (⟨⟨⟩, -⟩ | ⟨x, _, same, others⟩)
        obtain ⟨rfl, rfl⟩ := List.cons.inj same
        exact ⟨x, rfl, others⟩

end Field

/-- The invariant: each field is settled by what the members left say of it. -/
theorem ofMembers_eq_ok_iff :
    shape.ofMembers seen acc members = .ok r ↔
      Says (Json.valuesOf "words" members) WordList.toJson True ("words" ∈ seen)
        acc.words r.words ∧
      Says (Json.valuesOf "grammar" members) Json.strings False ("grammar" ∈ seen)
        acc.grammar r.grammar ∧
      Says (Json.valuesOf "sentences" members) Json.strings False ("sentences" ∈ seen)
        acc.sentences r.sentences := by
  obtain ⟨words, grammar, sentences, -, -, ⟨known_words, known_grammar, known_sentences⟩,
    takes_words, takes_grammar, takes_sentences⟩ := shape_fields
  induction members generalizing seen acc with
  | nil =>
      rw [ofMembers_nil_iff]
      cases r
      cases acc
      simp only [Says, Json.valuesOf, List.filter_nil, List.map_nil, mk.injEq, true_and,
        true_imp_iff, false_imp_iff, and_true, List.nil_eq, reduceCtorEq, and_false, or_false]
      constructor
      · rintro ⟨seen, rfl, rfl, rfl⟩
        exact ⟨⟨rfl, seen⟩, rfl, rfl⟩
      · rintro ⟨⟨rfl, seen⟩, rfl, rfl⟩
        exact ⟨seen, rfl, rfl, rfl⟩
  | cons member rest ih =>
      obtain ⟨key, value⟩ := member
      have apart : ∀ other : String, key ≠ other →
          Json.valuesOf other ((key, value) :: rest) = Json.valuesOf other rest :=
        fun other ne => Json.valuesOf_cons_of_ne ne value rest
      by_cases known : key ∈ keys
      · simp only [keys, List.mem_cons, List.not_mem_nil, or_false] at known
        rcases known with rfl | rfl | rfl
        · rw [takes_words.ofMembers_iff known_words,
            Json.valuesOf_cons_self, says_cons_iff, apart "grammar" (by decide),
            apart "sentences" (by decide)]
          simp only [ih, List.mem_cons, true_or, String.reduceEq, false_or]
          constructor
          · rintro ⟨unseen, w, same, words, others⟩
            exact ⟨⟨unseen, w, same, words⟩, others⟩
          · rintro ⟨⟨unseen, w, same, words⟩, others⟩
            exact ⟨unseen, w, same, words, others⟩
        · rw [takes_grammar.ofMembers_iff known_grammar,
            Json.valuesOf_cons_self, says_cons_iff, apart "words" (by decide),
            apart "sentences" (by decide)]
          simp only [ih, List.mem_cons, true_or, String.reduceEq, false_or]
          constructor
          · rintro ⟨unseen, xs, same, words, grammar, sentences⟩
            exact ⟨words, ⟨unseen, xs, same, grammar⟩, sentences⟩
          · rintro ⟨words, ⟨unseen, xs, same, grammar⟩, sentences⟩
            exact ⟨unseen, xs, same, words, grammar, sentences⟩
        · rw [takes_sentences.ofMembers_iff known_sentences,
            Json.valuesOf_cons_self, says_cons_iff, apart "words" (by decide),
            apart "grammar" (by decide)]
          simp only [ih, List.mem_cons, true_or, String.reduceEq, false_or]
          constructor
          · rintro ⟨unseen, xs, same, words, grammar, sentences⟩
            exact ⟨words, grammar, unseen, xs, same, sentences⟩
          · rintro ⟨words, grammar, unseen, xs, same, sentences⟩
            exact ⟨unseen, xs, same, words, grammar, sentences⟩
      · have unknown : shape.field? key = none := by
          simpa [Shape.knows, ← knows_iff] using known
        simp only [keys, List.mem_cons, List.not_mem_nil, or_false, not_or] at known
        rw [Shape.ofMembers, unknown, apart "words" known.1, apart "grammar" known.2.1,
          apart "sentences" known.2.2]
        exact ih

theorem ofItems_eq_ok_iff {items : List Json} :
    shape.ofItems 0 shape.fields shape.start items = .ok r ↔
      ∃ tail, items = r.words.toJson :: tail ∧ OrAbsent (tail.take 1) r.grammar ∧
        OrAbsent (tail.drop 1) r.sentences := by
  obtain ⟨words, grammar, sentences, fields, ⟨required, optional, optional'⟩, -, takes_words,
    takes_grammar, takes_sentences⟩ := shape_fields
  have none_left : ∀ acc items, shape.ofItems 3 [] acc items = .ok r ↔ items = [] ∧ acc = r := by
    intro acc items
    cases items <;> simp [Shape.ofItems]
  have missing : [words, grammar, sentences].findIdx? Json.Field.required ≠ none := by
    simp [List.findIdx?_cons, required]
  have absent : [grammar, sentences].findIdx? Json.Field.required = none := by
    simp [List.findIdx?_cons, optional, optional']
  have absent' : [sentences].findIdx? Json.Field.required = none := by
    simp [List.findIdx?_cons, optional']
  rw [fields, takes_words.ofItems_iff]
  simp only [takes_grammar.ofItems_iff, takes_sentences.ofItems_iff, none_left, missing, absent,
    absent', false_and, and_false, true_and, false_or]
  constructor
  · rintro ⟨w, _, rfl, ⟨rfl, rfl⟩ | ⟨g, _, rfl, ⟨rfl, rfl⟩ | ⟨s, _, rfl, rfl, rfl⟩⟩⟩
    · exact ⟨[], rfl, Or.inl ⟨rfl, rfl⟩, Or.inl ⟨rfl, rfl⟩⟩
    · exact ⟨[Json.strings g], rfl, Or.inr rfl, Or.inl ⟨rfl, rfl⟩⟩
    · exact ⟨[Json.strings g, Json.strings s], rfl, Or.inr rfl, Or.inr rfl⟩
  · obtain ⟨w, g, s⟩ := r
    rintro ⟨tail, rfl, grammar, sentences⟩
    refine ⟨w, tail, rfl, ?_⟩
    rcases sentences with ⟨short, rfl⟩ | given
    · rcases grammar with ⟨none_given, rfl⟩ | given
      · exact Or.inl ⟨by rw [← List.take_append_drop 1 tail, none_given, short]; rfl, rfl⟩
      · exact Or.inr ⟨g, [], by rw [← List.take_append_drop 1 tail, given, short]; rfl,
          Or.inl ⟨rfl, rfl⟩⟩
    · cases tail with
      | nil => cases given
      | cons first tail =>
          obtain rfl : tail = [Json.strings s] := given
          obtain ⟨⟨⟩, -⟩ | one := grammar
          obtain rfl : first = Json.strings g := (List.cons.inj one).1
          exact Or.inr ⟨g, _, rfl, Or.inr ⟨s, [], rfl, rfl, rfl⟩⟩

theorem ofJson_eq_ok_iff : shape.ofJson v = .ok r ↔ Describes v r := by
  cases v with
  | object members =>
      rw [Shape.ofJson, ofMembers_eq_ok_iff]
      simp only [Says, List.not_mem_nil, not_false_eq_true, true_and, forall_const, and_false,
        false_or, false_imp_iff, and_true]
      constructor
      · rintro ⟨words, grammar, sentences⟩
        exact .object words grammar sentences
      · rintro ⟨words, grammar, sentences⟩
        exact ⟨words, grammar, sentences⟩
  | list items =>
      rw [Shape.ofJson, ofItems_eq_ok_iff]
      constructor
      · rintro ⟨tail, rfl, grammar, sentences⟩
        exact .list grammar sentences
      · intro h
        cases h with
        | list grammar sentences => exact ⟨_, rfl, grammar, sentences⟩
  | null | bool _ | number _ | string _ => exact ⟨nofun, nofun⟩

/-- The main result: the documents that are requests, and what they are. -/
theorem ofText_compact (v : Json) :
    ((∃ r, ofText v.compact = .ok r) ↔ WellShaped v) ∧
    (∀ r, ofText v.compact = .ok r ↔ Describes v r) ∧
    (∀ members others, v = .object members →
      members.filter (fun member => member.1 ∈ keys) =
        others.filter (fun member => member.1 ∈ keys) →
      ofText v.compact = ofText (Json.object others).compact) := by
  have whole : ∀ v : Json, ofText v.compact = shape.ofJson v :=
    fun v => ofText_eq (Json.isDocument_compact v)
  refine ⟨?_, fun r => by rw [whole, ofJson_eq_ok_iff], ?_⟩
  · rw [wellShaped_iff]
    exact exists_congr fun r => by rw [whole, ofJson_eq_ok_iff]
  · rintro members others rfl same
    have known : (fun member : String × Json => shape.knows member.1) =
        fun member => decide (member.1 ∈ keys) := by
      funext member
      rw [Bool.eq_iff_iff, knows_iff, decide_eq_true_iff]
    rw [whole, whole, Shape.ofJson, Shape.ofJson, Shape.ofMembers_filter, known, same, ← known,
      ← Shape.ofMembers_filter]

end Request
end SpeechConfig
