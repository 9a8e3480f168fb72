/-
# `SpeechConfig.Proofs.Artifact.Entries` — how entries stand in the files made of them

## What is proved, with every binder written out

For every request `r`, every name without a line feed, as plain ones are, and either
quoting: if no body of the corpus holds a line feed then the corpus has one line per body
and no other line,

    HasLines (Corpus.render r.words r.sentences).text (bodies.map Corpus.lineText)

and if no rule holds one then the grammar has its two lines of header and one line per
rule, the production of rule `i` being line `i + 2`.  An entry without a line feed is a
line of its own whatever the others hold: above it stand the lines of what is written
before it, and below it the lines of what is written behind it.

Whether an entry is admitted is another matter.  Line feeds are white space, so they may
stand between the words of an entry that is admitted, and entries are written as they are
(`fed_entries_break`).

If `r.validate = .ok ()` then every rule and every sentence holds a character that is not
white space.  The bodies of a corpus are the sentences, or else the words, and nothing
checks that a word is not blank:

    (∀ body ∈ bodies, body is not blank)  ↔  r.sentences ≠ [] ∨ no word is blank

The right side can fail, for words that a document holds or that are inserted one by one
(`mute_has_blank_body`).
-/
import SpeechConfig.Document.Vocabulary
import SpeechConfig.Proofs.Artifact.GrammarReader
import SpeechConfig.Proofs.Text.FeedLines
import SpeechConfig.Proofs.Vocabulary.FirstOffence
import SpeechConfig.Artifact.Corpus

namespace SpeechConfig

open Text (HasLines)

/-! ## Lines of a corpus -/

namespace Corpus

def lineText (body : String) : String :=
  "<s> " ++ body ++ " </s>"

theorem line_eq (body : String) : line body = lineText body ++ "\n" := by
  apply String.toList_inj.mp
  simp [line, lineText]

theorem hasLines_line {body : String} (h : '\n' ∉ body.toList) :
    HasLines (line body) [lineText body] := by
  rw [line_eq]
  apply HasLines.singleton
  simpa [lineText] using h

theorem exists_hasLines (bodies : List String) :
    ∃ ls, HasLines (String.join (bodies.map line)) ls := by
  refine Text.exists_hasLines_join fun piece mem => ?_
  obtain ⟨body, -, rfl⟩ := List.mem_map.mp mem
  rw [line_eq]
  exact Text.exists_hasLines _

variable {w : WordList} {sentences : List String}

theorem hasLines_render (h : ∀ body ∈ bodies w sentences, '\n' ∉ body.toList) :
    HasLines (render w sentences).text ((bodies w sentences).map lineText) :=
  Text.hasLines_join fun body mem => hasLines_line (h body mem)

/-- A body without a line feed stands in a line between those of the bodies before it and
those of the bodies behind it. -/
theorem hasLines_render_split {before after : List String} {body : String}
    (split : bodies w sentences = before ++ body :: after) (h : '\n' ∉ body.toList) :
    ∃ above below, HasLines (String.join (before.map line)) above ∧
      HasLines (String.join (after.map line)) below ∧
      HasLines (render w sentences).text (above ++ lineText body :: below) := by
  obtain ⟨above, front⟩ := exists_hasLines before
  obtain ⟨below, behind⟩ := exists_hasLines after
  refine ⟨above, below, front, behind, ?_⟩
  rw [render, split, List.map_append, List.map_cons, String.join_append, String.join_cons]
  exact front.append ((hasLines_line h).append behind)

end Corpus

/-! ## Lines of a grammar -/

namespace Grammar

def headerLines (name : String) : List String :=
  ["#JSGF V1.0;", "grammar " ++ name ++ ";"]

def productionText (quoting : RuleQuoting) (index : Nat) (rule : String) : String :=
  "public <cmd" ++ Nat.repr index ++ ">=" ++ body quoting rule ++ ";"

theorem production_eq (quoting : RuleQuoting) (index : Nat) (rule : String) :
    production quoting index rule = productionText quoting index rule ++ "\n" := by
  apply String.toList_inj.mp
  simp [production, productionText]

theorem mem_escape {c : Char} (hc : c ≠ '\\') :
    ∀ {rule : List Char}, c ∈ escape rule ↔ c ∈ rule := by
  intro rule
  induction rule with
  | nil => exact Iff.rfl
  | cons d rule ih =>
      rw [escape]
      split
      · simp [hc, ih]
      · simp [ih]

theorem mem_body_of_feed {quoting : RuleQuoting} {rule : String} :
    '\n' ∈ (body quoting rule).toList ↔ '\n' ∈ rule.toList := by
  cases quoting with
  | bare => exact Iff.rfl
  | quoted => simp [body, mem_escape]

theorem not_mem_toDigits (n : Nat) : '\n' ∉ Nat.toDigits 10 n := by
  intro mem
  have digit := Nat.isDigit_of_mem_toDigits (by decide) (by decide) mem
  exact absurd digit (by decide)

theorem header_eq (name : String) :
    header name = ("#JSGF V1.0;" ++ "\n") ++ (("grammar " ++ name ++ ";") ++ "\n") := by
  apply String.toList_inj.mp
  rw [toList_header]
  simp

theorem hasLines_header {name : String} (h : '\n' ∉ name.toList) :
    HasLines (header name) (headerLines name) := by
  have second : HasLines (("grammar " ++ name ++ ";") ++ "\n") ["grammar " ++ name ++ ";"] :=
    .singleton (by simpa using h)
  have first : HasLines ("#JSGF V1.0;" ++ "\n") ["#JSGF V1.0;"] := .singleton (by decide)
  rw [header_eq]
  exact first.append second

theorem hasLines_production {rule : String} (quoting : RuleQuoting) (index : Nat)
    (h : '\n' ∉ rule.toList) :
    HasLines (production quoting index rule) [productionText quoting index rule] := by
  rw [production_eq]
  apply HasLines.singleton
  simpa [productionText, mem_body_of_feed, not_mem_toDigits] using h

theorem hasLines_productionsFrom {rules : List String} (quoting : RuleQuoting)
    (h : ∀ rule ∈ rules, '\n' ∉ rule.toList) (index : Nat) :
    HasLines (String.join (productionsFrom quoting index rules))
      (rules.mapIdx fun i rule => productionText quoting (index + i) rule) := by
  rw [productionsFrom_eq_mapIdx, List.mapIdx_eq_zipIdx_map, List.mapIdx_eq_zipIdx_map]
  refine Text.hasLines_join fun entry mem => hasLines_production quoting _ (h _ ?_)
  exact List.fst_mem_of_mem_zipIdx mem

theorem exists_hasLines (quoting : RuleQuoting) (rules : List String) (index : Nat) :
    ∃ ls, HasLines (String.join (productionsFrom quoting index rules)) ls := by
  refine Text.exists_hasLines_join fun piece mem => ?_
  rw [productionsFrom_eq_mapIdx] at mem
  obtain ⟨i, _, rfl⟩ := List.mem_mapIdx.mp mem
  rw [production_eq]
  exact Text.exists_hasLines _

variable {name : String} {rules : List String} {quoting : RuleQuoting}

theorem hasLines_render (named : '\n' ∉ name.toList) (h : ∀ rule ∈ rules, '\n' ∉ rule.toList) :
    HasLines (render name rules quoting)
      (headerLines name ++ rules.mapIdx fun i rule => productionText quoting (i + 1) rule) := by
  have productions := hasLines_productionsFrom quoting h 1
  simp only [Nat.add_comm 1] at productions
  exact (hasLines_header named).append productions

theorem hasLines_render_split {before after : List String} {rule : String}
    (named : '\n' ∉ name.toList) (h : '\n' ∉ rule.toList) :
    ∃ above below, HasLines (render name before quoting) above ∧
      HasLines (String.join (productionsFrom quoting (before.length + 2) after)) below ∧
      HasLines (render name (before ++ rule :: after) quoting)
        (above ++ productionText quoting (before.length + 1) rule :: below) := by
  obtain ⟨earlier, written⟩ := exists_hasLines quoting before 1
  obtain ⟨below, behind⟩ := exists_hasLines quoting after (before.length + 2)
  have front : HasLines (render name before quoting) (headerLines name ++ earlier) :=
    (hasLines_header named).append written
  refine ⟨headerLines name ++ earlier, below, front, behind, ?_⟩
  rw [render_append, productionsFrom, String.join_cons]
  exact front.append ((hasLines_production quoting _ h).append behind)

end Grammar

theorem Text.isBlank_eq_false_iff {s : String} :
    isBlank s = false ↔ ∃ c ∈ s.toList, isSpace c = false := by
  simp [isBlank]

/-! ## Entries and lines -/

namespace Request

open Corpus (bodies)

/-- Entries without line feeds are the lines of their files, one each; and each such entry
is one line where others do hold line feeds. -/
theorem lines_of_entries (r : Request) (name : String) (quoting : RuleQuoting)
    (named : '\n' ∉ name.toList) :
    ((∀ body ∈ bodies r.words r.sentences, '\n' ∉ body.toList) →
      HasLines (Corpus.render r.words r.sentences).text
        ((bodies r.words r.sentences).map Corpus.lineText)) ∧
    ((∀ rule ∈ r.grammar, '\n' ∉ rule.toList) →
      HasLines (Grammar.render name r.grammar quoting)
        (Grammar.headerLines name ++
          r.grammar.mapIdx fun i rule => Grammar.productionText quoting (i + 1) rule)) ∧
    (∀ (before : List String) (body : String) (after : List String),
      bodies r.words r.sentences = before ++ body :: after → '\n' ∉ body.toList →
      ∃ above below, HasLines (String.join (before.map Corpus.line)) above ∧
        HasLines (String.join (after.map Corpus.line)) below ∧
        HasLines (Corpus.render r.words r.sentences).text
          (above ++ Corpus.lineText body :: below)) ∧
    ∀ (before : List String) (rule : String) (after : List String),
      r.grammar = before ++ rule :: after → '\n' ∉ rule.toList →
      ∃ above below, HasLines (Grammar.render name before quoting) above ∧
        HasLines (String.join (Grammar.productionsFrom quoting (before.length + 2) after)) below ∧
        HasLines (Grammar.render name r.grammar quoting)
          (above ++ Grammar.productionText quoting (before.length + 1) rule :: below) := by
  refine ⟨Corpus.hasLines_render, Grammar.hasLines_render named, ?_, ?_⟩
  · intro before body after split no_feed
    exact Corpus.hasLines_render_split split no_feed
  · intro before rule after split no_feed
    rw [split]
    exact Grammar.hasLines_render_split named no_feed

def answers : WordList := ⟨[⟨"yes", ["Y"]⟩, ⟨"no", ["N"]⟩], by decide⟩

/-- Words that stand in for sentences. -/
def spaced : Request := ⟨answers, ["yes no"], []⟩

/-- Entries of two words with a line feed between them, before entries of one word. -/
def fed : Request := ⟨answers, ["yes\nno", "yes"], ["yes\nno", "no"]⟩

theorem lines_of_entries_spaced :
    '\n' ∉ "custom".toList ∧
      HasLines (Corpus.render spaced.words spaced.sentences).text
        ["<s> yes </s>", "<s> no </s>"] ∧
      HasLines (Grammar.render "custom" spaced.grammar .quoted)
        ["#JSGF V1.0;", "grammar custom;", "public <cmd1>=\"yes no\";"] ∧
      (∃ above below, HasLines (Corpus.render fed.words fed.sentences).text
        (above ++ "<s> no </s>" :: below)) ∧
      ∃ above below, HasLines (Grammar.render "custom" fed.grammar .bare)
        (above ++ "public <cmd2>=yes;" :: below) := by
  have named : '\n' ∉ "custom".toList := by decide
  obtain ⟨corpus, grammar, -, -⟩ := lines_of_entries spaced "custom" .quoted named
  obtain ⟨-, -, body, rule⟩ := lines_of_entries fed "custom" .bare named
  obtain ⟨above, below, -, -, no⟩ := body ["yes\nno"] "no" [] rfl (by decide)
  obtain ⟨above', below', -, -, yes⟩ := rule ["yes\nno"] "yes" [] rfl (by decide)
  exact ⟨named, corpus (by decide), grammar (by decide), ⟨above, below, no⟩,
    above', below', yes⟩

/-- The entries of `fed` are admitted, and its files have more lines than entries. -/
theorem fed_entries_break :
    fed.validate = .ok () ∧
      (∀ ls, HasLines (Corpus.render fed.words fed.sentences).text ls →
        ls.length ≠ fed.sentences.length) ∧
      ∀ quoting ls, HasLines (Grammar.render "custom" fed.grammar quoting) ls →
        ls.length ≠ 2 + fed.grammar.length := by
  refine ⟨by decide +kernel, fun ls lines => ?_, fun quoting ls lines => ?_⟩
  · rw [lines.length_eq]
    decide +kernel
  · rw [lines.length_eq]
    cases quoting with
    | quoted => decide +kernel
    | bare => decide +kernel

/-! ## Entries that are not blank -/

/-- No entry that is admitted is blank.  Words are not checked, so the corpus of a valid
request has a blank body exactly if words stand in for sentences and one of them is
blank. -/
theorem bodies_of_valid (r : Request) (valid : r.validate = .ok ()) :
    (∀ rule ∈ r.grammar, ∃ c ∈ rule.toList, Text.isSpace c = false) ∧
      ((∀ body ∈ bodies r.words r.sentences, ∃ c ∈ body.toList, Text.isSpace c = false) ↔
        r.sentences ≠ [] ∨
          ∀ token ∈ r.words.tokens, ∃ c ∈ token.toList, Text.isSpace c = false) := by
  obtain ⟨rules, sentences, -⟩ := validate_eq_ok_iff.mp valid
  have visible : ∀ {text : String}, r.words.Admits text →
      ∃ c ∈ text.toList, Text.isSpace c = false :=
    fun admitted => Text.isBlank_eq_false_iff.mp admitted.1
  refine ⟨fun rule mem => visible (rules rule mem), ?_⟩
  cases given : r.sentences with
  | nil => simp [bodies]
  | cons sentence rest =>
      have spoken : bodies r.words (sentence :: rest) = r.sentences := by simp [bodies, given]
      rw [spoken]
      constructor
      · intro _
        exact Or.inl (List.cons_ne_nil _ _)
      · intro _ body mem
        exact visible (sentences body mem)

theorem bodies_of_valid_fed :
    fed.validate = .ok () ∧
      ∀ body ∈ bodies fed.words fed.sentences, ∃ c ∈ body.toList, Text.isSpace c = false := by
  have valid : fed.validate = .ok () := by decide +kernel
  exact ⟨valid, (bodies_of_valid fed valid).2.mpr (Or.inl (by decide))⟩

/-- A request with a single word, which is blank. -/
def mute : Request := ⟨⟨[⟨" ", ["P"]⟩], by decide⟩, [], []⟩

/-- A document may hold a blank word; the request is valid, and its corpus is one line
without a token. -/
theorem mute_has_blank_body :
    Request.ofText "\x7b\"words\": \x7b\" \": [\"P\"]\x7d\x7d" = .ok mute ∧
      WordList.ofList [⟨" ", ["P"]⟩] = .ok mute.words ∧ mute.validate = .ok () ∧
      (Corpus.render mute.words mute.sentences).text = "<s>   </s>\n" ∧
      ∃ body ∈ bodies mute.words mute.sentences, ∀ c ∈ body.toList, Text.isSpace c = true := by
  refine ⟨by decide +kernel, by decide +kernel, by decide +kernel, by decide +kernel, ?_⟩
  refine ⟨" ", by decide, fun c mem => ?_⟩
  obtain rfl : c = ' ' := List.mem_singleton.mp mem
  decide

end Request
end SpeechConfig
