/-
# `SpeechConfig.Proofs.Artifact.GrammarReader` — quoted grammar files read back

## What is proved, with every binder written out

`Grammar.read` reads a grammar file with quoted rules.  It accepts exactly what is
written, `read_eq_some_iff`: for every text and every `c : Contents`,

    read text = some c  ↔  ';' ∉ c.name.toList ∧ text = c.write

Rendering rules under a plain name writes such contents, with the productions
numbered from one.  So nothing of the name and of the rules is lost, whatever the
rules hold: quotes, backslashes, line breaks, or a text that looks like the end of
its own production and the beginning of another.

## Where a production ends

The reader undoes escapes as it goes, so its answer alone would not say where the
closing quote is.  `ClosingQuote` says it without a reader: a quote is escaped when
the run of backslashes directly before it is odd, and the closing quote is the first
one that is not escaped.  `closingQuote_escape` finds it right behind the escaped
rule.
-/
import Mathlib.Data.List.Basic
import Mathlib.Data.List.Induction
import Mathlib.Data.List.TakeWhile
import SpeechConfig.Proofs.Artifact.Name

namespace SpeechConfig.Grammar

/-! ## What a file says -/

/-- A production as a reader sees it. -/
structure Production where
  number : Nat
  rule : String
deriving DecidableEq, Repr

structure Contents where
  name : String
  productions : List Production
deriving DecidableEq, Repr

def Production.write (p : Production) : String :=
  production .quoted p.number p.rule

def Contents.write (c : Contents) : String :=
  header c.name ++ String.join (c.productions.map Production.write)

/-- The contents of rules under a name: rule `i` of the list is production `i + 1`. -/
def Contents.ofRules (name : String) (rules : List String) : Contents :=
  ⟨name, rules.mapIdx fun i rule => ⟨i + 1, rule⟩⟩

theorem productionsFrom_eq_mapIdx (quoting : RuleQuoting) :
    ∀ (rules : List String) (index : Nat),
      productionsFrom quoting index rules =
        rules.mapIdx fun i rule => production quoting (index + i) rule := by
  intro rules
  induction rules with
  | nil => intro index; rfl
  | cons rule rest ih =>
      intro index
      rw [productionsFrom, ih, List.mapIdx_cons]
      simp only [Nat.add_zero, Nat.add_assoc, Nat.add_comm 1]

theorem productionsFrom_quoted (rules : List String) (index : Nat) :
    productionsFrom .quoted index rules =
      (rules.mapIdx fun i rule => (⟨index + i, rule⟩ : Production)).map Production.write := by
  rw [productionsFrom_eq_mapIdx, List.mapIdx_eq_zipIdx_map, List.mapIdx_eq_zipIdx_map,
    List.map_map]
  rfl

theorem render_quoted (name : String) (rules : List String) :
    render name rules .quoted = (Contents.ofRules name rules).write := by
  simp only [render, productionsFrom_quoted, Contents.write, Contents.ofRules, Nat.add_comm 1]

/-! ## Rules -/

/-- The rule up to its closing quote, and what stands behind that quote. -/
def readRule : List Char → Option (List Char × List Char)
  | [] => none
  | c :: cs =>
    if c = '"' then some ([], cs)
    else if c = '\\' then
      match cs with
      | [] => none
      | d :: cs =>
        if d = '"' ∨ d = '\\' then (readRule cs).map fun (rule, rest) => (d :: rule, rest)
        else none
    else (readRule cs).map fun (rule, rest) => (c :: rule, rest)

theorem readRule_quote (cs : List Char) : readRule ('"' :: cs) = some ([], cs) := by
  unfold readRule
  rfl

theorem readRule_plain {c : Char} (h : ¬ (c = '"' ∨ c = '\\')) (cs : List Char) :
    readRule (c :: cs) = (readRule cs).map fun (rule, rest) => (c :: rule, rest) := by
  obtain ⟨no_quote, no_backslash⟩ := not_or.mp h
  rw [readRule.eq_def]
  simp only [if_neg no_quote, if_neg no_backslash]

theorem readRule_escape (rest : List Char) :
    ∀ rule : List Char, readRule (escape rule ++ '"' :: rest) = some (rule, rest) := by
  intro rule
  induction rule with
  | nil => exact readRule_quote rest
  | cons c rule ih =>
      by_cases special : c = '"' ∨ c = '\\'
      · rw [escape, if_pos special]
        simp [readRule, special, ih]
      · rw [escape, if_neg special, List.cons_append, readRule_plain special, ih]
        rfl

theorem eq_escape_of_readRule {rest : List Char} :
    ∀ {cs rule : List Char}, readRule cs = some (rule, rest) → cs = escape rule ++ '"' :: rest := by
  intro cs
  -- in the first, third and fifth case no rule is read
  fun_induction readRule cs with
  | case1 => intro rule h; cases h
  | case2 cs =>
      intro rule h
      obtain ⟨rfl, rfl⟩ := Prod.mk.inj (Option.some.inj h)
      rfl
  | case3 => intro rule h; cases h
  | case4 d cs special _ ih =>
      intro rule h
      obtain ⟨⟨tail, behind⟩, found, heq⟩ := Option.map_eq_some_iff.mp h
      obtain ⟨rfl, rfl⟩ := Prod.mk.inj heq
      rw [escape, if_pos special, ih found]
      rfl
  | case5 => intro rule h; cases h
  | case6 c cs no_quote no_backslash ih =>
      intro rule h
      obtain ⟨⟨tail, behind⟩, found, heq⟩ := Option.map_eq_some_iff.mp h
      obtain ⟨rfl, rfl⟩ := Prod.mk.inj heq
      rw [escape, if_neg (not_or.mpr ⟨no_quote, no_backslash⟩), ih found]
      rfl

/-! ## Productions -/

/-- The number at the front of a text, in the spelling that numbers are written in, and
what stands behind it. -/
def readNumber (cs : List Char) : Option (Nat × List Char) :=
  let digits := cs.takeWhile Char.isDigit
  let number := Nat.ofDigitChars 10 digits 0
  if (Nat.repr number).toList = digits then some (number, cs.dropWhile Char.isDigit) else none

theorem eq_append_of_readNumber {cs rest : List Char} {number : Nat}
    (h : readNumber cs = some (number, rest)) : cs = (Nat.repr number).toList ++ rest := by
  simp only [readNumber] at h
  split at h
  · next canonical =>
      obtain ⟨rfl, rfl⟩ := Prod.mk.inj (Option.some.inj h)
      rw [canonical, List.takeWhile_append_dropWhile]
  · cases h

theorem readNumber_append (number : Nat) {cs : List Char}
    (h : ∀ c ∈ cs.head?, c.isDigit = false) :
    readNumber ((Nat.repr number).toList ++ cs) = some (number, cs) := by
  have digits : ∀ d ∈ (Nat.repr number).toList, d.isDigit = true := by
    rw [Nat.toList_repr]
    exact fun d hd => Nat.isDigit_of_mem_toDigits (by decide) (by decide) hd
  have none_left : cs.takeWhile Char.isDigit = [] ∧ cs.dropWhile Char.isDigit = cs := by
    cases cs with
    | nil => simp
    | cons c cs => simp [h c rfl]
  have value : Nat.ofDigitChars 10 (Nat.repr number).toList 0 = number := by
    rw [Nat.toList_repr, Nat.ofDigitChars_ten_toDigits]
  simp only [readNumber, List.takeWhile_append_of_pos digits, none_left.1, List.append_nil, value,
    if_true, List.dropWhile_append_of_pos digits, none_left.2]

def readProduction (cs : List Char) : Option (Production × List Char) := do
  let cs ← "public <cmd".toList.isPrefixOf? cs
  let (number, cs) ← readNumber cs
  let cs ← ">=\"".toList.isPrefixOf? cs
  let (rule, cs) ← readRule cs
  let cs ← ";\n".toList.isPrefixOf? cs
  some (⟨number, String.ofList rule⟩, cs)

theorem toList_write (p : Production) :
    p.write.toList = "public <cmd".toList ++ ((Nat.repr p.number).toList ++
      (">=\"".toList ++ (escape p.rule.toList ++ '"' :: ";\n".toList))) := by
  simp [Production.write, production, body]

theorem isPrefixOf?_append (front rest : List Char) :
    front.isPrefixOf? (front ++ rest) = some rest :=
  List.isPrefixOf?_eq_some_iff_append_eq.mpr rfl

theorem readProduction_write (p : Production) (rest : List Char) :
    readProduction (p.write.toList ++ rest) = some (p, rest) := by
  have split : p.write.toList ++ rest = "public <cmd".toList ++ ((Nat.repr p.number).toList ++
      (">=\"".toList ++ (escape p.rule.toList ++ '"' :: (";\n".toList ++ rest)))) := by
    rw [toList_write]
    simp only [List.append_assoc, List.cons_append]
  have number :
      readNumber ((Nat.repr p.number).toList ++
          (">=\"".toList ++ (escape p.rule.toList ++ '"' :: (";\n".toList ++ rest)))) =
        some (p.number, ">=\"".toList ++ (escape p.rule.toList ++ '"' :: (";\n".toList ++ rest))) :=
    readNumber_append p.number (by simp)
  have rule := readRule_escape (";\n".toList ++ rest) p.rule.toList
  simp only [readProduction, split, isPrefixOf?_append, number, rule, Option.bind_eq_bind,
    Option.bind_some, String.ofList_toList]

theorem readProduction_eq_some_iff {cs rest : List Char} {p : Production} :
    readProduction cs = some (p, rest) ↔ cs = p.write.toList ++ rest := by
  constructor
  · intro h
    simp only [readProduction, Option.bind_eq_bind, Option.bind_eq_some_iff,
      List.isPrefixOf?_eq_some_iff_append_eq, Prod.exists] at h
    obtain ⟨_, rfl, number, _, hnumber, _, rfl, rule, _, hrule, _, rfl, heq⟩ := h
    obtain ⟨rfl, rfl⟩ := Prod.mk.inj (Option.some.inj heq)
    rw [eq_append_of_readNumber hnumber, eq_escape_of_readRule hrule, toList_write]
    simp
  · rintro rfl
    exact readProduction_write p rest

theorem length_of_readProduction {cs rest : List Char} {p : Production}
    (h : readProduction cs = some (p, rest)) : rest.length < cs.length := by
  rw [readProduction_eq_some_iff.mp h, toList_write]
  simp only [List.length_append, List.length_cons]
  omega

def readProductions (cs : List Char) : Option (List Production) :=
  if cs = [] then some []
  else match _found : readProduction cs with
    | none => none
    | some (p, rest) => (readProductions rest).map (p :: ·)
termination_by cs.length
decreasing_by exact length_of_readProduction _found

theorem readProductions_write :
    ∀ ps : List Production,
      readProductions (ps.flatMap fun p => p.write.toList) = some ps := by
  intro ps
  induction ps with
  | nil => simp [readProductions]
  | cons p ps ih =>
      have more : p.write.toList ++ (ps.flatMap fun p => p.write.toList) ≠ [] := by
        simp [toList_write]
      rw [List.flatMap_cons, readProductions, if_neg more]
      split
      · next nothing => simp [readProduction_write] at nothing
      · next q rest found =>
          rw [readProduction_write] at found
          obtain ⟨rfl, rfl⟩ := Prod.mk.inj (Option.some.inj found)
          rw [ih, Option.map_some]

theorem eq_flatMap_of_readProductions {cs : List Char} :
    ∀ {ps : List Production}, readProductions cs = some ps →
      cs = ps.flatMap fun p => p.write.toList := by
  fun_induction readProductions cs with
  | case1 => intro ps h; rw [← Option.some.inj h]; rfl
  | case2 => intro ps h; cases h
  | case3 cs _ p rest found ih =>
      intro ps h
      obtain ⟨tail, read, rfl⟩ := Option.map_eq_some_iff.mp h
      rw [readProduction_eq_some_iff.mp found, ih read, List.flatMap_cons]

/-! ## Files -/

def read (text : String) : Option Contents := do
  let cs ← "#JSGF V1.0;\ngrammar ".toList.isPrefixOf? text.toList
  let name := cs.takeWhile (· ≠ ';')
  let cs ← ";\n".toList.isPrefixOf? (cs.dropWhile (· ≠ ';'))
  let productions ← readProductions cs
  some ⟨String.ofList name, productions⟩

theorem toList_header (name : String) :
    (header name).toList =
      "#JSGF V1.0;\ngrammar ".toList ++ (name.toList ++ ";\n".toList) := by
  show ("#JSGF V1.0;\ngrammar " ++ name ++ ";\n").toList = _
  rw [String.toList_append, String.toList_append, List.append_assoc]

theorem Contents.toList_write (c : Contents) :
    c.write.toList = "#JSGF V1.0;\ngrammar ".toList ++ (c.name.toList ++
      (";\n".toList ++ c.productions.flatMap fun p => p.write.toList)) := by
  rw [Contents.write, String.toList_append, toList_header, String.toList_join, List.flatMap_map,
    List.append_assoc, List.append_assoc]

theorem read_write {c : Contents} (h : ';' ∉ c.name.toList) : read c.write = some c := by
  have before : ∀ x ∈ c.name.toList, decide (x ≠ ';') = true := by
    intro x hx
    have : x ≠ ';' := fun heq => h (heq ▸ hx)
    simpa using this
  have name : (c.name.toList ++ (";\n".toList ++ c.productions.flatMap fun p => p.write.toList)
      ).takeWhile (· ≠ ';') = c.name.toList := by
    rw [List.takeWhile_append_of_pos before]
    simp
  have behind : (c.name.toList ++ (";\n".toList ++ c.productions.flatMap fun p => p.write.toList)
      ).dropWhile (· ≠ ';') = ";\n".toList ++ c.productions.flatMap fun p => p.write.toList := by
    rw [List.dropWhile_append_of_pos before]
    simp
  simp only [read, Contents.toList_write, isPrefixOf?_append, name, behind,
    readProductions_write, Option.bind_eq_bind, Option.bind_some, String.ofList_toList]

theorem read_eq_some_iff {text : String} {c : Contents} :
    read text = some c ↔ ';' ∉ c.name.toList ∧ text = c.write := by
  constructor
  · intro h
    simp only [read, Option.bind_eq_bind, Option.bind_eq_some_iff,
      List.isPrefixOf?_eq_some_iff_append_eq] at h
    obtain ⟨cs, htext, body, hbody, ps, hps, heq⟩ := h
    obtain rfl := Option.some.inj heq
    have name : (String.ofList (cs.takeWhile (· ≠ ';'))).toList = cs.takeWhile (· ≠ ';') :=
      String.toList_ofList
    constructor
    · intro semicolon
      rw [name] at semicolon
      simpa using List.mem_takeWhile_imp semicolon
    · apply String.toList_inj.mp
      rw [Contents.toList_write, name, ← eq_flatMap_of_readProductions hps, hbody,
        List.takeWhile_append_dropWhile, htext]
  · rintro ⟨no_semicolon, rfl⟩
    exact read_write no_semicolon

/-! ## Where a production ends -/

def trailingBackslashes (cs : List Char) : Nat :=
  (cs.reverse.takeWhile (· = '\\')).length

/-- At place `k` stands a quote that is not escaped. -/
def BareQuote (cs : List Char) (k : Nat) : Prop :=
  cs[k]? = some '"' ∧ trailingBackslashes (cs.take k) % 2 = 0

/-- Behind an opening quote, the closing one is the first that is not escaped. -/
def ClosingQuote (cs : List Char) (k : Nat) : Prop :=
  BareQuote cs k ∧ ∀ j < k, ¬ BareQuote cs j

theorem trailingBackslashes_concat (cs : List Char) (c : Char) :
    trailingBackslashes (cs ++ [c]) = if c = '\\' then trailingBackslashes cs + 1 else 0 := by
  by_cases h : c = '\\'
  · simp [trailingBackslashes, h]
  · simp [trailingBackslashes, h]

theorem bareQuote_append {cs : List Char} (rest : List Char) {k : Nat} (h : k < cs.length) :
    BareQuote (cs ++ rest) k ↔ BareQuote cs k := by
  rw [BareQuote, BareQuote, List.getElem?_append_left h, List.take_append_of_le_length (by omega)]

/-- A character put behind a text is a bare quote if it is a quote and the text ends
in an even run of backslashes. -/
theorem bareQuote_concat {cs : List Char} {c : Char} {k : Nat} :
    BareQuote (cs ++ [c]) k ↔
      BareQuote cs k ∨ k = cs.length ∧ c = '"' ∧ trailingBackslashes cs % 2 = 0 := by
  rcases Nat.lt_trichotomy k cs.length with h | rfl | h
  · rw [bareQuote_append _ h]
    simp [Nat.ne_of_lt h]
  · simp [BareQuote]
  · have outside : ∀ cs' : List Char, cs'.length ≤ k → ¬ BareQuote cs' k := by
      intro cs' hk bare
      rw [BareQuote, List.getElem?_eq_none hk] at bare
      cases bare.1
    have here := outside cs (by omega)
    have longer := outside (cs ++ [c]) (by simp; omega)
    exact ⟨fun bare => absurd bare longer, fun bare => bare.elim (absurd · here) (by omega)⟩

theorem escape_append (cs ds : List Char) : escape (cs ++ ds) = escape cs ++ escape ds := by
  induction cs with
  | nil => rfl
  | cons c cs ih =>
      by_cases special : c = '"' ∨ c = '\\'
      · simp only [List.cons_append, escape, if_pos special, ih]
      · simp only [List.cons_append, escape, if_neg special, ih]

/-- An escaped rule holds no bare quote and ends in an even run of backslashes: the
two facts carry each other along the rule. -/
theorem escape_closed (rule : List Char) :
    (∀ k, ¬ BareQuote (escape rule) k) ∧ trailingBackslashes (escape rule) % 2 = 0 := by
  induction rule using List.reverseRecOn with
  | nil => exact ⟨fun k bare => by simp [BareQuote, escape] at bare, rfl⟩
  | append_singleton rule c ih =>
      obtain ⟨no_quote, even⟩ := ih
      by_cases special : c = '"' ∨ c = '\\'
      · have spelt : escape (rule ++ [c]) = (escape rule ++ ['\\']) ++ [c] := by
          rw [escape_append, escape, if_pos special, escape, List.append_assoc]
          rfl
        have odd : trailingBackslashes (escape rule ++ ['\\']) % 2 = 1 := by
          rw [trailingBackslashes_concat, if_pos rfl]
          omega
        rw [spelt]
        refine ⟨fun k bare => ?_, ?_⟩
        · rcases bareQuote_concat.mp bare with bare | ⟨-, -, even'⟩
          · rcases bareQuote_concat.mp bare with bare | ⟨-, quote, -⟩
            · exact no_quote k bare
            · exact absurd quote (by decide)
          · omega
        · rw [trailingBackslashes_concat]
          split <;> omega
      · have spelt : escape (rule ++ [c]) = escape rule ++ [c] := by
          rw [escape_append, escape, if_neg special, escape]
        obtain ⟨not_quote, not_backslash⟩ := not_or.mp special
        rw [spelt]
        refine ⟨fun k bare => ?_, ?_⟩
        · rcases bareQuote_concat.mp bare with bare | ⟨-, quote, -⟩
          · exact no_quote k bare
          · exact not_quote quote
        · rw [trailingBackslashes_concat, if_neg not_backslash]

theorem closingQuote_escape (rule rest : List Char) :
    ClosingQuote (escape rule ++ '"' :: rest) (escape rule).length := by
  obtain ⟨no_quote, even⟩ := escape_closed rule
  refine ⟨⟨by simp, by simpa using even⟩, fun j hj bare => ?_⟩
  exact no_quote j ((bareQuote_append _ hj).mp bare)

/-! ## Rendered rules -/

theorem productionsFrom_append (quoting : RuleQuoting) (after : List String) :
    ∀ (before : List String) (index : Nat),
      productionsFrom quoting index (before ++ after) =
        productionsFrom quoting index before ++
          productionsFrom quoting (index + before.length) after := by
  intro before
  induction before with
  | nil => intro index; rfl
  | cons rule rest ih =>
      intro index
      rw [List.cons_append, productionsFrom, ih, productionsFrom, List.cons_append,
        List.length_cons, Nat.add_right_comm, Nat.add_assoc]

theorem render_append (name : String) (quoting : RuleQuoting) (before after : List String) :
    render name (before ++ after) quoting =
      render name before quoting ++
        String.join (productionsFrom quoting (before.length + 1) after) := by
  rw [render, render, productionsFrom_append, String.join_append, String.append_assoc,
    Nat.add_comm 1]

/-- The text of a file in front of the opening quote of production `before.length + 1`. -/
def textBefore (name : String) (before : List String) : String :=
  render name before .quoted ++ "public <cmd" ++ Nat.repr (before.length + 1) ++ ">="

theorem toList_render_split (name : String) (before : List String) (rule : String)
    (after : List String) :
    ∃ behind, (render name (before ++ rule :: after) .quoted).toList =
      (textBefore name before).toList ++
        '"' :: (escape rule.toList ++ '"' :: (";\n".toList ++ behind)) := by
  refine ⟨(String.join (productionsFrom .quoted (before.length + 2) after)).toList, ?_⟩
  rw [render_append, productionsFrom]
  simp [textBefore, production, body]

/-- Quoted rules under a plain name can be read back from the file: the name and the
rules, each with its number.  Another name or other rules make another file, and
the rule of every production ends at its closing quote. -/
theorem quoted_rules_read_back (name : String) (rules : List String)
    (plain : isPlain name = true) :
    read (render name rules .quoted) =
        some ⟨name, rules.mapIdx fun i rule => ⟨i + 1, rule⟩⟩ ∧
      (∀ (name' : String) (rules' : List String), isPlain name' = true →
        render name' rules' .quoted = render name rules .quoted →
        name' = name ∧ rules' = rules) ∧
      ∀ (before : List String) (rule : String) (after : List String),
        rules = before ++ rule :: after →
        ∃ behind,
          (render name rules .quoted).toList =
            (textBefore name before).toList ++ '"' :: (escape rule.toList ++ '"' :: behind) ∧
          ClosingQuote (escape rule.toList ++ '"' :: behind) (escape rule.toList).length := by
  have read_back : ∀ (name : String) (rules : List String), isPlain name = true →
      read (render name rules .quoted) = some (Contents.ofRules name rules) := by
    intro name rules plain
    rw [render_quoted]
    exact read_write (not_mem_of_isPlain plain (by decide))
  refine ⟨read_back name rules plain, ?_, ?_⟩
  · intro name' rules' plain' same
    have contents : Contents.ofRules name' rules' = Contents.ofRules name rules := by
      apply Option.some.inj
      rw [← read_back name' rules' plain', same, read_back name rules plain]
    obtain ⟨names, productions⟩ := Contents.mk.inj contents
    refine ⟨names, ?_⟩
    apply List.ext_getElem?
    intro i
    have := congrArg (fun ps => ps[i]?.map Production.rule) productions
    simpa [Function.comp_def] using this
  · rintro before rule after rfl
    obtain ⟨behind, spelt⟩ := toList_render_split name before rule after
    exact ⟨_, spelt, closingQuote_escape _ _⟩

/-- A rule that ends in a backslash after imitating the end of its production and
another production. -/
theorem quoted_rules_read_back_imitation :
    isPlain "custom" = true ∧
      read (render "custom" ["yes\";\npublic <cmd2>=\"no\\"] .quoted) =
        some ⟨"custom", [⟨1, "yes\";\npublic <cmd2>=\"no\\"⟩]⟩ := by
  have plain : isPlain "custom" = true := by decide
  exact ⟨plain, (quoted_rules_read_back "custom" _ plain).1⟩

end SpeechConfig.Grammar
