/-
# `SpeechConfig.Proofs.Document.Settings` — settings and the documents that mean them

## What is proved, with every binder written out

For all settings `s`, every object `doc` that is a thinned form of them, and every text of it:

    s.Thins doc → (Json.object doc).IsDocument text → Settings.ofText text = .ok s

A thinned form has a selection of the members that `s` is written with, at least all that differ
from the defaults; if it has a layout, that is a thinned form of the layout of `s`; and in both
objects the members stand in any order, with any unknown ones between them.  The whole document,
compact or pretty, is one of these.

## What is shown of each field

A field stores the value that it is written as, in the member that has its key and in no other
(`Layout.stores`, `Settings.stores`).  The rest is the same for every shape with optional fields.
-/
import SpeechConfig.Document.Settings
import SpeechConfig.Proofs.Json.Partial

namespace SpeechConfig

open Json (Choice Fault Reads)

/-! ## Values of members -/

def Path.ofJson (v : Json) : Except Fault Path :=
  (Json.ofString "path string" v).map Path.mk

theorem Path.reads : Reads Path.read Path.ofJson :=
  (Json.reads_string "path string").map Path.mk

theorem Path.ofJson_toJson (p : Path) : Path.ofJson p.toJson = .ok p :=
  rfl

namespace Json

variable {α : Type} {meaning : Json → Except Fault α} {write : α → Json} {x y : α}

theorem eq_of_means (means : ∀ x, meaning (write x) = .ok x) (h : write x = write y) : x = y :=
  Except.ok.inj ((means x).symm.trans (h ▸ means y))

theorem ofOptional_optional (means : ∀ x, meaning (write x) = .ok x) (given : ∀ x, write x ≠ .null)
    (x : Option α) : ofOptional meaning (optional write x) = .ok x := by
  cases x with
  | none => rfl
  | some x =>
      rw [optional, ofOptional, means]
      · rfl
      · exact given x

/-- Each value of the choice is the one with its name. -/
def Choice.Covers [DecidableEq α] (c : Choice α) : Prop :=
  ∀ x, c.ofJson (choice c x) = .ok x

end Json

theorem PhonemePolicy.covers : names.Covers := by
  rintro (_ | _) <;> rfl

theorem RuleQuoting.covers : names.Covers := by
  rintro (_ | _) <;> rfl

theorem ModelFormat.covers : names.Covers := by
  rintro (_ | _) <;> rfl

theorem CompileMode.covers : names.Covers := by
  rintro (_ | _) <;> rfl

theorem GrammarDisabledPolicy.covers : names.Covers := by
  rintro (_ | _) <;> rfl

theorem ValidationTiming.covers : names.Covers := by
  rintro (_ | _) <;> rfl

theorem Variant.covers : names.Covers := by
  rintro (_ | _) <;> rfl

/-! ## The installation -/

namespace Layout

theorem readable : Json.Shape.Readable shape.fields := by
  intro f hf
  simp only [shape, List.mem_cons, List.not_mem_nil, or_false] at hf
  rcases hf with rfl | rfl | rfl | rfl | rfl | rfl
  · exact (Path.reads.map _).on
  · exact ((Json.reads_string "a string").map _).on
  · exact (Path.reads.map _).on
  · exact (Path.reads.map _).on
  · exact ((Json.reads_string "a string").map _).on
  · exact (Path.reads.map _).on

theorem writes : shape.Writes fun l => l.toJson.members where
  optional := by simp [shape]
  keys := fun _ => rfl
  distinct := by decide
  faithful := by
    rintro ⟨jars, jar, wrapper, models, pack, acoustic⟩ ⟨jars', jar', wrapper', models', pack',
      acoustic'⟩ h
    simp only [toJson, Json.members, List.cons.injEq, Prod.mk.injEq, true_and, and_true,
      Json.string.injEq] at h
    obtain ⟨h₁, rfl, h₃, h₄, rfl, h₆⟩ := h
    obtain rfl := Json.eq_of_means Path.ofJson_toJson h₁
    obtain rfl := Json.eq_of_means Path.ofJson_toJson h₃
    obtain rfl := Json.eq_of_means Path.ofJson_toJson h₄
    obtain rfl := Json.eq_of_means Path.ofJson_toJson h₆
    rfl

theorem stores (l : Layout) : ∀ member ∈ l.toJson.members,
    shape.Stores (fun l => l.toJson.members) member.1 member.2 member.2 := by
  intro member mem
  simp only [toJson, Json.members, List.mem_cons, List.not_mem_nil, or_false] at mem
  rcases mem with rfl | rfl | rfl | rfl | rfl | rfl
  · exact .of_reads rfl rfl Path.reads rfl fun _ => rfl
  · exact .of_reads rfl rfl (Json.reads_string "a string") rfl fun _ => rfl
  · exact .of_reads rfl rfl Path.reads rfl fun _ => rfl
  · exact .of_reads rfl rfl Path.reads rfl fun _ => rfl
  · exact .of_reads rfl rfl (Json.reads_string "a string") rfl fun _ => rfl
  · exact .of_reads rfl rfl Path.reads rfl fun _ => rfl

/-- A thinned form of the installation's object: without some members that have their default, in
any order, and with members that an installation does not have. -/
def Thins (l : Layout) (doc : List (String × Json)) : Prop :=
  ∃ kept, Json.Kept l.toJson.members default.toJson.members kept ∧
    Json.Holds l.toJson.members kept doc

theorem thins_self (l : Layout) : l.Thins l.toJson.members :=
  ⟨l.toJson.members, .refl, .of_keys rfl⟩

theorem ofJson_of_thins {l : Layout} {doc : List (String × Json)} (h : l.Thins doc) :
    shape.ofJson (.object doc) = .ok l := by
  obtain ⟨kept, sel, holds⟩ := h
  have same : Json.Holds l.toJson.members (kept.map fun member => (member.1, member.2)) doc := by
    simpa using holds
  exact writes.ofJson_eq_ok l.stores sel same

end Layout

/-! ## Settings -/

namespace Settings

variable {s : Settings} {doc inner : List (String × Json)}

theorem readable : Json.Shape.Readable shape.fields := by
  intro f hf
  simp only [shape, List.mem_cons, List.not_mem_nil, or_false] at hf
  rcases hf with rfl | rfl | rfl | rfl | rfl | rfl | rfl | rfl | rfl | rfl | rfl
  · exact ((Json.Shape.reads Layout.readable).map _).on
  · exact (Path.reads.optional.map _).on
  · exact ((Json.reads_string "a string").map _).on
  · exact ((Choice.reads _).map _).on
  · exact ((Choice.reads _).optional.map _).on
  · exact ((Choice.reads _).optional.map _).on
  · exact ((Choice.reads _).optional.map _).on
  · exact ((Choice.reads _).optional.map _).on
  · exact ((Choice.reads _).map _).on
  · exact ((Choice.reads _).map _).on
  · exact (Json.reads_bool.map _).on

/-- The member of a document: the layout is given by the members `inner`. -/
def withLayout (inner : List (String × Json)) (member : String × Json) : Json :=
  if member.1 = "layout" then .object inner else member.2

/-- A thinned form of the object of settings, with a thinned form of the layout if it has one. -/
def Thins (s : Settings) (doc : List (String × Json)) : Prop :=
  ∃ kept inner, Json.Kept s.toJson.members default.toJson.members kept ∧ s.layout.Thins inner ∧
    Json.Holds s.toJson.members (kept.map fun member => (member.1, withLayout inner member)) doc

theorem means_optional {α : Type} [DecidableEq α] {c : Choice α} (covers : c.Covers)
    (x : Option α) : Json.ofOptional c.ofJson (Json.optional (Json.choice c) x) = .ok x :=
  Json.ofOptional_optional covers (fun _ => nofun) x

theorem means_workDir (d : Option Path) :
    Json.ofOptional Path.ofJson (Json.optional Path.toJson d) = .ok d :=
  Json.ofOptional_optional Path.ofJson_toJson (fun _ => nofun) d

theorem stores (h : s.layout.Thins inner) : ∀ member ∈ s.toJson.members,
    shape.Stores (fun s => s.toJson.members) member.1 (withLayout inner member) member.2 := by
  intro member mem
  simp only [toJson, Json.members, List.mem_cons, List.not_mem_nil, or_false] at mem
  rcases mem with rfl | rfl | rfl | rfl | rfl | rfl | rfl | rfl | rfl | rfl | rfl
  · have layout := Layout.ofJson_of_thins h
    exact .of_reads rfl rfl (Json.Shape.reads Layout.readable) layout fun _ => rfl
  · exact .of_reads rfl rfl Path.reads.optional (means_workDir s.workDir) fun _ => rfl
  · exact .of_reads rfl rfl (Json.reads_string "a string") rfl fun _ => rfl
  · exact .of_reads rfl rfl (Choice.reads _) (Variant.covers s.variant) fun _ => rfl
  · have policy := means_optional PhonemePolicy.covers s.phonemePolicy
    exact .of_reads rfl rfl (Choice.reads _).optional policy fun _ => rfl
  · have quoting := means_optional RuleQuoting.covers s.ruleQuoting
    exact .of_reads rfl rfl (Choice.reads _).optional quoting fun _ => rfl
  · have format := means_optional ModelFormat.covers s.modelFormat
    exact .of_reads rfl rfl (Choice.reads _).optional format fun _ => rfl
  · have policy := means_optional GrammarDisabledPolicy.covers s.grammarDisabledPolicy
    exact .of_reads rfl rfl (Choice.reads _).optional policy fun _ => rfl
  · have timing := ValidationTiming.covers s.validationTiming
    exact .of_reads rfl rfl (Choice.reads _) timing fun _ => rfl
  · exact .of_reads rfl rfl (Choice.reads _) (CompileMode.covers s.compileMode) fun _ => rfl
  · exact .of_reads rfl rfl Json.reads_bool rfl fun _ => rfl

theorem eq_of_members {s t : Settings} (h : s.toJson.members = t.toJson.members) : s = t := by
  obtain ⟨layout, dir, name, variant, phonemes, quoting, format, disabled, timing, mode,
    output⟩ := s
  obtain ⟨layout', dir', name', variant', phonemes', quoting', format', disabled', timing', mode',
    output'⟩ := t
  simp only [toJson, Json.members, List.cons.injEq, Prod.mk.injEq, true_and, and_true,
    Json.string.injEq, Json.bool.injEq] at h
  obtain ⟨h₁, h₂, rfl, h₄, h₅, h₆, h₇, h₈, h₉, h₁₀, rfl⟩ := h
  obtain rfl := Layout.writes.faithful (congrArg Json.members h₁)
  obtain rfl := Json.eq_of_means means_workDir h₂
  obtain rfl := Json.eq_of_means Variant.covers h₄
  obtain rfl := Json.eq_of_means (means_optional PhonemePolicy.covers) h₅
  obtain rfl := Json.eq_of_means (means_optional RuleQuoting.covers) h₆
  obtain rfl := Json.eq_of_means (means_optional ModelFormat.covers) h₇
  obtain rfl := Json.eq_of_means (means_optional GrammarDisabledPolicy.covers) h₈
  obtain rfl := Json.eq_of_means ValidationTiming.covers h₉
  obtain rfl := Json.eq_of_means CompileMode.covers h₁₀
  rfl

theorem writes : shape.Writes fun s => s.toJson.members where
  optional := by simp [shape]
  keys := fun _ => rfl
  distinct := by decide
  faithful := eq_of_members

theorem thins_self (s : Settings) : s.Thins s.toJson.members :=
  ⟨s.toJson.members, s.layout.toJson.members, .refl, s.layout.thins_self, .of_keys rfl⟩

theorem ofText_of_thins (h : s.Thins doc) {text : String}
    (document : (Json.object doc).IsDocument text) : ofText text = .ok s := by
  obtain ⟨kept, inner, sel, layout, holds⟩ := h
  rw [ofText, (Json.Shape.reads readable).readDocument document]
  exact writes.ofJson_eq_ok (stores layout) sel holds

theorem ofText_toJson (s : Settings) {text : String} (document : s.toJson.IsDocument text) :
    ofText text = .ok s :=
  ofText_of_thins s.thins_self document

/-- The main result: settings are read from every thinned form of what they are written as. -/
theorem ofText_thinned (s : Settings) :
    (∀ doc, s.Thins doc → ∀ text, (Json.object doc).IsDocument text → ofText text = .ok s) ∧
    ofText s.toJson.compact = .ok s ∧ ofText s.toJson.pretty = .ok s :=
  ⟨fun _ thins _ document => ofText_of_thins thins document,
    ofText_toJson s (Json.isDocument_compact _), ofText_toJson s (Json.isDocument_pretty _)⟩

/-- A name and an empty layout in another order, with a remark in each object, and nothing else. -/
theorem ofText_thinned_named :
    ofText (Json.object [("grammarName", .string "kitchen"), ("remark", .list [.null]),
      ("layout", .object [("remark", .bool true)])]).compact =
    .ok { default with grammarName := "kitchen" } := by
  refine (ofText_thinned _).1 _ ?_ _ (Json.isDocument_compact _)
  refine ⟨[("layout", Layout.default.toJson), ("grammarName", .string "kitchen")],
    [("remark", .bool true)], ⟨?_, ?_⟩, ⟨[], ⟨List.nil_sublist _, ?_⟩, ?_⟩, ?_⟩
  · exact .cons_cons _ (.cons _ (.cons_cons _ (List.nil_sublist _)))
  · simp [default, toJson, Json.members]
  · intro member mem other
    exact absurd mem other
  · simp [Json.Holds, Layout.toJson, Json.members]
  · simpa [Json.Holds, toJson, Json.members, withLayout] using List.Perm.swap _ _ []

end Settings
end SpeechConfig
