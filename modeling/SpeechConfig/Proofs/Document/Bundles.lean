/-
# `SpeechConfig.Proofs.Document.Bundles` — bundles and requests survive their documents

## What is proved, with every binder written out

For every bundle `b` and every request `r`, whatever characters their strings have, and for every
text of what they are written as, compact and pretty among them:

    b.toJson.IsDocument text → Bundle.ofText text = .ok b
    r.toJson.IsDocument text → Request.ofText text = .ok r

and for all arguments that ask for a request to be configured, all programs, variables and files,
if the run exits with 0, what it has printed is read as the bundle that it was answered with.

## What is printed

The command prints the pretty text and a line feed behind it.  That is one more text of the same
value, since blanks may stand at the end of a document (`IsDocument.append_blank`).
-/
import SpeechConfig.Proofs.CommandLine.DryRun
import SpeechConfig.Proofs.Document.Requests
import SpeechConfig.Proofs.Document.Settings

namespace SpeechConfig

theorem Json.IsDocument.append_blank {v : Json} {text gap : String} (document : v.IsDocument text)
    (blank : Json.Blank gap.toList) : v.IsDocument (text ++ gap) := by
  obtain ⟨before, cs, behind, hbefore, spelt, hbehind, whole⟩ := document
  refine ⟨before, cs, behind ++ gap.toList, hbefore, spelt, ?_, ?_⟩
  · intro c h
    rcases List.mem_append.mp h with h | h
    · exact hbehind c h
    · exact blank c h
  · rw [String.toList_append, whole]
    simp only [List.append_assoc]

/-! ## Bundles -/

namespace Bundle

theorem readable : Json.Shape.Readable shape.fields := by
  intro f hf
  simp only [shape, List.mem_cons, List.not_mem_nil, or_false] at hf
  rcases hf with rfl | rfl | rfl | rfl | rfl | rfl | rfl | rfl
  · exact ((Json.reads_string "a string").map _).on
  · exact (Path.reads.map _).on
  · exact (Path.reads.map _).on
  · exact ((Json.reads_string "a string").map _).on
  · exact (Path.reads.map _).on
  · exact (Path.reads.map _).on
  · exact (Path.reads.map _).on
  · exact (Json.reads_bool.map _).on

/-- The changes that make any bundle into `b`, one for each member. -/
def changes (b : Bundle) : List (Bundle → Bundle) :=
  [fun x => { x with jarPath := b.jarPath },
    fun x => { x with configurationPath := b.configurationPath },
    fun x => { x with acousticModel := b.acousticModel },
    fun x => { x with grammarName := b.grammarName },
    fun x => { x with grammarFolder := b.grammarFolder },
    fun x => { x with dictionary := b.dictionary },
    fun x => { x with languageModel := b.languageModel },
    fun x => { x with grammarDisabled := b.grammarDisabled }]

theorem means (b : Bundle) : List.Forall₂ shape.Means b.toJson.members b.changes := by
  refine .cons ⟨_, rfl, (Json.reads_string "a string").on_map _ _⟩ ?_
  refine .cons ⟨_, rfl, Path.reads.on_map _ _⟩ ?_
  refine .cons ⟨_, rfl, Path.reads.on_map _ _⟩ ?_
  refine .cons ⟨_, rfl, (Json.reads_string "a string").on_map _ _⟩ ?_
  refine .cons ⟨_, rfl, Path.reads.on_map _ _⟩ ?_
  refine .cons ⟨_, rfl, Path.reads.on_map _ _⟩ ?_
  refine .cons ⟨_, rfl, Path.reads.on_map _ _⟩ ?_
  exact .cons ⟨_, rfl, Json.reads_bool.on_map _ _⟩ .nil

theorem ofJson_toJson (b : Bundle) : shape.ofJson b.toJson = .ok b := by
  have distinct : (b.toJson.members.map Prod.fst).Nodup := by
    simp [toJson, Json.members]
  exact Json.Shape.ofMembers_of_means b.means distinct (fun _ _ => List.not_mem_nil) rfl

theorem ofText_toJson (b : Bundle) {text : String} (document : b.toJson.IsDocument text) :
    ofText text = .ok b := by
  rw [ofText, (Json.Shape.reads readable).readDocument document]
  exact b.ofJson_toJson

end Bundle

/-! ## Requests -/

namespace Request

theorem describes_toJson (r : Request) : Describes r.toJson r := by
  refine .object ?_ (Or.inr ?_) (Or.inr ?_)
  · simp [Json.valuesOf]
  · simp [Json.valuesOf]
  · simp [Json.valuesOf]

theorem ofText_toJson (r : Request) {text : String} (document : r.toJson.IsDocument text) :
    ofText text = .ok r := by
  rw [ofText_eq document]
  exact ofJson_eq_ok_iff.mpr r.describes_toJson

end Request

/-! ## What the command prints -/

namespace CommandLine

variable {a : Arguments} {request : Path} {programs : Programs} {env : Environment}
  {fs : FileSystem}

/-- A run that exits with 0 has its settings and its request, and was answered with a bundle, which
it has printed. -/
theorem bundle_of_run (generates : a.command = .generate request)
    (succeeded : (a.run programs env fs).status = 0) :
    ∃ s r b, a.resolve env fs = .ok s ∧ loadRequest fs request = .ok r ∧
      ((a.generator programs s).configureDefault r fs).result = .ok b ∧
      (a.run programs env fs).stdout = b.toJson.pretty ++ "\n" := by
  rw [run_eq_exitOf generates] at succeeded ⊢
  cases resolved : a.resolve env fs with
  | error e =>
      rw [outcome_of_unresolved request programs resolved] at succeeded
      cases succeeded
  | ok s =>
      cases read : loadRequest fs request with
      | error e =>
          rw [outcome_of_unread programs resolved read] at succeeded
          cases succeeded
      | ok r =>
          rw [outcome_of_read programs resolved read, exitOf] at succeeded ⊢
          cases answered : ((a.generator programs s).configureDefault r fs).result with
          | error e =>
              rw [answered] at succeeded
              cases succeeded
          | ok b => exact ⟨s, r, b, rfl, rfl, answered, rfl⟩

/-- Bundles and requests are read as what was written, in both layouts; and what a successful run
prints is read as the bundle that it was answered with. -/
theorem documents_read_back (b : Bundle) (r : Request) (arguments : List String)
    (programs : Programs) (env : Environment) (fs : FileSystem) :
    (Bundle.ofText b.toJson.compact = .ok b ∧ Bundle.ofText b.toJson.pretty = .ok b) ∧
    (Request.ofText r.toJson.compact = .ok r ∧ Request.ofText r.toJson.pretty = .ok r) ∧
    ∀ a request, read arguments = .done a → a.command = .generate request →
      (run arguments programs env fs).status = 0 →
        ∃ s r b, a.resolve env fs = .ok s ∧ loadRequest fs request = .ok r ∧
          ((a.generator programs s).configureDefault r fs).result = .ok b ∧
          Bundle.ofText (run arguments programs env fs).stdout = .ok b := by
  refine ⟨⟨b.ofText_toJson (Json.isDocument_compact _), b.ofText_toJson (Json.isDocument_pretty _)⟩,
    ⟨r.ofText_toJson (Json.isDocument_compact _), r.ofText_toJson (Json.isDocument_pretty _)⟩, ?_⟩
  intro a request understood generates succeeded
  have ran : run arguments programs env fs = a.run programs env fs := by rw [run, understood]
  rw [ran] at succeeded ⊢
  obtain ⟨s, r, b, resolved, read, answered, printed⟩ := bundle_of_run generates succeeded
  have document : b.toJson.IsDocument (b.toJson.pretty ++ "\n") :=
    (Json.isDocument_pretty b.toJson).append_blank (by simp [Json.Blank, Json.isBlank])
  exact ⟨s, r, b, resolved, read, answered, printed ▸ b.ofText_toJson document⟩

def posted : FileSystem :=
  (FileSystem.bare []).put ["r"]
    (.file (Request.mk Generator.assent [] ["yes"]).toJson.compact.toUTF8)

/-- A dry run into a directory whose name has to be escaped. -/
theorem documents_read_back_dry_run :
    let programs : Programs := fun _ _ _ => .error .notFound
    let exit := run ["-r", "r", "--work-dir", "\t\"\\", "--dry-run"] programs (fun _ => none) posted
    exit.status = 0 ∧ ∃ b, Bundle.ofText exit.stdout = .ok b := by
  intro programs exit
  have succeeded : exit.status = 0 := by
    show (run ["-r", "r", "--work-dir", "\t\"\\", "--dry-run"] (fun _ _ _ => .error .notFound)
      (fun _ => none) posted).status = 0
    decide +kernel
  obtain ⟨-, -, printed⟩ := documents_read_back default ⟨Generator.assent, [], ["yes"]⟩
    ["-r", "r", "--work-dir", "\t\"\\", "--dry-run"] programs (fun _ => none) posted
  obtain ⟨-, -, b, -, -, -, back⟩ := printed
    ⟨.generate ⟨"r"⟩, none, some ⟨"\t\"\\"⟩, true, false, false, false⟩ ⟨"r"⟩ rfl rfl succeeded
  exact ⟨succeeded, b, back⟩

end CommandLine
end SpeechConfig
