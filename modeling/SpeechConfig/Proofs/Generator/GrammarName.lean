/-
# `SpeechConfig.Proofs.Generator.GrammarName` — where the name of a grammar can lead

## What is proved, with every binder written out

For every text `raw`, whatever it holds, let `Plain` mean: not empty, of ASCII letters, digits,
`_`, `.` and `-` alone, and not starting with a dot.  Then

* `plainName raw` is plain, and it is `raw` exactly if `raw` is plain;
* emission under a name that is not plain is refused, and changes nothing;
* if `raw` is plain, then in every directory the grammar's file is an entry of that directory, by
  the name with its extension, and no other file of a configuration; if it can be put there, it is
  put where the directory's path leads, and nowhere else;
* a run under settings with the name `raw`, in any directory and any file system and with any
  compiler, fails over settings, over a duplicate word or over compilation only if its compiler
  was called and answered so; and the compilers that are provided never answer with the former two.

## Two tests that agree

The settings make the name plain when they are made normal, and emission tests once more whether
that would change it.  The names that are left alone are the names that come out
(`plainName_eq_self_iff`), so the second test refuses nothing that passed the first.
-/
import SpeechConfig.Proofs.Generator.Faults
import SpeechConfig.Proofs.Path.Components

namespace SpeechConfig

/-! ## Plain names -/

namespace Grammar

def alphabet : List Char :=
  "ABCDEFGHIJKLMNOPQRSTUVWXYZabcdefghijklmnopqrstuvwxyz0123456789_.-".toList

/-- A name that can be the stem of a file in sight. -/
structure Plain (name : String) : Prop where
  not_empty : name ≠ ""
  not_hidden : name.toList.head? ≠ some '.'
  characters : ∀ c ∈ name.toList, c ∈ alphabet

theorem mem_alphabet_iff {c : Char} : c ∈ alphabet ↔ isNameChar c = true := by
  constructor
  · have all : alphabet.all isNameChar = true := by decide +kernel
    exact List.all_eq_true.mp all c
  · intro h
    have all : ∀ n < 0x7B, isNameChar (Char.ofNat n) = true → Char.ofNat n ∈ alphabet := by
      decide +kernel
    have low : c.toNat < 0x7B := Nat.lt_succ_of_le (toNat_of_isNameChar h).2
    have found := all c.toNat low
    rw [Char.ofNat_toNat] at found
    exact found h

theorem isPlain_iff {name : String} : isPlain name = true ↔ Plain name := by
  have characters : name.toList.all isNameChar = true ↔ ∀ c ∈ name.toList, c ∈ alphabet := by
    simp only [List.all_eq_true, mem_alphabet_iff]
  rw [isPlain, Bool.and_eq_true, Bool.and_eq_true, characters]
  constructor
  · rintro ⟨⟨not_empty, not_hidden⟩, characters⟩
    exact ⟨by simpa using not_empty, by simpa using not_hidden, characters⟩
  · rintro ⟨not_empty, not_hidden, characters⟩
    exact ⟨⟨by simpa using not_empty, by simpa using not_hidden⟩, characters⟩

end Grammar

/-! ## The file of a grammar -/

/-- The path is that of a direct child of the directory. -/
structure Path.IsEntry (p dir : Path) (name : String) : Prop where
  components : p.components = dir.components ++ [.name name]
  parent : ∃ up, p.parent? = some up ∧ up.components = dir.components
  fileName : p.fileName? = some name

theorem Path.isEntry_join (dir : Path) {name : String} (h : FileSystem.IsEntryName name) :
    (dir.join name).IsEntry dir name :=
  ⟨components_join dir h, exists_parent?_join dir h, fileName?_join dir h⟩

namespace Grammar

variable {dir : Path} {name : String} {fs fs' : FileSystem} {content : ByteArray}

/-- The other files there can be in the directory of a configuration: dictionary, corpus,
language models and compiler scripts. -/
def otherFiles : List String :=
  ["custom.dict", "sentences.txt", ModelFormat.bin.fileName, ModelFormat.dmp.fileName, "run.sh",
    "run_silent.sh"]

theorem isEntryName_otherFiles : ∀ other ∈ otherFiles, FileSystem.IsEntryName other := by
  have all : ∀ other ∈ otherFiles, other ≠ "" ∧ other ≠ "." ∧ other ≠ ".." ∧
      '/' ∉ other.toList := by
    decide
  intro other h
  obtain ⟨not_empty, not_here, not_up, no_slash⟩ := all other h
  exact ⟨not_empty, not_here, not_up, no_slash⟩

theorem file_not_other (name : String) {other : String} (h : other ∈ otherFiles) :
    name ++ ".gram" ≠ other := by
  have all : ∀ other ∈ otherFiles, other.toList.getLast? ≠ some 'm' := by decide
  exact file_ne name (all other h)

theorem components_fileIn_ne (plain : isPlain name = true) {other : String}
    (h : other ∈ otherFiles) : (fileIn dir name).components ≠ (dir.join other).components := by
  rw [fileIn, Path.components_join dir (isEntryName_file plain),
    Path.components_join dir (isEntryName_otherFiles other h)]
  intro same
  obtain ⟨last, -⟩ := List.cons.inj (List.append_cancel_left same)
  exact file_not_other name h (Path.Component.name.inj last)

theorem put_of_replace (plain : isPlain name = true)
    (replaced : fs.replace (fileIn dir name) content = .ok fs') :
    ∃ passed there, fs.Leads dir passed there ∧
      fs' = fs.put ((name ++ ".gram") :: there) (.file content) := by
  obtain ⟨-, -, passed, there, leads, -, placed⟩ :=
    (FileSystem.replace_join_eq_ok_iff (isEntryName_file plain)).mp replaced
  exact ⟨passed, there, leads, placed⟩

end Grammar

/-! ## Failures that a run has from its compiler -/

/-- A failure over settings, over a duplicate word or over compilation. -/
def Failure.isForeign : Failure → Bool
  | .settings _ | .duplicateWord _ | .compile _ _ => true
  | .missingWord _ _ | .blankEntry _ | .emptyVocabulary | .io _ => false

theorem EmitPlan.emit_not_plain {plan : EmitPlan} (r : Request) (fs : FileSystem)
    (h : Grammar.isPlain plan.grammarName = false) :
    plan.emit r fs = (.error (.settings (.grammarName plan.grammarName)), fs) := by
  have other : Grammar.plainName plan.grammarName ≠ plan.grammarName := by
    rw [Ne, Grammar.plainName_eq_self_iff, h]
    exact Bool.false_ne_true
  rw [emit_eq, if_pos other]

namespace Generator

variable {c : Compiler} {s : Settings} {r : Request} {dir : Path} {fs : FileSystem} {e : Failure}

/-- Whatever the settings, such a failure is the answer of the compiler. -/
theorem compiler_of_isForeign (h : ((new s c).generate r dir fs).result = .error e)
    (foreign : e.isForeign = true) :
    ∃ call, ((new s c).generate r dir fs).calls = [call] ∧
      (c.compile call.corpus call.files).result = .error e := by
  cases refuses_of_generate h with
  | invalid invalid =>
      rcases Request.failure_of_validate invalid with ⟨_, _, rfl⟩ | ⟨_, rfl⟩ | rfl
      · cases foreign
      · cases foreign
      · cases foreign
  | name not_plain => cases not_plain.symm.trans (isPlain_new s c)
  | files fault => cases foreign
  | compiler called answer => exact ⟨_, called, answer⟩

theorem compilation_of_isForeign (provided : c.Provided)
    (h : ((new s c).generate r dir fs).result = .error e) (foreign : e.isForeign = true) :
    ∃ script detail, e = .compile script detail := by
  obtain ⟨_, -, answer⟩ := compiler_of_isForeign h foreign
  exact provided.failure answer

/-- The name of a grammar leads nowhere but to a file of its directory, and breaks no run. -/
theorem grammar_name_contained (raw : String) :
    Grammar.Plain (Grammar.plainName raw) ∧ (Grammar.plainName raw = raw ↔ Grammar.Plain raw) ∧
      (¬ Grammar.Plain raw → ∀ (plan : EmitPlan) (r : Request) (fs : FileSystem),
        plan.grammarName = raw →
          plan.emit r fs = (.error (.settings (.grammarName raw)), fs)) ∧
      (Grammar.Plain raw → ∀ dir : Path,
        (Grammar.fileIn dir raw).IsEntry dir (raw ++ ".gram") ∧
          (∀ other ∈ Grammar.otherFiles, raw ++ ".gram" ≠ other ∧
            (Grammar.fileIn dir raw).components ≠ (dir.join other).components) ∧
          ∀ (fs fs' : FileSystem) (content : ByteArray),
            fs.replace (Grammar.fileIn dir raw) content = .ok fs' →
              ∃ passed there, fs.Leads dir passed there ∧
                fs' = fs.put ((raw ++ ".gram") :: there) (.file content)) ∧
      ∀ s : Settings, s.grammarName = raw →
        ∀ (c : Compiler) (r : Request) (dir : Path) (fs : FileSystem) (e : Failure),
          ((new s c).generate r dir fs).result = .error e →
            (e.isForeign = true → ∃ call, ((new s c).generate r dir fs).calls = [call] ∧
              (c.compile call.corpus call.files).result = .error e) ∧
            (c.Provided → (∀ fault, e ≠ .settings fault) ∧ ∀ token, e ≠ .duplicateWord token) := by
  refine ⟨Grammar.isPlain_iff.mp (Grammar.isPlain_plainName raw),
    Grammar.plainName_eq_self_iff.trans Grammar.isPlain_iff, ?_, ?_, ?_⟩
  · rintro not_plain plan r fs rfl
    refine EmitPlan.emit_not_plain r fs ?_
    simpa using mt Grammar.isPlain_iff.mp not_plain
  · intro plain dir
    have plain := Grammar.isPlain_iff.mpr plain
    exact ⟨dir.isEntry_join (Grammar.isEntryName_file plain),
      fun other h => ⟨Grammar.file_not_other raw h, Grammar.components_fileIn_ne plain h⟩,
      fun _ _ _ replaced => Grammar.put_of_replace plain replaced⟩
  · rintro s rfl c r dir fs e failed
    refine ⟨compiler_of_isForeign failed, fun provided => ⟨?_, ?_⟩⟩
    · rintro fault rfl
      obtain ⟨_, _, other⟩ := compilation_of_isForeign provided failed rfl
      cases other
    · rintro token rfl
      obtain ⟨_, _, other⟩ := compilation_of_isForeign provided failed rfl
      cases other

/-- White space at the ends is forgiven, and a way out of the directory is not taken. -/
example : Grammar.plainName " greek-1.2\u00a0" = "greek-1.2" ∧
    Grammar.plainName "../../greek" = "custom" ∧ Grammar.plainName "/etc/passwd" = "custom" ∧
    Grammar.plainName ".greek" = "custom" ∧ Grammar.plainName "gree\x00k" = "custom" := by
  decide

end Generator
end SpeechConfig
