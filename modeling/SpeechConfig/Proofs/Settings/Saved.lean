/-
# `SpeechConfig.Proofs.Settings.Saved` — saved and loaded settings

## What is proved, with every binder written out

For all settings `s`, every path and every file system:

    save fs path s = (.ok (), fs') → load fs' path = .ok (s.normalize, [])
    load fs path = .ok (s, log) → s.normalize = s

so what was saved comes back exactly if it was normal.  Three facts meet here: the file is found
again where it was written, its text means the settings it was written from, and to normalise
twice is to normalise once.
-/
import Mathlib.Data.List.DropRight
import SpeechConfig.Proofs.Artifact.Name
import SpeechConfig.Proofs.Document.Settings
import SpeechConfig.Proofs.FileSystem.Written
import SpeechConfig.Settings.Store

namespace SpeechConfig

/-! ## Normal settings -/

theorem Text.trim_trim (s : String) : trim (trim s) = trim s := by
  let cs := s.toList.dropWhile isSpace
  have spelt : (trim s).toList = cs.rdropWhile isSpace := by
    rw [trim, String.toList_ofList, List.rdropWhile]
  have starts : (cs.rdropWhile isSpace).dropWhile isSpace = cs.rdropWhile isSpace := by
    cases left : cs.rdropWhile isSpace with
    | nil => rfl
    | cons c rest =>
        -- what is left in front is what the first trimming stopped at
        obtain ⟨more, whole⟩ := List.rdropWhile_prefix isSpace (l := cs)
        rw [left, List.cons_append] at whole
        have stopped := List.head?_dropWhile_not isSpace s.toList
        rw [show s.toList.dropWhile isSpace = c :: (rest ++ more) from whole.symm] at stopped
        exact List.dropWhile_cons_of_neg (by simpa using stopped)
  rw [trim, spelt, starts, ← List.rdropWhile, List.rdropWhile_idempotent, ← spelt,
    String.ofList_toList]

namespace Layout

theorem orIfBlank_orIfBlank {fallback : String} (h : orIfBlank fallback fallback = fallback)
    (raw : String) : orIfBlank (orIfBlank raw fallback) fallback = orIfBlank raw fallback := by
  by_cases blank : (Text.trim raw).isEmpty = true
  · have unnamed : orIfBlank raw fallback = fallback := if_pos blank
    rw [unnamed, h]
  · have named : orIfBlank raw fallback = Text.trim raw := if_neg blank
    rw [named, orIfBlank, Text.trim_trim, if_neg blank]

theorem normalize_normalize (l : Layout) : l.normalize.normalize = l.normalize := by
  simp only [normalize, orIfBlank_orIfBlank (show orIfBlank defaultJarFile _ = _ by decide),
    orIfBlank_orIfBlank (show orIfBlank defaultLanguagePack _ = _ by decide)]

end Layout

namespace Settings

variable {fs fs' : FileSystem} {path : Path} {s : Settings} {log : List LogLine}

theorem normalize_normalize (s : Settings) : s.normalize.normalize = s.normalize := by
  have name := Grammar.plainName_eq_self_iff.mpr (Grammar.isPlain_plainName s.grammarName)
  simp only [normalize, Layout.normalize_normalize, name, Option.filter_filter, Bool.and_self]

theorem normalize_default : default.normalize = default := by
  decide

theorem normal_of_load (h : load fs path = .ok (s, log)) : s.normalize = s := by
  unfold load at h
  split at h
  · cases h
    exact normalize_default
  · cases h
  · split at h
    · cases h
    · cases h
      exact normalize_normalize _

theorem load_of_text (h : fs.readText path = .ok s.toJson.pretty) :
    load fs path = .ok (s.normalize, []) := by
  have means := ofText_toJson s (Json.isDocument_pretty s.toJson)
  simp only [load, h, means]

theorem write_of_save (h : save fs path s = (.ok (), fs')) :
    ∃ made : FileSystem, made.write path s.toJson.pretty.toUTF8 = .ok fs' := by
  unfold save at h
  split at h
  · cases h
  · next made _ =>
      split at h
      · cases h
      · next written =>
          cases h
          exact ⟨made, written⟩

/-- The main result: to save and load is to normalise, and what is loaded is normal. -/
theorem load_save (s : Settings) (fs : FileSystem) (path : Path) :
    (∀ fs', save fs path s = (.ok (), fs') →
      load fs' path = .ok (s.normalize, []) ∧
      ((∃ log, load fs' path = .ok (s, log)) ↔ s.normalize = s)) ∧
    (∀ loaded log, load fs path = .ok (loaded, log) → loaded.normalize = loaded) := by
  refine ⟨fun fs' saved => ?_, fun _ _ => normal_of_load⟩
  obtain ⟨made, written⟩ := write_of_save saved
  have back := load_of_text (FileSystem.readText_of_write written)
  refine ⟨back, fun ⟨_, same⟩ => normal_of_load same, fun normal => ⟨[], ?_⟩⟩
  rw [back, normal]

/-- The defaults, saved where nothing stands, are loaded again. -/
theorem load_save_default : ∃ fs', save (.bare []) ⟨"settings.json"⟩ default = (.ok (), fs') ∧
    load fs' ⟨"settings.json"⟩ = .ok (default, []) := by
  have room : FileSystem.makeRoomFor (.bare []) ⟨"settings.json"⟩ = (.ok (), .bare []) := by rfl
  have walked : (FileSystem.bare []).walk .write ⟨"settings.json"⟩ =
      .ok (.absent [] "settings.json") := by rfl
  have saved : ∃ fs', save (.bare []) ⟨"settings.json"⟩ default = (.ok (), fs') := by
    rw [save, room]
    simp only [FileSystem.write, walked]
    exact ⟨_, rfl⟩
  obtain ⟨fs', saved⟩ := saved
  refine ⟨fs', saved, ?_⟩
  have back := ((load_save default (.bare []) ⟨"settings.json"⟩).1 fs' saved).1
  rwa [normalize_default] at back

end Settings
end SpeechConfig
