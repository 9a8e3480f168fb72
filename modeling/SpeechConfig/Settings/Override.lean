/-
# Overrides

Variables that change single settings for one run.  A value that is not
understood changes nothing and leaves a warning; a blank working directory is no
value at all.
-/
import SpeechConfig.Settings.Basic
import SpeechConfig.Text.Quoted
import SpeechConfig.Log

namespace SpeechConfig

abbrev Environment := String → Option String

namespace Settings

/-- Applies one variable: `set` puts an understood value into the settings. -/
def override {α : Type} (s : Settings) (key : String) (read : String → Option α)
    (set : α → Settings → Settings) (env : Environment) : Settings × List LogLine :=
  match env key with
  | none => (s, [])
  | some raw =>
    match read raw with
    | some x => (set x s, [])
    | none => (s, [.warn ("ignoring " ++ key ++ "=" ++ Text.quoted raw)])

def overrideWorkDir (s : Settings) (env : Environment) : Settings :=
  match env "LEXIS_WORK_DIR" with
  | none => s
  | some raw =>
    let dir := Text.trim raw
    if dir.isEmpty then s else { s with workDir := some ⟨dir⟩ }

/-- Applies all variables, one after another, and collects the warnings. -/
def overrides (s : Settings) (env : Environment) : Settings × List LogLine :=
  let (s, log₁) := s.override "LEXIS_VARIANT" Variant.ofText?
    (fun v s => { s with variant := v }) env
  let (s, log₂) := s.override "LEXIS_COMPILE_MODE" CompileMode.ofText?
    (fun m s => { s with compileMode := m }) env
  let (s, log₃) := s.override "LEXIS_COMPILER_OUTPUT" flagOfText?
    (fun f s => { s with allowCompilerOutput := f }) env
  (s.overrideWorkDir env, log₁ ++ log₂ ++ log₃)

/-- Where settings are kept: under the configuration directory of the user. -/
def defaultPath (env : Environment) : Path :=
  let base : Path := match env "XDG_CONFIG_HOME" with
    | some dir => ⟨dir⟩
    | none => (Path.mk ((env "HOME").getD "/tmp")).join ".config"
  (base.join "lexis").join "settings.json"

end Settings
end SpeechConfig
