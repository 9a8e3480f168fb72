/-
# Settings files

Settings are kept in a file as a settings document.  A file that is missing means
the defaults; what is loaded is always normal.
-/
import SpeechConfig.Document.Settings
import SpeechConfig.Failure
import SpeechConfig.FileSystem.Operations
import SpeechConfig.Log

namespace SpeechConfig.Settings

/-- The settings in a file, or the defaults with a warning if there is none. -/
def load (fs : FileSystem) (path : Path) : Except Failure (Settings × List LogLine) :=
  match fs.readText path with
  | .error .notFound =>
    .ok (.default, [.warn ("settings file " ++ path.text ++ " not found, using defaults")])
  | .error fault => .error (.io fault)
  | .ok text =>
    match ofText text with
    | .error fault => .error (.settings (.document path fault))
    | .ok s => .ok (s.normalize, [])

/-- Writes settings to a file, making the directories on the way to it. -/
def save (fs : FileSystem) (path : Path) (s : Settings) : Except Failure Unit × FileSystem :=
  match FileSystem.makeRoomFor fs path with
  | (.error fault, fs) => (.error (.io fault), fs)
  | (.ok (), fs) =>
    match fs.write path s.toJson.pretty.toUTF8 with
    | .error fault => (.error (.io fault), fs)
    | .ok fs => (.ok (), fs)

end SpeechConfig.Settings
