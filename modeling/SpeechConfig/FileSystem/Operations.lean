/-
# Operations on files

Reading, writing and making directories by path.  An operation on a single place
either happens or leaves the file system as it was.
-/
import SpeechConfig.FileSystem.Walk

namespace SpeechConfig.FileSystem

def isDirectory (fs : FileSystem) (p : Path) : Bool :=
  match fs.walk .follow p with
  | .ok (.present _ .directory) => true
  | _ => false

/-- The place that a path leads to, without any link on the way. -/
def locate (fs : FileSystem) (p : Path) : Except Fault Location := do
  match ← fs.walk .follow p with
  | .present l _ => .ok l
  | .absent _ _ => .error .notFound

/-- The content of the file that a path leads to. -/
def read (fs : FileSystem) (p : Path) : Except Fault ByteArray := do
  match ← fs.walk .follow p with
  | .present _ (.file content) => .ok content
  | .present _ .directory => .error .isDirectory
  | .present _ (.link _) | .absent _ _ => .error .notFound

def readText (fs : FileSystem) (p : Path) : Except Fault String := do
  match String.fromUTF8? (← fs.read p) with
  | some text => .ok text
  | none => .error .notUtf8

/-- Writes a file in place: the one that the path leads to, or a new one. -/
def write (fs : FileSystem) (p : Path) (content : ByteArray) : Except Fault FileSystem := do
  match ← fs.walk .write p with
  | .present _ .directory => .error .isDirectory
  | .present l _ => .ok (fs.put l (.file content))
  | .absent dir name => .ok (fs.put (name :: dir) (.file content))

/-- Puts a complete file at a path in one step.  What was there is replaced, a
link by the file itself; a directory stays. -/
def replace (fs : FileSystem) (p : Path) (content : ByteArray) : Except Fault FileSystem := do
  match ← fs.walk .keep p with
  | .present _ .directory => .error .isDirectory
  | .present l _ => .ok (fs.put l (.file content))
  | .absent dir name => .ok (fs.put (name :: dir) (.file content))

def mkdir (fs : FileSystem) (p : Path) : Except Fault FileSystem := do
  match ← fs.walk .keep (dropSlashes p) with
  | .present _ _ => .error .exists
  | .absent dir name => .ok (fs.put (name :: dir) .directory)

def symlink (fs : FileSystem) (p target : Path) : Except Fault FileSystem := do
  match ← fs.walk .keep p with
  | .present _ _ => .error .exists
  | .absent dir name => .ok (fs.put (name :: dir) (.link target))

/-- Removes what a path names, a directory with all it holds. -/
def remove (fs : FileSystem) (p : Path) : Except Fault FileSystem := do
  match ← fs.walk .keep p with
  | .present l _ => .ok (fs.eraseTree l)
  | .absent _ _ => .error .notFound

/-- The directories on the way to a path that are still to be made, outermost
first, ending with `made`.  The first that exists or can be made ends the search;
`n` bounds how many are tried. -/
def mkdirUpwards (fs : FileSystem) : Nat → Path → List Path → Except Fault (FileSystem × List Path)
  | 0, _, made => .ok (fs, made)
  | n + 1, p, made =>
    if p.text.isEmpty then .ok (fs, made)
    else match p.parent? with
      | none => .ok (fs, made)
      | some up =>
        match fs.mkdir p with
        | .ok fs => .ok (fs, made)
        | .error .notFound => fs.mkdirUpwards n up (p :: made)
        | .error .exists =>
          if fs.isDirectory p then .ok (fs, made) else .error .exists
        | .error e => .error e

/-- Makes directories one after another; those that exist are passed over. -/
def mkdirDownwards (fs : FileSystem) : List Path → Except Fault Unit × FileSystem
  | [] => (.ok (), fs)
  | p :: rest =>
    match fs.mkdir p with
    | .ok fs => fs.mkdirDownwards rest
    | .error e =>
      if e = .exists ∧ fs.isDirectory p then fs.mkdirDownwards rest else (.error e, fs)

/-- Makes a directory and those on the way to it.  On failure the ones made so far
stay. -/
def mkdirAll (fs : FileSystem) (p : Path) : Except Fault Unit × FileSystem :=
  match fs.mkdirUpwards (p.text.length + 1) p [] with
  | .error e => (.error e, fs)
  | .ok (fs, rest) => fs.mkdirDownwards rest

/-- Makes the directories on the way to a path, but not the path itself. -/
def makeRoomFor (fs : FileSystem) (p : Path) : Except Fault Unit × FileSystem :=
  match p.parent? with
  | none => (.ok (), fs)
  | some dir => fs.mkdirAll dir

/-- The place of the file that a path leads to for writing: one that is there, or a new one. -/
def opened (fs : FileSystem) (p : Path) : Except Fault Location := do
  match ← fs.walk .write p with
  | .present _ .directory => .error .isDirectory
  | .present l _ => .ok l
  | .absent dir name => .ok (name :: dir)

/-- Copies the content of a regular file.  The target is emptied when it is opened, before
anything is read: nothing is left of a file that is copied onto itself. -/
def copy (fs : FileSystem) (source target : Path) : Except Fault FileSystem := do
  match ← fs.walk .follow source with
  | .present l (.file content) =>
    let m ← fs.opened target
    .ok (fs.put m (.file (if l = m then .empty else content)))
  | .present _ _ => .error .notRegular
  | .absent _ _ => .error .notFound

/-- The file system seen from the directory that a path leads to. -/
def enter (fs : FileSystem) (p : Path) : Except Fault FileSystem := do
  match ← fs.walk .follow p with
  | .present l .directory => .ok { fs with workDir := l }
  | .present _ _ => .error .notDirectory
  | .absent _ _ => .error .notFound

end SpeechConfig.FileSystem
