/-
# Fields

Expansion turns a word into shards: text with its quoting, and the gaps between words.
From shards come the fields that a command is given: texts from expansions fall apart at
separators, and fields that are patterns stand for the file names they match.
-/
import SpeechConfig.FileSystem.Walk
import SpeechConfig.Shell.Glob
import SpeechConfig.Shell.State

namespace SpeechConfig.Shell

/-- How a text came into a word: as it stands there, in quotes, or from an expansion
outside quotes. -/
inductive Origin where
  | literal
  | quoted
  | expanded
deriving DecidableEq, Repr

/-- A part of an expanded word. -/
inductive Shard where
  | text (s : String) (origin : Origin)
  | gap
deriving DecidableEq, Repr

namespace Shard

/-- The text of shards without regard to gaps and quotes. -/
def plain (shards : List Shard) : String :=
  String.join (shards.map fun s => match s with
    | .text s _ => s
    | .gap => " ")

/-- The marks of shards, as a pattern sees them. -/
def marks (shards : List Shard) : List Mark :=
  shards.flatMap fun s => match s with
    | .text s origin => s.toList.map fun c => ⟨c, origin == .quoted⟩
    | .gap => [⟨' ', true⟩]

end Shard

/-- The fields so far, last one first, the open field, last mark first, and whether blanks
have just closed one. -/
structure FieldDraft where
  closed : List (List Mark) := []
  current : Option (List Mark) := none
  afterBlank : Bool := false

namespace FieldDraft

def close (d : FieldDraft) : FieldDraft :=
  match d.current with
  | none => d
  | some field => { d with closed := field.reverse :: d.closed, current := none }

def push (d : FieldDraft) (m : Mark) : FieldDraft :=
  { d with current := some (m :: d.current.getD []), afterBlank := false }

/-- Adds a character of an expansion outside quotes. -/
def pushSplit (separators : List Char) (d : FieldDraft) (c : Char) : FieldDraft :=
  if !separators.contains c then d.push ⟨c, false⟩
  else if c = ' ' ∨ c = '\t' ∨ c = '\n' then
    if d.current.isSome then { d.close with afterBlank := true } else d
  else if d.current.isSome then d.close
  else if d.afterBlank then { d with afterBlank := false }
  else { d with closed := [] :: d.closed }

def add (separators : List Char) (d : FieldDraft) : Shard → FieldDraft
  | .gap => { d.close with afterBlank := false }
  | .text s .literal => s.toList.foldl (fun d c => d.push ⟨c, false⟩) d
  | .text s .quoted =>
    s.toList.foldl (fun d c => d.push ⟨c, true⟩) { d with current := some (d.current.getD []), afterBlank := false }
  | .text s .expanded => s.toList.foldl (pushSplit separators) d

end FieldDraft

def fieldsOf (separators : List Char) (shards : List Shard) : List (List Mark) :=
  (shards.foldl (FieldDraft.add separators) {}).close.closed.reverse

/-! ## File names -/

/-- The names in a directory, in order, as octets. -/
def namesIn (fs : FileSystem) (l : Location) : List String :=
  let names := (fs.below l).filterMap fun entry =>
    match entry.1 with
    | name :: up => if up = l then some (Octets.ofText name) else none
    | [] => none
  names.mergeSort textLe

/-- The names in the directory that a path leads to. -/
def namesAt (fs : FileSystem) (path : String) : List String :=
  match fs.walk .follow (pathOf (if path.isEmpty then "." else path)) with
  | .ok (.present l .directory) => namesIn fs l
  | _ => []

/-- Whether something is at a path, be it a link that leads nowhere. -/
def isThere (fs : FileSystem) (path : String) : Bool :=
  match fs.walk .keep (pathOf path) with
  | .ok (.present _ _) => true
  | _ => false

def leadsToDirectory (fs : FileSystem) (path : String) : Bool :=
  match fs.walk .follow (pathOf path) with
  | .ok (.present _ .directory) => true
  | _ => false

structure NameStyle where
  glob : Glob.Style := {}
  hidden : Bool := false
  deep : Bool := false
  dots : Bool := false
deriving DecidableEq, Repr

def splitMarks (ms : List Mark) : List (List Mark) :=
  let parts := ms.foldl (fun (acc : List (List Mark) × List Mark) m =>
    if m.char = '/' then (acc.2.reverse :: acc.1, []) else (acc.1, m :: acc.2)) ([], [])
  (parts.2.reverse :: parts.1).reverse

/-- The directories below a path, itself included, `n` levels deep at most. -/
def directoriesBelow (fs : FileSystem) (hidden : Bool) : Nat → String → List String
  | 0, path => [path]
  | n + 1, path =>
    path :: ((namesAt fs path).filter fun name =>
        (hidden || !name.startsWith ".") && leadsToDirectory fs (path ++ name)).flatMap fun name =>
      directoriesBelow fs hidden n (path ++ name ++ "/")

/-- The paths that the parts of a pattern match, behind a path. -/
def matchParts (fs : FileSystem) (style : NameStyle) (path : String) :
    List (List Mark) → List String
  | [] => []
  | part :: rest =>
    let isLast := rest.isEmpty
    let go (paths : List String) : List String :=
      if isLast then paths else paths.flatMap fun p => matchParts fs style (p ++ "/") rest
    if style.deep && part == [⟨'*', false⟩, ⟨'*', false⟩] then
      let dirs := directoriesBelow fs style.hidden 50 path
      if isLast then
        dirs.flatMap fun dir =>
          (if dir = path then (if dir.isEmpty then [] else [dir]) else []) ++
          ((namesAt fs dir).filter fun name => style.hidden || !name.startsWith ".").map (dir ++ ·)
      else dirs.flatMap fun dir => matchParts fs style dir rest
    else if Glob.isPattern style.glob.groups part then
      let g := Glob.ofMarks style.glob part
      let showsHidden := style.hidden || part.head?.any fun m => m.char == '.'
      let names := (namesAt fs path).filter fun name =>
        (showsHidden || !name.startsWith ".") && Glob.accepts g name.toList
      let dots := [".", ".."].filter fun name =>
        style.dots && (part.head?.any fun m => m.char == '.') && Glob.accepts g name.toList
      let found := (dots ++ names).map (path ++ ·)
      go (if isLast then found else found.filter (leadsToDirectory fs))
    else
      let text := Mark.text part
      let here := path ++ text
      if isLast then
        if text.isEmpty then (if path.isEmpty then [] else [path]) else if isThere fs here then [here] else []
      else if text.isEmpty then matchParts fs style (path ++ "/") rest
      else if leadsToDirectory fs here then matchParts fs style (here ++ "/") rest
      else []

/-- The paths that a pattern matches, in order. -/
def matchingPaths (fs : FileSystem) (style : NameStyle) (ms : List Mark) : List String :=
  ((matchParts fs style "" (splitMarks ms)).mergeSort textLe).eraseDups

end SpeechConfig.Shell
