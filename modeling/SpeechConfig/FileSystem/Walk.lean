/-
# Walking along a path

From a directory, part by part, to the place that a path names.  Symbolic links on
the way are followed, at most forty of them; what happens to a link in the last place is
for the caller to say.
-/
import SpeechConfig.FileSystem.Basic
import SpeechConfig.FileSystem.Fault

namespace SpeechConfig.FileSystem

/-- Where a walk ends: at a node, or at a free name in a directory. -/
inductive Spot where
  | present (l : Location) (n : Node)
  | absent (dir : Location) (name : String)
deriving DecidableEq

/-- How the last part of a path is taken: a link there is kept or followed; and where a
file is to be written, no slash may stand behind the part. -/
inductive LastPart where
  | keep
  | follow
  | write
deriving DecidableEq, Repr

/-- The most octets a name may have. -/
def longestName : Nat := 255

/-- The octets a whole path must stay below. -/
def pathLimit : Nat := 4096

/-- The most links a walk follows. -/
def linkLimit : Nat := 40

/-- The parts of a path between its slashes. -/
def segments (p : Path) : List String :=
  (Path.parts p.text.toList).map String.ofList

def startOf (p : Path) (here : Location) : Location :=
  if p.isAbsolute then [] else here

/-- Walks along parts up to the first link, which is left to `onLink` together
with the parts behind it. -/
def advance (fs : FileSystem) (last : LastPart)
    (onLink : Location → Path → List String → Except Fault Spot) :
    Location → List String → Except Fault Spot
  | here, [] => .ok (.present here .directory)
  | here, part :: rest =>
    if part = "" ∨ part = "." then advance fs last onLink here rest
    else if part = ".." then advance fs last onLink here.tail rest
    else if last = .write ∧ rest ≠ [] ∧ rest.all (· = "") then .error .isDirectory
    else if longestName < part.utf8ByteSize then .error .nameTooLong
    else match fs.node? (part :: here) with
      | none => if rest.all (· = "") then .ok (.absent here part) else .error .notFound
      | some .directory => advance fs last onLink (part :: here) rest
      | some (.file content) =>
        if rest = [] then .ok (.present (part :: here) (.file content)) else .error .notDirectory
      | some (.link target) =>
        if rest = [] ∧ last = .keep then .ok (.present (part :: here) (.link target))
        else onLink here target rest

/-- Walks along parts, following at most `links` links. -/
def walkFrom (fs : FileSystem) (last : LastPart) : Nat → Location → List String →
    Except Fault Spot
  | 0 => advance fs last fun _ _ _ => .error .tooManyLinks
  | links + 1 => advance fs last fun here target rest =>
    walkFrom fs last links (startOf target here) (segments target ++ rest)

/-- What a path may not be: empty, too long, or with a NUL inside. -/
def checkPath (p : Path) : Except Fault Unit :=
  if p.text.toList.contains '\x00' then .error .nulInName
  else if p.text.isEmpty then .error .notFound
  else if pathLimit ≤ p.text.utf8ByteSize then .error .nameTooLong
  else .ok ()

def walk (fs : FileSystem) (last : LastPart) (p : Path) : Except Fault Spot := do
  checkPath p
  walkFrom fs last linkLimit (startOf p fs.workDir) (segments p)

def dropSlashes (p : Path) : Path :=
  let kept := (p.text.toList.reverse.dropWhile (· == '/')).reverse
  if kept.isEmpty then p else ⟨String.ofList kept⟩

end SpeechConfig.FileSystem
