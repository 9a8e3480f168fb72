/-
# File systems

A tree of directories, regular files and symbolic links, seen as a finite map from
locations to nodes, with a working directory.  Two file systems with the same
nodes at the same locations are equal.
-/
import Std.Data.ExtTreeMap
import SpeechConfig.Path

namespace SpeechConfig

/-- A place in the tree: the names on the way to it, the last one first.  The
empty list is the root. -/
abbrev Location := List String

/-- What stands at a place. -/
inductive Node where
  | directory
  | file (content : ByteArray)
  | link (target : Path)

instance Node.decideEq : DecidableEq Node
  | .directory, .directory => isTrue rfl
  | .directory, .file _ => isFalse (by simp)
  | .directory, .link _ => isFalse (by simp)
  | .file _, .directory => isFalse (by simp)
  | .file a, .file b =>
    match ByteArray.instDecidableEq a b with
    | isTrue same => isTrue (by rw [same])
    | isFalse differ => isFalse (by simpa using differ)
  | .file _, .link _ => isFalse (by simp)
  | .link _, .directory => isFalse (by simp)
  | .link _, .file _ => isFalse (by simp)
  | .link p, .link q =>
    match instDecidableEqPath p q with
    | isTrue same => isTrue (by rw [same])
    | isFalse differ => isFalse (by simpa using differ)

/-- The nodes below the root, and the directory that relative paths start from. -/
structure FileSystem where
  nodes : Std.ExtTreeMap Location Node
  workDir : Location

namespace FileSystem

/-- The node at a place; the root is a directory. -/
def node? (fs : FileSystem) (l : Location) : Option Node :=
  if l = [] then some .directory else fs.nodes[l]?

/-- Puts a node at a place, over what is there. -/
def put (fs : FileSystem) (l : Location) (n : Node) : FileSystem :=
  { fs with nodes := fs.nodes.insert l n }

def erase (fs : FileSystem) (l : Location) : FileSystem :=
  { fs with nodes := fs.nodes.erase l }

/-- Every place below another, with its node. -/
def below (fs : FileSystem) (l : Location) : List (Location × Node) :=
  fs.nodes.toList.filter fun entry => entry.1 ≠ l ∧ l.isSuffixOf entry.1

/-- Takes away the node at a place and everything below it. -/
def eraseTree (fs : FileSystem) (l : Location) : FileSystem :=
  (fs.below l).foldl (fun fs entry => fs.erase entry.1) (fs.erase l)

/-- The places on the way from the root to a place, the place itself first. -/
def onTheWay : Location → List Location
  | [] => []
  | name :: up => (name :: up) :: onTheWay up

/-- Directories on the way to a place, the place included, and nothing else; paths
start from there. -/
def bare (l : Location) : FileSystem :=
  ⟨(onTheWay l).foldl (fun nodes place => nodes.insert place .directory) ∅, l⟩

/-! ## What the operations do to the view -/

theorem node?_root {fs : FileSystem} : fs.node? [] = some .directory := by
  simp [node?]

theorem node?_put_self {fs : FileSystem} {l : Location} (n : Node) (h : l ≠ []) :
    (fs.put l n).node? l = some n := by
  simp [node?, put, h]

theorem node?_put_of_ne {fs : FileSystem} {l m : Location} (n : Node) (h : l ≠ m) :
    (fs.put l n).node? m = fs.node? m := by
  simp [node?, put, Std.ExtTreeMap.getElem?_insert, h]

theorem node?_erase_self {fs : FileSystem} {l : Location} (h : l ≠ []) :
    (fs.erase l).node? l = none := by
  simp [node?, erase, h]

theorem node?_erase_of_ne {fs : FileSystem} {l m : Location} (h : l ≠ m) :
    (fs.erase l).node? m = fs.node? m := by
  simp [node?, erase, Std.ExtTreeMap.getElem?_erase, h]

end FileSystem
end SpeechConfig
