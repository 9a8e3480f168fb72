/-
# Paths

A path is a text with `/` between its parts and is never normalised: joining,
cutting off the last part and replacing it all keep the spelling of the rest.
What a path names is seen through its components, in which repeated and trailing
slashes and inner `.` parts have no share; a leading `.` and every `..` stay.
-/
namespace SpeechConfig

/-- A path, exactly as it is spelt. -/
structure Path where
  text : String
deriving DecidableEq, Repr, Inhabited

namespace Path

inductive Component where
  | root
  | here
  | parent
  | name (text : String)
deriving DecidableEq, Repr

/-- Splits a text at every `/`; `part` is the open part, last character first. -/
def splitFrom (part : List Char) : List Char → List (List Char)
  | [] => [part.reverse]
  | c :: cs => if c = '/' then part.reverse :: splitFrom [] cs else splitFrom (c :: part) cs

/-- The parts between slashes, empty ones included; at least one. -/
def parts (cs : List Char) : List (List Char) :=
  splitFrom [] cs

def isAbsolute (p : Path) : Bool :=
  p.text.toList.head? == some '/'

/-- What stands before the parts proper: a leading slash, or a leading `.` that
is a whole part. -/
def stem : List Char → List Char × List Char
  | '/' :: cs => (['/'], cs)
  | ['.'] => (['.'], [])
  | '.' :: '/' :: cs => (['.'], '/' :: cs)
  | cs => ([], cs)

/-- A part that adds no component. -/
def isIdle (part : List Char) : Bool :=
  part.isEmpty || part == ['.']

/-- The component that a part proper stands for. -/
def ofPart (part : List Char) : Component :=
  if part = ['.', '.'] then .parent else .name (String.ofList part)

/-- The component that the stem stands for. -/
def ofStem : List Char → List Component
  | '/' :: _ => [.root]
  | '.' :: _ => [.here]
  | _ => []

def components (p : Path) : List Component :=
  let (head, body) := stem p.text.toList
  ofStem head ++ ((parts body).filter (fun part => !isIdle part)).map ofPart

def joinParts (ps : List (List Char)) : List Char :=
  ['/'].intercalate ps

/-- The path without its last component, in the spelling it has up to there. -/
def parent? (p : Path) : Option Path :=
  let (head, body) := stem p.text.toList
  match (parts body).reverse.dropWhile isIdle with
  | _ :: before => some ⟨String.ofList (head ++ joinParts (before.dropWhile isIdle).reverse)⟩
  | [] => if head = ['.'] then some ⟨""⟩ else none

/-- The last component, when it is a name. -/
def fileName? (p : Path) : Option String :=
  match (components p).getLast? with
  | some (.name text) => some text
  | _ => none

/-- The path with another behind it; an absolute one replaces it. -/
def join (p : Path) (tail : String) : Path :=
  if tail.toList.head? = some '/' then ⟨tail⟩
  else if p.text.isEmpty || p.text.toList.getLast? = some '/' then ⟨p.text ++ tail⟩
  else ⟨p.text ++ "/" ++ tail⟩

/-- The path with its last component, if that is a name, replaced by another. -/
def withFileName (p : Path) (name : String) : Path :=
  match p.fileName?, p.parent? with
  | some _, some dir => dir.join name
  | _, _ => p.join name

end Path
end SpeechConfig
