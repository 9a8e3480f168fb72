/-
# JSON values and their texts

A value is written in two layouts: compact, without any space, and pretty, with a
line per element and two spaces of indentation per level.  Members keep their
order, and nothing forbids a repeated key.
-/
namespace SpeechConfig

namespace Json

/-- A number as it is spelt: sign, whole part, digits behind the point, exponent. -/
structure Numeral where
  negative : Bool
  whole : Nat
  fraction : List (Fin 10)
  exponent : Option Int
deriving DecidableEq, Repr

def Numeral.text (n : Numeral) : List Char :=
  (if n.negative then ['-'] else []) ++ Nat.toDigits 10 n.whole ++
    (if n.fraction.isEmpty then [] else '.' :: n.fraction.map fun d => Nat.digitChar d.val) ++
    (match n.exponent with
      | none => []
      | some e => 'e' :: (if e < 0 then ['-'] else []) ++ Nat.toDigits 10 e.natAbs)

end Json

inductive Json where
  | null
  | bool (b : Bool)
  | number (n : Json.Numeral)
  | string (s : String)
  | list (items : List Json)
  | object (members : List (String × Json))
deriving Repr

namespace Json

instance : Inhabited Json := ⟨.null⟩

/-- The written form of one character of a string. -/
def escapeChar (c : Char) : List Char :=
  if c = '"' then ['\\', '"']
  else if c = '\\' then ['\\', '\\']
  else if c = '\x08' then ['\\', 'b']
  else if c = '\x0c' then ['\\', 'f']
  else if c = '\n' then ['\\', 'n']
  else if c = '\r' then ['\\', 'r']
  else if c = '\t' then ['\\', 't']
  else if c.toNat < 0x20 then
    ['\\', 'u', '0', '0', Nat.digitChar (c.toNat / 16), Nat.digitChar (c.toNat % 16)]
  else [c]

def stringText (s : String) : List Char :=
  '"' :: s.toList.flatMap escapeChar ++ ['"']

def boolText (b : Bool) : List Char :=
  if b then ['t', 'r', 'u', 'e'] else ['f', 'a', 'l', 's', 'e']

def nullText : List Char := ['n', 'u', 'l', 'l']

mutual

/-- The compact text of a value. -/
def compactChars : Json → List Char
  | .null => nullText
  | .bool b => boolText b
  | .number n => n.text
  | .string s => stringText s
  | .list items => '[' :: compactItems true items
  | .object members => '{' :: compactMembers true members

/-- The compact text of elements with the closing bracket; `first` when nothing
stands before them. -/
def compactItems (first : Bool) : List Json → List Char
  | [] => [']']
  | item :: rest =>
    (if first then [] else [',']) ++ compactChars item ++ compactItems false rest

/-- The compact text of members with the closing brace. -/
def compactMembers (first : Bool) : List (String × Json) → List Char
  | [] => ['}']
  | (key, value) :: rest =>
    (if first then [] else [',']) ++ stringText key ++ ':' :: compactChars value ++
      compactMembers false rest

end

/-- A line end and the indentation of a level. -/
def newLine (level : Nat) : List Char :=
  '\n' :: List.replicate (2 * level) ' '

mutual

/-- The pretty text of a value that stands at a level. -/
def prettyChars (level : Nat) : Json → List Char
  | .null => nullText
  | .bool b => boolText b
  | .number n => n.text
  | .string s => stringText s
  | .list items => '[' :: prettyItems level true items
  | .object members => '{' :: prettyMembers level true members

/-- The pretty text of elements with the closing bracket, which stands at the
level of the list. -/
def prettyItems (level : Nat) (first : Bool) : List Json → List Char
  | [] => (if first then [] else newLine level) ++ [']']
  | item :: rest =>
    (if first then [] else [',']) ++ newLine (level + 1) ++ prettyChars (level + 1) item ++
      prettyItems level false rest

/-- The pretty text of members with the closing brace. -/
def prettyMembers (level : Nat) (first : Bool) : List (String × Json) → List Char
  | [] => (if first then [] else newLine level) ++ ['}']
  | (key, value) :: rest =>
    (if first then [] else [',']) ++ newLine (level + 1) ++ stringText key ++ ':' :: ' ' ::
      prettyChars (level + 1) value ++ prettyMembers level false rest

end

/-- The text without spaces. -/
def compact (v : Json) : String :=
  String.ofList (compactChars v)

/-- The text with a line per element. -/
def pretty (v : Json) : String :=
  String.ofList (prettyChars 0 v)

end Json
end SpeechConfig
