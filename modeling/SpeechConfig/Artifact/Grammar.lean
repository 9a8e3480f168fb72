/-
# Grammar files

Two lines of header and one public production per rule, numbered from one.  A
quoted rule stands between double quotes, with a backslash before every quote and
backslash of its own; a bare rule stands as it is.  The name of a grammar is also
the stem of its file, so only plain names are used.
-/
import SpeechConfig.Path
import SpeechConfig.Text.Blank

namespace SpeechConfig

/-- How rules are written. -/
inductive RuleQuoting where
  | quoted
  | bare
deriving DecidableEq, Repr, Inhabited

namespace Grammar

/-- The characters of a rule with quotes and backslashes escaped. -/
def escape : List Char → List Char
  | [] => []
  | c :: cs => if c = '"' ∨ c = '\\' then '\\' :: c :: escape cs else c :: escape cs

/-- The right side of a production. -/
def body : RuleQuoting → String → String
  | .quoted, rule => "\"" ++ String.ofList (escape rule.toList) ++ "\""
  | .bare, rule => rule

/-- The production of rule number `index`. -/
def production (quoting : RuleQuoting) (index : Nat) (rule : String) : String :=
  "public <cmd" ++ Nat.repr index ++ ">=" ++ body quoting rule ++ ";\n"

def header (name : String) : String :=
  "#JSGF V1.0;\ngrammar " ++ name ++ ";\n"

/-- The productions of rules, the first of them being number `index`. -/
def productionsFrom (quoting : RuleQuoting) (index : Nat) : List String → List String
  | [] => []
  | rule :: rest => production quoting index rule :: productionsFrom quoting (index + 1) rest

def render (name : String) (rules : List String) (quoting : RuleQuoting) : String :=
  header name ++ String.join (productionsFrom quoting 1 rules)

/-! ## Names -/

/-- A character of plain names: an ASCII letter or digit, `_`, `.` or `-`. -/
def isNameChar (c : Char) : Bool :=
  ('a' ≤ c && c ≤ 'z') || ('A' ≤ c && c ≤ 'Z') || ('0' ≤ c && c ≤ '9') ||
    c == '_' || c == '.' || c == '-'

/-- A plain name: not empty, without a leading dot, of plain characters only. -/
def isPlain (name : String) : Bool :=
  !name.isEmpty && name.toList.head? != some '.' && name.toList.all isNameChar

/-- The name that is used where none is given, or none that is plain. -/
def defaultName : String := "custom"

/-- The name without white space at its ends if that is plain, else the default. -/
def plainName (raw : String) : String :=
  if isPlain (Text.trim raw) then Text.trim raw else defaultName

def fileIn (dir : Path) (name : String) : Path :=
  dir.join (name ++ ".gram")

end Grammar
end SpeechConfig
