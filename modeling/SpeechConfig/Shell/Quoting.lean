/-
# Quoting

The ways in which a shell writes a text so that it would read it back as the same text.
-/
import SpeechConfig.Shell.Octets

namespace SpeechConfig.Shell

/-- Whether a character is seen when it is written raw. -/
def isShown (c : Char) : Bool :=
  isGraph c || c == ' '

def octalDigits (n : Nat) : String :=
  let digits := digitsIn 8 n
  String.ofList (List.replicate (3 - digits.length) '0') ++ digits

def dollarQuoted (s : String) : String :=
  let one (c : Char) : String :=
    match c.toNat with
    | 27 => "\\E"
    | 7 => "\\a"
    | 8 => "\\b"
    | 12 => "\\f"
    | 10 => "\\n"
    | 13 => "\\r"
    | 9 => "\\t"
    | 11 => "\\v"
    | 92 => "\\\\"
    | 39 => "\\'"
    | n => if isShown c then String.singleton c else "\\" ++ octalDigits n
  "$'" ++ String.join (s.toList.map one) ++ "'"

/-- Whether a text holds something that only dollar quotes show. -/
def needsDollarQuotes (s : String) : Bool :=
  s.toList.any fun c => !isShown c

def singleQuoted (s : String) : String :=
  "'" ++ String.join (s.toList.map fun c => if c = '\'' then "'\\''" else String.singleton c) ++ "'"

def doubleQuoted (s : String) : String :=
  "\"" ++ String.join (s.toList.map fun c =>
    if c = '"' ∨ c = '$' ∨ c = '\x60' ∨ c = '\\' then String.ofList ['\\', c] else String.singleton c)
    ++ "\""

/-- Whether a text holds a character that means something to a shell. -/
def hasMeaning (s : String) : Bool :=
  let rec go (former : Option Char) : List Char → Bool
    | [] => false
    | c :: cs =>
      " \t\n'\"\\|&;()<>!\x7b\x7d*[]?^$\x60".toList.contains c ||
        (c == '~' && (former.isNone || former == some '=' || former == some ':')) ||
        (c == '#' && former.isNone) || go (some c) cs
  go none s.toList

/-- A text with a backslash before each character that means something. -/
def backslashed (s : String) : String :=
  if s.isEmpty then "''"
  else if needsDollarQuotes s then dollarQuoted s
  else
    let rec go (former : Option Char) : List Char → String
      | [] => ""
      | c :: cs =>
        let marked := " \t!\"$&'()*,;<>?[\\]^\x60\x7b|\x7d".toList.contains c ||
          (c == '~' && (former.isNone || former == some '=' || former == some ':')) ||
          (c == '#' && former.isNone)
        (if marked then String.ofList ['\\', c] else String.singleton c) ++ go (some c) cs
    go none s.toList

/-- A text as a trace of commands shows it. -/
def traced (s : String) : String :=
  if s.isEmpty then "''"
  else if needsDollarQuotes s then dollarQuoted s
  else if hasMeaning s then singleQuoted s
  else s

/-- A value as a list of declarations shows it. -/
def declared (s : String) : String :=
  if needsDollarQuotes s then dollarQuoted s else doubleQuoted s

/-- A value as a list of all variables shows it. -/
def listed (s : String) : String :=
  if needsDollarQuotes s then dollarQuoted s
  else if hasMeaning s then singleQuoted s
  else s

/-- A text that can be read back, as an expansion asks for it. -/
def reusable (s : String) : String :=
  if needsDollarQuotes s then dollarQuoted s else singleQuoted s

end SpeechConfig.Shell
