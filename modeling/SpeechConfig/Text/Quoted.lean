/-
# Quoted text

A text between double quotes on a single line, for diagnostics: quotes and
backslashes get a backslash, NUL, tab, line feed and carriage return have their
short forms, and any other hidden character is written by its number.
-/
import SpeechConfig.Text.Hidden

namespace SpeechConfig.Text

/-- The written form of one character inside quotes. -/
def quoteChar (c : Char) : List Char :=
  if c = '"' then ['\\', '"']
  else if c = '\\' then ['\\', '\\']
  else if c = '\x00' then ['\\', '0']
  else if c = '\t' then ['\\', 't']
  else if c = '\n' then ['\\', 'n']
  else if c = '\r' then ['\\', 'r']
  else if isHidden c then ['\\', 'u', '\x7b'] ++ Nat.toDigits 16 c.toNat ++ ['\x7d']
  else [c]

/-- The text in double quotes, with every character in its written form. -/
def quoted (s : String) : String :=
  String.ofList ('"' :: s.toList.flatMap quoteChar ++ ['"'])

end SpeechConfig.Text
