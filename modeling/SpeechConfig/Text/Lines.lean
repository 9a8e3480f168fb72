/-
# Lines

A line ends at a line feed, or at a carriage return with a line feed behind it;
neither belongs to the line.  A last line needs no end, and keeps a carriage
return that no line feed follows.
-/
namespace SpeechConfig.Text

/-- A line that a line feed ended, given last character first. -/
def closeLine : List Char → List Char
  | '\r' :: line => line.reverse
  | line => line.reverse

/-- The lines of a text; `line` holds the open one, last character first. -/
def linesFrom (line : List Char) : List Char → List (List Char)
  | [] => if line.isEmpty then [] else [line.reverse]
  | c :: cs =>
    if c = '\n' then closeLine line :: linesFrom [] cs
    else linesFrom (c :: line) cs

def lines (text : List Char) : List String :=
  (linesFrom [] text).map String.ofList

def lastEntries {α : Type} (n : Nat) (xs : List α) : List α :=
  xs.drop (xs.length - n)

/-- Entries with a line feed between neighbours. -/
def joinLines (lines : List String) : String :=
  "\n".intercalate lines

end SpeechConfig.Text
