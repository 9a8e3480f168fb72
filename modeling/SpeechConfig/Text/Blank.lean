/-
# Blank text

Which characters count as white space, how a text is trimmed, and how it falls
into tokens.  A text is blank when it holds no other character; its tokens are
the maximal runs of characters that are not white space, left to right.
-/
namespace SpeechConfig.Text

/-- White space in the sense of the Unicode property `White_Space`. -/
def isSpace (c : Char) : Bool :=
  let n := c.toNat
  (0x09 ≤ n && n ≤ 0x0D) || n == 0x20 || n == 0x85 || n == 0xA0 || n == 0x1680 ||
    (0x2000 ≤ n && n ≤ 0x200A) || n == 0x2028 || n == 0x2029 || n == 0x202F ||
    n == 0x205F || n == 0x3000

def isBlank (s : String) : Bool :=
  s.toList.all isSpace

def trim (s : String) : String :=
  String.ofList (((s.toList.dropWhile isSpace).reverse.dropWhile isSpace).reverse)

/-- The runs without white space; `word` holds the open run, last character first. -/
def runsFrom (word : List Char) : List Char → List (List Char)
  | [] => if word.isEmpty then [] else [word.reverse]
  | c :: cs =>
    if isSpace c then
      if word.isEmpty then runsFrom [] cs else word.reverse :: runsFrom [] cs
    else runsFrom (c :: word) cs

/-- The tokens of a text: its maximal runs without white space, in order. -/
def tokens (s : String) : List String :=
  (runsFrom [] s.toList).map String.ofList

/-- Lower case for the letters A to Z; every other character stays. -/
def lowerAscii (s : String) : String :=
  String.ofList (s.toList.map fun c => if 'A' ≤ c ∧ c ≤ 'Z' then Char.ofNat (c.toNat + 32) else c)

end SpeechConfig.Text
