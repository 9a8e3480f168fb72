/-
# Octet text

Shells and their tools look at octets, and an octet above 127 is no letter to them.  In
this folder a text is a `String` with one character for each octet, so that a text and
its octets are the same list of numbers.  Texts change their form only where files, file
names and arguments come in or go out.
-/
import SpeechConfig.Text.Utf8

namespace SpeechConfig.Shell

namespace Octets

/-- The octet text of the content of a file. -/
def ofBytes (bytes : ByteArray) : String :=
  bytes.foldl (fun s octet => s.push (Char.ofNat octet.toNat)) ""

/-- The content of a file that an octet text stands for. -/
def toBytes (s : String) : ByteArray :=
  s.foldl (fun bytes c => bytes.push c.toNat.toUInt8) ByteArray.empty

/-- Whether every character stands for itself in octet texts and elsewhere. -/
def isPlain (s : String) : Bool :=
  s.toList.all fun c => c.toNat < 128

/-- The octet text of an ordinary text, written in UTF-8. -/
def ofText (s : String) : String :=
  if isPlain s then s else ofBytes s.toUTF8

/-- The ordinary text that octets show. -/
def toText (s : String) : String :=
  if isPlain s then s
  else
    let bytes := toBytes s
    match String.fromUTF8? bytes with
    | some text => text
    | none => String.ofList (Text.ofOctets bytes.data.toList)

def numbers (s : String) : List UInt8 :=
  s.toList.map fun c => c.toNat.toUInt8

end Octets

/-! ## Classes of octets -/

def isUpper (c : Char) : Bool :=
  'A' ≤ c && c ≤ 'Z'

def isLower (c : Char) : Bool :=
  'a' ≤ c && c ≤ 'z'

def isAlpha (c : Char) : Bool :=
  isUpper c || isLower c

def isDigit (c : Char) : Bool :=
  '0' ≤ c && c ≤ '9'

def isAlnum (c : Char) : Bool :=
  isAlpha c || isDigit c

def isHexDigit (c : Char) : Bool :=
  isDigit c || ('a' ≤ c && c ≤ 'f') || ('A' ≤ c && c ≤ 'F')

def isSpace (c : Char) : Bool :=
  c == ' ' || (9 ≤ c.toNat && c.toNat ≤ 13)

/-- A space or a tab. -/
def isBlank (c : Char) : Bool :=
  c == ' ' || c == '\t'

def isControl (c : Char) : Bool :=
  c.toNat < 32 || c.toNat == 127

/-- An octet that leaves a mark on paper. -/
def isGraph (c : Char) : Bool :=
  33 ≤ c.toNat && c.toNat ≤ 126

/-- A mark that is neither letter nor digit. -/
def isPunct (c : Char) : Bool :=
  isGraph c && !isAlnum c

/-- The octets of a class given by its name. -/
def classNamed? : String → Option (Char → Bool)
  | "alpha" => some isAlpha
  | "digit" => some isDigit
  | "alnum" => some isAlnum
  | "upper" => some isUpper
  | "lower" => some isLower
  | "space" => some isSpace
  | "blank" => some isBlank
  | "punct" => some isPunct
  | "print" => some fun c => isGraph c || c == ' '
  | "graph" => some isGraph
  | "cntrl" => some isControl
  | "xdigit" => some isHexDigit
  | _ => none

/-- The small letter for a capital one; every other octet stays. -/
def lowerOf (c : Char) : Char :=
  if isUpper c then Char.ofNat (c.toNat + 32) else c

/-- The capital letter for a small one; every other octet stays. -/
def upperOf (c : Char) : Char :=
  if isLower c then Char.ofNat (c.toNat - 32) else c

def lowered (s : String) : String :=
  s.map lowerOf

def uppered (s : String) : String :=
  s.map upperOf

def digitValue? (c : Char) : Option Nat :=
  if isDigit c then some (c.toNat - 48)
  else if isLower c then some (c.toNat - 87)
  else if isUpper c then some (c.toNat - 55)
  else none

/-- The number that digits of a base spell; none if there is no digit or a foreign one. -/
def numberIn? (base : Nat) (cs : List Char) : Option Nat :=
  if cs.isEmpty then none
  else cs.foldl (fun acc c => do
    let n ← acc
    let d ← digitValue? c
    if d < base then some (n * base + d) else none) (some 0)

/-- The whole number that a text with an optional sign spells. -/
def integerOf? (s : String) : Option Int :=
  match s.toList with
  | '-' :: ds => (numberIn? 10 ds).map fun n => -(n : Int)
  | '+' :: ds => (numberIn? 10 ds).map Int.ofNat
  | ds => (numberIn? 10 ds).map Int.ofNat

def digitsIn (base n : Nat) : String :=
  String.ofList (Nat.toDigits base n)

/-! ## Lines -/

/-- Splits a text at every separator; what is behind the last separator counts only if it
is not empty. -/
def piecesAt (separator : Char) (s : String) : List String :=
  let parts := s.toList.foldl
    (fun (acc : List String × String) c =>
      if c = separator then (acc.2 :: acc.1, "") else (acc.1, acc.2.push c)) ([], "")
  (if parts.2.isEmpty then parts.1 else parts.2 :: parts.1).reverse

/-- The lines of a text, without their ends. -/
def linesOf (s : String) : List String :=
  piecesAt '\n' s

def unlines (lines : List String) : String :=
  String.join (lines.map fun l => l ++ "\n")

/-- The first `n` characters. -/
def takeText (n : Nat) (s : String) : String :=
  String.ofList (s.toList.take n)

/-- What is behind the first `n` characters. -/
def dropText (n : Nat) (s : String) : String :=
  String.ofList (s.toList.drop n)

/-- What stands before and behind the first occurrence of a character. -/
def splitFirst? (c : Char) (s : String) : Option (String × String) :=
  let before := s.toList.takeWhile (· != c)
  if before.length = s.length then none
  else some (String.ofList before, String.ofList (s.toList.drop (before.length + 1)))

/-- Splits a text at every occurrence of a character; there is always a part. -/
def splitAll (c : Char) (s : String) : List String :=
  let parts := s.toList.foldl
    (fun (acc : List String × String) d =>
      if d = c then (acc.2 :: acc.1, "") else (acc.1, acc.2.push d)) ([], "")
  (parts.2 :: parts.1).reverse

/-- Spaces that fill a text up to a width: in front of it, or behind it. -/
def padded (width : Nat) (behind : Bool) (s : String) : String :=
  let fill := String.ofList (List.replicate (width - s.length) ' ')
  if behind then s ++ fill else fill ++ s

/-- Texts in the order of their octets. -/
def textLe (a b : String) : Bool :=
  !(b < a)

end SpeechConfig.Shell
