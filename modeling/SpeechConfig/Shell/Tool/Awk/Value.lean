/-
# Values of programs for records

Texts and numbers, and tables of them.  The elements of a table come in the order of its
buckets: an element is put at the front of its bucket whenever it is looked up.
-/
import Std.Data.HashMap
import SpeechConfig.Shell.Tool.Awk.Token

namespace SpeechConfig.Shell.Awk

/-- A value; an input is a text that counts as a number where it looks like one. -/
inductive Value where
  | unset
  | number (x : Float)
  | text (s : String)
  | input (s : String)
deriving Inhabited

/-- The number that a text begins with, after space and a sign, and whether it is the whole
text. -/
def numberOf (s : String) : Float × Bool :=
  let cs := s.toList.dropWhile isSpace
  let (negative, cs) := match cs with
    | '-' :: rest => (true, rest)
    | '+' :: rest => (false, rest)
    | cs => (false, cs)
  let signed (x : Float) : Float := if negative then -x else x
  let found := match cs with
    | '0' :: x :: rest =>
      let digits := rest.takeWhile isHexDigit
      if (x = 'x' || x = 'X') && !digits.isEmpty then
        some (Float.ofNat ((numberIn? 16 digits).getD 0), rest.drop digits.length)
      else readNumber cs
    | _ => readNumber cs
  match found with
  | some (x, rest) => (signed x, rest.all isSpace)
  | none =>
    let word := String.ofList (cs.map lowerOf)
    if word = "inf" then (signed (1.0 / 0.0), true)
    else if word = "nan" then (0.0 / 0.0, true)
    else (0, false)

def wholePart (x : Float) : Int :=
  (Floating.ofFloat x).truncated

def isWhole (x : Float) : Bool :=
  x.isFinite && Float.floor x == x

/-- A number in its least digits if it is whole and not too large, and else as a letter with
a precision asks for it. -/
def shownNumber (letter : Char) (precision : Nat) (x : Float) : String :=
  let f := Floating.ofFloat x
  if isWhole x && x.abs ≤ 18446744073709551616.0 then
    let n := wholePart x
    let n := if n = 18446744073709551616 then n - 1 else n
    Int.repr n
  else if x.isNaN then "-nan"
  else (if f.isNegative then "-" else "") ++ f.digits letter (some precision) false

/-- The letter and the precision that a format for numbers asks for. -/
def numberFormat (format : String) : Char × Nat :=
  match format.toList with
  | '%' :: '.' :: rest =>
    let digits := rest.takeWhile isDigit
    ((rest.drop digits.length).headD 'g', (numberIn? 10 digits).getD 0)
  | '%' :: c :: _ => (c, if c = 'd' || c = 'i' then 0 else 6)
  | _ => ('g', 6)

def formattedNumber (format : String) (x : Float) : String :=
  let (letter, precision) := numberFormat format
  if letter = 'd' || letter = 'i' then Int.repr (wholePart x) else shownNumber letter precision x

namespace Value

def toNumber : Value → Float
  | unset => 0
  | number x => x
  | text s | input s => (numberOf s).1

/-- The value as a text; `format` is for numbers that are not whole. -/
def toText (format : String) : Value → String
  | unset => ""
  | number x => formattedNumber format x
  | text s | input s => s

/-- Whether the value counts as a number where values are compared. -/
def isNumber : Value → Bool
  | unset | number _ => true
  | text _ => false
  | input s => (numberOf s).2

def isTrue : Value → Bool
  | unset => false
  | number x => x != 0
  | text s => !s.isEmpty
  | input s =>
    let (x, whole) := numberOf s
    if whole then x != 0 else !s.isEmpty

def ofBool (b : Bool) : Value :=
  .number (if b then 1 else 0)

def ofNat (n : Nat) : Value :=
  .number (Float.ofNat n)

end Value

/-! ## Tables -/

/-- A key of a table: a whole number or a text. -/
inductive Key where
  | whole (n : Int)
  | text (s : String)
deriving DecidableEq, Inhabited

def Key.toText : Key → String
  | whole n => Int.repr n
  | text s => s

/-- A table.  `numbers` and `texts` are the buckets of the keys of each kind; those of texts
are filled as soon as a text is looked up. -/
structure Table where
  cells : Std.HashMap String Value := {}
  numbers : Array (List Int) := Array.replicate 64 []
  texts : Array (List String) := Array.replicate 64 []
  hasTexts : Bool := false
deriving Inhabited

namespace Table

/-- The bucket of a text: the last bits of its hash, which each octet changes by a product
and an exclusive or. -/
def bucketOf (s : String) : Nat :=
  (s.toList.foldl (fun h c => ((h ^^^ c.toNat) * 16777619) % Nat.pow 2 32) 2166136261) % 64

def bucketOfInt (n : Int) : Nat :=
  (n % 64).toNat

/-- Puts a text at the front of its bucket. -/
def lift (t : Table) (s : String) : Table :=
  { t with texts := t.texts.modify (bucketOf s) fun l => s :: l.filter (· != s) }

def withTexts (t : Table) : Table :=
  if t.hasTexts then t
  else
    let keys := t.numbers.toList.flatten.map Int.repr
    keys.foldl (fun t s => { t with texts := t.texts.modify (bucketOf s) fun l => s :: l })
      { t with hasTexts := true }

def contains (t : Table) (k : Key) : Bool :=
  t.cells.contains k.toText

/-- Looks an element up, which is made if there is none. -/
def touch (t : Table) (k : Key) : Table :=
  let s := k.toText
  let t := match k with
    | .whole n =>
      let known := (t.numbers.getD (bucketOfInt n) []).contains n
      let t := if t.hasTexts && !known then t.lift s else t
      { t with numbers := t.numbers.modify (bucketOfInt n) fun l => n :: l.filter (· != n) }
    | .text s => t.withTexts.lift s
  if t.cells.contains s then t else { t with cells := t.cells.insert s .unset }

def value (t : Table) (k : Key) : Value :=
  (t.cells[k.toText]?).getD .unset

def set (t : Table) (k : Key) (v : Value) : Table :=
  let t := t.touch k
  { t with cells := t.cells.insert k.toText v }

def erase (t : Table) (k : Key) : Table :=
  let s := k.toText
  if !t.contains k then t
  else
    { t with
      cells := t.cells.erase s
      texts := t.texts.modify (bucketOf s) fun l => l.filter (· != s)
      numbers := t.numbers.map fun l => l.filter fun n => Int.repr n != s }

/-- The keys in the order of the buckets, and the table whose buckets of texts are filled. -/
def keys (t : Table) : List String × Table :=
  let t := t.withTexts
  (t.texts.toList.flatten, t)

def size (t : Table) : Nat :=
  t.cells.size

end Table

end SpeechConfig.Shell.Awk
