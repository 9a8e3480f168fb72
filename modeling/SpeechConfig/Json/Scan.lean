/-
# Scanning a document

The pieces that every reader of a document is made of: blanks, literals, strings,
and the passing over of a value that nobody asked for.  A reader takes the text
that is left and hands back what it leaves.
-/
import SpeechConfig.Json.Fault
import SpeechConfig.Json.Number

namespace SpeechConfig.Json

/-- A reader: from the text that is left to a value and the text after it. -/
abbrev Reader := StateT (List Char) (Except Fault)

def isBlank (c : Char) : Bool :=
  c == ' ' || c == '\n' || c == '\t' || c == '\r'

def skipBlanks (cs : List Char) : List Char :=
  cs.dropWhile isBlank

/-- Reads the rest of a literal. -/
def literal : List Char → Reader Unit
  | [], cs => .ok ((), cs)
  | _ :: _, [] => .error (.truncated .value)
  | e :: es, c :: cs => if c = e then literal es cs else .error (.malformed .expectedLiteral)

/-! ## Strings -/

def hexValue? (c : Char) : Option Nat :=
  if '0' ≤ c ∧ c ≤ '9' then some (c.toNat - '0'.toNat)
  else if 'a' ≤ c ∧ c ≤ 'f' then some (c.toNat - 'a'.toNat + 10)
  else if 'A' ≤ c ∧ c ≤ 'F' then some (c.toNat - 'A'.toNat + 10)
  else none

def hasFourOctets (cs : List Char) : Bool :=
  4 ≤ (cs.take 4).foldl (fun n c => n + c.utf8Size) 0

/-- Where a string stands between two characters.  `lead` is a leading surrogate
that still wants its partner. -/
inductive StringPlace where
  | plain
  | escape
  | hex (left : Nat) (value : Nat) (lead : Option Nat)
  | pairSlash (lead : Nat)
  | pairLetter (lead : Nat)

def shortEscape? : Char → Option Char
  | '"' => some '"'
  | '\\' => some '\\'
  | '/' => some '/'
  | 'b' => some '\x08'
  | 'f' => some '\x0c'
  | 'n' => some '\n'
  | 'r' => some '\r'
  | 't' => some '\t'
  | _ => none

/-- What four hexadecimal digits add to a string, or that a partner is wanted. -/
def closeHex (strict : Bool) (value : Nat) : Option Nat → Except Fault (List Char × StringPlace)
  | none =>
    if !strict then .ok ([Char.ofNat value], .plain)
    else if 0xDC00 ≤ value ∧ value ≤ 0xDFFF then .error (.malformed .loneSurrogate)
    else if 0xD800 ≤ value ∧ value ≤ 0xDBFF then .ok ([], .pairSlash value)
    else .ok ([Char.ofNat value], .plain)
  | some lead =>
    if 0xDC00 ≤ value ∧ value ≤ 0xDFFF then
      .ok ([Char.ofNat (0x10000 + (lead - 0xD800) * 0x400 + (value - 0xDC00))], .plain)
    else .error (.malformed .loneSurrogate)

/-- Reads a string up to its closing quote.  `text` is what has been read, last
character first; a string that is not `strict` is only passed over, and its
surrogates need no partners. -/
def stringFrom (strict : Bool) (text : List Char) : StringPlace → List Char →
    Except Fault (List Char × List Char)
  | _, [] => .error (.truncated .string)
  | .plain, c :: cs =>
    if c = '"' then .ok (text.reverse, cs)
    else if c = '\\' then stringFrom strict text .escape cs
    else if c.toNat < 0x20 then .error (.malformed .controlCharacter)
    else stringFrom strict (c :: text) .plain cs
  | .escape, c :: cs =>
    if c = 'u' then
      if hasFourOctets cs then stringFrom strict text (.hex 4 0 none) cs
      else .error (.truncated .string)
    else match shortEscape? c with
      | some e => stringFrom strict (e :: text) .plain cs
      | none => .error (.malformed .invalidEscape)
  | .hex left value lead, c :: cs =>
    match hexValue? c with
    | none => .error (.malformed .invalidEscape)
    | some d =>
      if 1 < left then stringFrom strict text (.hex (left - 1) (value * 16 + d) lead) cs
      else match closeHex strict (value * 16 + d) lead with
        | .ok (added, place) => stringFrom strict (added ++ text) place cs
        | .error e => .error e
  | .pairSlash lead, c :: cs =>
    if c = '\\' then stringFrom strict text (.pairLetter lead) cs
    else .error (.malformed .unexpectedEndOfEscape)
  | .pairLetter lead, c :: cs =>
    if c = 'u' then
      if hasFourOctets cs then stringFrom strict text (.hex 4 0 (some lead)) cs
      else .error (.truncated .string)
    else .error (.malformed .unexpectedEndOfEscape)

/-- Reads a string behind its opening quote. -/
def stringBody : Reader String := fun cs =>
  match stringFrom true [] .plain cs with
  | .ok (text, rest) => .ok (String.ofList text, rest)
  | .error e => .error e

/-! ## Passing over a value -/

/-- Passes over the digits that must stand here. -/
def skipDigits (cs : List Char) : Except Fault (List Char) :=
  if cs.head?.any isDigit then .ok (cs.dropWhile isDigit)
  else .error (.malformed .invalidNumber)

def skipExponent : List Char → Except Fault (List Char)
  | '+' :: cs => skipDigits cs
  | '-' :: cs => skipDigits cs
  | cs => skipDigits cs

def skipTail : List Char → Except Fault (List Char)
  | 'e' :: cs => skipExponent cs
  | 'E' :: cs => skipExponent cs
  | cs => .ok cs

def skipFraction : List Char → Except Fault (List Char)
  | '.' :: cs =>
    match skipDigits cs with
    | .ok rest => skipTail rest
    | .error e => .error e
  | cs => skipTail cs

def skipNumber : List Char → Except Fault (List Char)
  | '0' :: cs => if cs.head?.any isDigit then .error (.malformed .invalidNumber) else skipFraction cs
  | cs =>
    match skipDigits cs with
    | .ok rest => skipFraction rest
    | .error e => .error e

/-- Passes over a string behind its opening quote. -/
def skipString (cs : List Char) : Except Fault (List Char) :=
  (stringFrom false [] .plain cs).map Prod.snd

/-- Passes over a value that is neither a list nor an object; `c` is its first
character. -/
def skipScalar (c : Char) (cs : List Char) : Except Fault (List Char) :=
  if c = 'n' then (literal ['u', 'l', 'l'] cs).map Prod.snd
  else if c = 't' then (literal ['r', 'u', 'e'] cs).map Prod.snd
  else if c = 'f' then (literal ['a', 'l', 's', 'e'] cs).map Prod.snd
  else if c = '-' then skipNumber cs
  else if isDigit c then skipNumber (c :: cs)
  else if c = '"' then skipString cs
  else .error (.malformed .expectedValue)

inductive Bracket where
  | list
  | object
deriving DecidableEq, Repr

def Bracket.closer : Bracket → Char
  | .list => ']'
  | .object => '}'

/-- The fault of a text that ends inside a bracket. -/
def Bracket.truncated : Bracket → Fault
  | .list => .truncated .list
  | .object => .truncated .object

/-- The fault of a text that neither goes on nor closes a bracket. -/
def Bracket.unclosed : Bracket → Fault
  | .list => .malformed .expectedCommaOrBracket
  | .object => .malformed .expectedCommaOrBrace

/-- Passes over a key and its colon. -/
def skipKey (cs : List Char) : Except Fault (List Char) :=
  match skipBlanks cs with
  | [] => .error (.truncated .object)
  | c :: cs =>
    if c = '"' then
      match skipString cs with
      | .error e => .error e
      | .ok cs =>
        match skipBlanks cs with
        | [] => .error (.truncated .object)
        | c :: cs => if c = ':' then .ok cs else .error (.malformed .expectedColon)
    else .error (.malformed .keyNotString)

/-- Passes over what stands before the next value inside a bracket. -/
def skipToValue : Bracket → List Char → Except Fault (List Char)
  | .list, cs => .ok cs
  | .object, cs => skipKey cs

/-- What is expected next while values are passed over: a value, something in a
bracket just opened, or what follows a value. -/
inductive SkipPlace where
  | value
  | opened
  | after
deriving DecidableEq, Repr

/-- Passes over text until the value that was begun is complete; `brackets` are
the open ones, innermost first.  Each step takes a character or turns to the value
after an opened bracket, so twice the length of the text bounds their number. -/
def skipFrom : Nat → SkipPlace → List Bracket → List Char → Except Fault (List Char)
  | 0, _, _, _ => .error (.truncated .value)
  | n + 1, .value, brackets, cs =>
    match skipBlanks cs with
    | [] => .error (.truncated .value)
    | c :: cs =>
      if c = '[' then skipFrom n .opened (.list :: brackets) cs
      else if c = '{' then skipFrom n .opened (.object :: brackets) cs
      else match skipScalar c cs with
        | .ok rest => skipFrom n .after brackets rest
        | .error e => .error e
  | n + 1, .opened, brackets, cs =>
    match brackets with
    | [] => .ok cs
    | b :: outer =>
      match skipBlanks cs with
      | [] => .error b.truncated
      | c :: rest =>
        if c = b.closer then skipFrom n .after outer rest
        else match skipToValue b (c :: rest) with
          | .ok rest => skipFrom n .value brackets rest
          | .error e => .error e
  | n + 1, .after, brackets, cs =>
    match brackets with
    | [] => .ok cs
    | b :: outer =>
      match skipBlanks cs with
      | [] => .error b.truncated
      | c :: rest =>
        if c = ',' then
          match skipToValue b rest with
          | .ok rest => skipFrom n .value brackets rest
          | .error e => .error e
        else if c = b.closer then skipFrom n .after outer rest
        else .error b.unclosed

/-- Passes over one value of any kind and depth. -/
def skipValue : Reader Unit := fun cs =>
  (skipFrom (2 * cs.length + 2) .value [] cs).map fun rest => ((), rest)

end SpeechConfig.Json
