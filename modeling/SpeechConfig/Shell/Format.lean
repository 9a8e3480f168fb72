/-
# Formats

Texts in which conversions stand for arguments: how wide a conversion is, how numbers and
texts are put into it, and the command that prints a format as often as its arguments last.
-/
import SpeechConfig.Shell.Calendar
import SpeechConfig.Shell.Escape
import SpeechConfig.Shell.Quoting

namespace SpeechConfig.Shell

/-- How a conversion sets its value: flags, width and precision. -/
structure Spec where
  left : Bool := false
  plus : Bool := false
  space : Bool := false
  alternate : Bool := false
  zero : Bool := false
  width : Nat := 0
  precision : Option Nat := none
deriving DecidableEq, Repr, Inhabited

namespace Spec

def pad (s : Spec) (text : String) : String :=
  padded s.width s.left text

/-- A text cut to its precision, in its width. -/
def text (s : Spec) (t : String) : String :=
  s.pad (match s.precision with
    | some n => takeText n t
    | none => t)

/-- A number whose sign stands before its digits; zeros may fill the width between. -/
def number (s : Spec) (sign digits : String) (mayFill : Bool) : String :=
  if s.zero && mayFill && !s.left then
    sign ++ Floating.zeroFilled (s.width - sign.length) digits
  else s.pad (sign ++ digits)

/-- The sign of a number that may be negative. -/
def signOf (s : Spec) (negative : Bool) : String :=
  if negative then "-" else if s.plus then "+" else if s.space then " " else ""

/-- Digits with zeros up to the precision; zero has none where the precision is zero. -/
def precise (s : Spec) (digits : String) : String :=
  match s.precision with
  | some 0 => if digits = "0" then "" else digits
  | some n => Floating.zeroFilled n digits
  | none => digits

/-- A whole number as a conversion letter asks for it. -/
def integer (s : Spec) (letter : Char) (x : Int) : String :=
  let unsigned : Nat := (x % (Nat.pow 2 64 : Nat)).toNat
  match letter with
  | 'd' | 'i' => s.number (s.signOf (x < 0)) (s.precise (Nat.repr x.natAbs)) s.precision.isNone
  | 'o' =>
    let digits := s.precise (digitsIn 8 unsigned)
    s.number "" (if s.alternate && !digits.startsWith "0" then "0" ++ digits else digits) s.precision.isNone
  | 'x' =>
    s.number (if s.alternate && unsigned ≠ 0 then "0x" else "") (s.precise (digitsIn 16 unsigned))
      s.precision.isNone
  | 'X' =>
    s.number (if s.alternate && unsigned ≠ 0 then "0X" else "")
      (s.precise (uppered (digitsIn 16 unsigned))) s.precision.isNone
  | _ => s.number "" (s.precise (Nat.repr unsigned)) s.precision.isNone

/-- A floating number as a conversion letter asks for it. -/
def floating (s : Spec) (letter : Char) (x : Floating) : String :=
  let digits := x.digits letter s.precision s.alternate
  let digits := if isUpper letter then uppered digits else digits
  let isFinite := match x with
    | .finite _ _ _ => true
    | _ => false
  let sign := s.signOf x.isNegative
  if lowerOf letter = 'a' && isFinite then s.number (sign ++ takeText 2 digits) (dropText 2 digits) true
  else s.number sign digits isFinite

end Spec

/-! ## Reading formats -/

/-- A part of a format.  A width or precision may be left to an argument. -/
inductive FormatPart where
  | text (s : String)
  | stop
  | conversion (spec : Spec) (widthGiven precisionGiven : Bool) (letter : Char) (source : String)
  | time (spec : Spec) (format : String)
  | missing (source : String)
deriving Repr, Inhabited

def takeFlags (spec : Spec) : List Char → Spec × List Char
  | '-' :: rest => takeFlags { spec with left := true } rest
  | '+' :: rest => takeFlags { spec with plus := true } rest
  | ' ' :: rest => takeFlags { spec with space := true } rest
  | '#' :: rest => takeFlags { spec with alternate := true } rest
  | '0' :: rest => takeFlags { spec with zero := true } rest
  | '\'' :: rest => takeFlags spec rest
  | rest => (spec, rest)

/-- The head of a conversion: what is set, and what is left to arguments. -/
structure ConversionHead where
  spec : Spec
  widthGiven : Bool
  precisionGiven : Bool
  rest : List Char

/-- Reads what stands between a percent sign and the letter of a conversion. -/
def takeConversionHead (cs : List Char) : ConversionHead :=
  let (spec, cs) := takeFlags {} cs
  let (spec, widthGiven, cs) : Spec × Bool × List Char := match cs with
    | '*' :: rest => (spec, true, rest)
    | cs =>
      let digits := cs.takeWhile isDigit
      ({ spec with width := (numberIn? 10 digits).getD 0 }, false, cs.drop digits.length)
  let (spec, precisionGiven, cs) : Spec × Bool × List Char := match cs with
    | '.' :: '*' :: rest => (spec, true, rest)
    | '.' :: rest =>
      let digits := rest.takeWhile isDigit
      ({ spec with precision := some ((numberIn? 10 digits).getD 0) }, false, rest.drop digits.length)
    | cs => (spec, false, cs)
  ⟨spec, widthGiven, precisionGiven, cs⟩

/-- Reads the parts of a format.  Every step takes a character, so the length of the text
bounds the steps. -/
def readFormat (escapes : EscapeStyle) : Nat → List Char → List FormatPart
  | 0, _ => []
  | n + 1, cs =>
    match cs with
    | [] => []
    | '\\' :: rest =>
      match escapeSequence escapes rest with
      | none => [.stop]
      | some (s, rest, _) => .text s :: readFormat escapes n rest
    | '%' :: '%' :: rest => .text "%" :: readFormat escapes n rest
    | '%' :: rest =>
      let head := takeConversionHead rest
      let upTo (after : List Char) : String :=
        String.ofList ('%' :: rest.take (rest.length - after.length))
      match head.rest with
      | '(' :: inside =>
        let format := inside.takeWhile (· != ')')
        match inside.drop format.length with
        | ')' :: 'T' :: after => .time head.spec (String.ofList format) :: readFormat escapes n after
        | _ => [.missing (upTo head.rest)]
      | after =>
        match after.dropWhile fun c => "hjlLtz".toList.contains c with
        | [] => [.missing (upTo after)]
        | letter :: after =>
          .conversion head.spec head.widthGiven head.precisionGiven letter (upTo after) ::
            readFormat escapes n after
    | c :: rest =>
      let run := (c :: rest).takeWhile fun d => d != '\\' && d != '%'
      .text (String.ofList run) :: readFormat escapes n ((c :: rest).drop run.length)

/-! ## Printing -/

/-- Who prints: the command of the large language, that of the small one, or the program
of its own. -/
inductive PrinterKind where
  | large
  | small
  | alone
deriving DecidableEq, Repr

/-- What printing comes to: the text, what is wrong, and whether it came to its end. -/
structure Printing where
  arguments : List String
  text : String := ""
  reports : List String := []
  failed : Bool := false
  finished : Bool := false
  consumed : Bool := false

namespace Printing

def next (p : Printing) : Option String × Printing :=
  match p.arguments with
  | [] => (none, { p with consumed := true })
  | a :: rest => (some a, { p with arguments := rest, consumed := true })

def push (p : Printing) (s : String) : Printing :=
  { p with text := p.text ++ s }

/-- Adds a report about an argument. -/
def blame (p : Printing) (report : String) : Printing :=
  { p with reports := p.reports ++ [report], failed := true }

end Printing

/-- Reads a whole number in the notation of programs: its value, and what is behind it;
none if there are no digits. -/
def readInteger (s : String) : Option (Int × List Char) :=
  let cs := s.toList.dropWhile isSpace
  let (negative, cs) := match cs with
    | '-' :: rest => (true, rest)
    | '+' :: rest => (false, rest)
    | rest => (false, rest)
  let finish (base : Nat) (cs : List Char) : Option (Int × List Char) :=
    let digits := cs.takeWhile fun c => (digitValue? c).any (· < base)
    (numberIn? base digits).map fun n => (if negative then -(n : Int) else n, cs.drop digits.length)
  match cs with
  | '0' :: x :: rest =>
    if x = 'x' ∨ x = 'X' then
      match finish 16 rest with
      | some r => some r
      | none => some (0, x :: rest)
    else finish 8 cs
  | cs => finish 10 cs

/-- How a number that is none is reported. -/
def invalidNumber (kind : PrinterKind) (s : String) (started : Bool) : String :=
  match kind with
  | .large =>
    if s.startsWith "0x" || s.startsWith "0X" then s ++ ": invalid hex number"
    else if s.startsWith "0" && s.length > 1 && !(s.toList.any fun c => c == '.') then s ++ ": invalid octal number"
    else s ++ ": invalid number"
  | .small => s ++ (if started then ": not completely converted" else ": expected numeric value")
  | .alone =>
    "'" ++ s ++ "'" ++ (if started then ": value not completely converted" else ": expected a numeric value")

/-- The character whose number a quoted argument stands for. -/
def quotedCharacter? (s : String) : Option Nat :=
  match s.toList with
  | '\'' :: c :: _ | '"' :: c :: _ => some c.toNat
  | ['\''] | ['"'] => some 0
  | _ => none

/-- The whole number of an argument. -/
def takeInteger (kind : PrinterKind) (p : Printing) : Int × Printing :=
  match p.next with
  | (none, p) => (0, p)
  | (some s, p) =>
    match quotedCharacter? s with
    | some n => (n, p)
    | none =>
      match readInteger s with
      | none => if s.isEmpty && kind = .large then (0, p) else (0, p.blame (invalidNumber kind s false))
      | some (x, rest) =>
        let p := if rest.isEmpty then p else p.blame (invalidNumber kind s true)
        let highest : Int := (Nat.pow 2 63 : Nat)
        if highest ≤ x ∨ x < -highest then
          let report := match kind with
            | .large => "warning: " ++ s ++ ": Numerical result out of range"
            | _ => s ++ ": Numerical result out of range"
          let p := if kind = .large then { p with reports := p.reports ++ [report] } else p.blame report
          (if x < 0 then -highest else highest - 1, p)
        else (x, p)

def takeFloating (kind : PrinterKind) (p : Printing) : Floating × Printing :=
  match p.next with
  | (none, p) => (.ofInt 0, p)
  | (some s, p) =>
    match quotedCharacter? s with
    | some n => (.ofInt n, p)
    | none =>
      let bits := if kind = .small then Floating.usualBits else Floating.wideBits
      let (x, rest) := Floating.read bits s.toList
      if rest.isEmpty then (x, p)
      else (x, p.blame (invalidNumber kind s (rest.length < s.length)))

def printConversion (kind : PrinterKind) (spec : Spec) (letter : Char) (source : String)
    (p : Printing) : Printing :=
  if "diouxX".toList.contains letter then
    let (x, p) := takeInteger kind p
    p.push (spec.integer letter x)
  else if "eEfFgGaA".toList.contains letter then
    let (x, p) := takeFloating kind p
    p.push (spec.floating letter x)
  else
    let (a, q) := p.next
    let s := a.getD ""
    match letter with
    | 's' => q.push (spec.text s)
    | 'c' => q.push (spec.pad (if s.isEmpty then (if a.isSome then "\x00" else "") else takeText 1 s))
    | 'b' =>
      let u := unescape .argument s
      let q := q.push (spec.text u.text)
      if u.stopped then { q with finished := true } else q
    | 'q' | 'Q' =>
      if kind = .small then { p.blame (source ++ ": invalid directive") with finished := true }
      else q.push (spec.text (backslashed s))
    | 'n' => if kind = .large then q else { p.blame (source ++ ": invalid directive") with finished := true }
    | _ =>
      let report := match kind with
        | .large => "\x60" ++ String.singleton letter ++ "': invalid format character"
        | .small => source ++ ": invalid directive"
        | .alone => source ++ ": invalid conversion specification"
      { p.blame report with finished := true }

def printPart (kind : PrinterKind) (now : Int) (p : Printing) (part : FormatPart) : Printing :=
  if p.finished then p
  else match part with
  | .text s => p.push s
  | .stop => { p with finished := true }
  | .missing source =>
    let report := match kind with
      | .large => "\x60" ++ source ++ "': missing format character"
      | .small => source ++ ": missing format character"
      | .alone => source ++ ": invalid conversion specification"
    { p.blame report with finished := true }
  | .time spec format =>
    let (a, q) := p.next
    let seconds := match a.map (fun s => (integerOf? s).getD 0) with
      | none | some (-1) | some (-2) => now
      | some n => n
    q.push (spec.text ((Moment.ofSeconds seconds).shown 0
      (if format.isEmpty then "%X".toList else format.toList)))
  | .conversion spec widthGiven precisionGiven letter source =>
    let (spec, p) := if widthGiven then
        let (w, p) := takeInteger kind p
        ({ spec with width := w.natAbs, left := spec.left || w < 0 }, p)
      else (spec, p)
    let (spec, p) := if precisionGiven then
        let (n, p) := takeInteger kind p
        ({ spec with precision := if n < 0 then none else some n.toNat }, p)
      else (spec, p)
    printConversion kind spec letter source p

/-- Prints a format again and again until its arguments are used up. -/
def printRounds (kind : PrinterKind) (now : Int) (parts : List FormatPart) : Nat → Printing → Printing
  | 0, p => p
  | n + 1, p =>
    let p := parts.foldl (printPart kind now) { p with consumed := false }
    if p.finished || p.arguments.isEmpty || !p.consumed then p else printRounds kind now parts n p

def printed (kind : PrinterKind) (now : Int) (format : String) (arguments : List String) : Printing :=
  let escapes := if kind = .small then EscapeStyle.smallFormat else .format
  printRounds kind now (readFormat escapes (format.length + 1) format.toList) (arguments.length + 1)
    { arguments := arguments }

end SpeechConfig.Shell
