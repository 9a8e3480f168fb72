/-
# Backslash sequences

The sequences that `echo`, `printf` and dollar quotes resolve.  They share most of their
letters and differ in how octal numbers are spelt and in a few more.
-/
import SpeechConfig.Shell.Octets

namespace SpeechConfig.Shell

/-- Which sequences are known.  `leadingZero` says that an octal number may have, or must
have, a zero in front of its three digits. -/
structure EscapeStyle where
  octal : Bool
  zeroOctal : Bool
  hexadecimal : Bool
  stops : Bool
  quotes : Bool
  controls : Bool
deriving DecidableEq, Repr

namespace EscapeStyle

/-- The sequences of `echo`. -/
def echo : EscapeStyle := ⟨false, true, true, true, false, false⟩

/-- The sequences of texts that `printf` is told to resolve. -/
def argument : EscapeStyle := ⟨true, true, true, true, false, false⟩

/-- The sequences of the format of `printf`. -/
def format : EscapeStyle := ⟨true, false, true, false, true, false⟩

/-- The sequences of dollar quotes. -/
def dollar : EscapeStyle := ⟨true, false, true, false, true, true⟩

/-- The sequences of `echo` in the small language. -/
def smallEcho : EscapeStyle := ⟨true, true, false, true, false, false⟩

/-- The sequences of the format of `printf` in the small language. -/
def smallFormat : EscapeStyle := ⟨true, false, false, false, true, false⟩

end EscapeStyle

/-- What became of a text: its octets, whether it stopped early, and whether a number
lacked its digits. -/
structure Unescaped where
  text : String
  stopped : Bool
  lacksDigits : Bool

/-- At most `n` digits of a base from the front of a text: their value, how many they are,
and what is behind them. -/
def takeDigits (base n : Nat) (cs : List Char) : Nat × Nat × List Char :=
  match n, cs with
  | n + 1, c :: rest =>
    match digitValue? c with
    | some d =>
      if d < base then
        let (value, count, left) := takeDigits base n rest
        (d * Nat.pow base count + value, count + 1, left)
      else (0, 0, cs)
    | none => (0, 0, cs)
  | _, _ => (0, 0, cs)

/-- The octet of a number, and no more of it than fits. -/
def octet (n : Nat) : String :=
  String.singleton (Char.ofNat (n % 256))

/-- A code point as octets; outside ASCII its number is shown. -/
def codePoint (letter : Char) (n : Nat) : String :=
  if n < 128 then octet n
  else
    let digits := (digitsIn 16 n).map upperOf
    let width := if n < 65536 then 4 else 8
    String.ofList ['\\', if width = 4 then 'u' else letter] ++
      String.ofList (List.replicate (width - digits.length) '0') ++ digits

/-- What the characters behind a backslash stand for, and what is behind them; none stops
the text.  The flag says that a number lacks its digits. -/
def escapeSequence (style : EscapeStyle) (cs : List Char) : Option (String × List Char × Bool) :=
  match cs with
  | [] => some ("\\", [], false)
  | c :: rest =>
    let plain : Option (String × List Char × Bool) := some (String.ofList ['\\', c], rest, false)
    let numbered (base n : Nat) (source : List Char) (make : Nat → String) :
        Option (String × List Char × Bool) :=
      let (value, count, left) := takeDigits base n source
      if count = 0 then some (String.ofList ['\\', c], rest, true)
      else some (make value, left, false)
    match c with
    | 'a' => some (octet 7, rest, false)
    | 'b' => some (octet 8, rest, false)
    | 'e' => some (octet 27, rest, false)
    | 'f' => some (octet 12, rest, false)
    | 'n' => some (octet 10, rest, false)
    | 'r' => some (octet 13, rest, false)
    | 't' => some (octet 9, rest, false)
    | 'v' => some (octet 11, rest, false)
    | '\\' => some ("\\", rest, false)
    | 'E' => if style.hexadecimal then some (octet 27, rest, false) else plain
    | '\'' | '"' | '?' => if style.quotes then some (String.singleton c, rest, false) else plain
    | 'c' =>
      if style.stops then none
      else if style.controls then
        match rest with
        | d :: after => some (octet (if d = '?' then 127 else (upperOf d).toNat % 32), after, false)
        | [] => plain
      else plain
    | 'x' => if style.hexadecimal then numbered 16 2 rest octet else plain
    | 'u' => if style.hexadecimal then numbered 16 4 rest (codePoint 'u') else plain
    | 'U' => if style.hexadecimal then numbered 16 8 rest (codePoint 'U') else plain
    | '0' =>
      if style.zeroOctal then
        let (value, _, left) := takeDigits 8 3 rest
        some (octet value, left, false)
      else numbered 8 3 cs octet
    | _ =>
      if style.octal && '1' ≤ c && c ≤ '7' then numbered 8 3 cs octet
      else plain

/-- Resolves the sequences of a text.  Every step takes a character, so the length of the
text bounds the steps. -/
def unescapeFrom (style : EscapeStyle) : Nat → List Char → Unescaped
  | 0, _ => ⟨"", false, false⟩
  | n + 1, cs =>
    match cs with
    | [] => ⟨"", false, false⟩
    | '\\' :: rest =>
      match escapeSequence style rest with
      | none => ⟨"", true, false⟩
      | some (s, rest, lacks) =>
        let more := unescapeFrom style n rest
        ⟨s ++ more.text, more.stopped, lacks || more.lacksDigits⟩
    | c :: rest =>
      let run := (c :: rest).takeWhile (· != '\\')
      let more := unescapeFrom style n ((c :: rest).drop run.length)
      ⟨String.ofList run ++ more.text, more.stopped, more.lacksDigits⟩

/-- Resolves the sequences of a text. -/
def unescape (style : EscapeStyle) (s : String) : Unescaped :=
  unescapeFrom style (s.length + 1) s.toList

/-- What `echo` writes.  Leading words of the letters `n`, `e` and `E` are flags. -/
def echoed (escapes : Bool) (args : List String) : String :=
  let isFlag (a : String) : Bool :=
    match a.toList with
    | '-' :: f :: fs => (f :: fs).all fun c => c == 'n' || c == 'e' || c == 'E'
    | _ => false
  let flags := args.takeWhile isFlag
  let letters := flags.flatMap fun a => a.toList.drop 1
  let escapes := letters.foldl (fun on c => if c = 'e' then true else if c = 'E' then false else on) escapes
  let line := " ".intercalate (args.drop flags.length)
  let ended := if letters.contains 'n' then "" else "\n"
  if escapes then
    let u := unescape .echo line
    if u.stopped then u.text else u.text ++ ended
  else line ++ ended

/-- What `echo` writes in the small language, where only a first word `-n` is a flag. -/
def smallEchoed (args : List String) : String :=
  let (silent, args) := match args with
    | "-n" :: rest => (true, rest)
    | rest => (false, rest)
  let u := unescape .smallEcho (" ".intercalate args)
  if u.stopped || silent then u.text else u.text ++ "\n"

end SpeechConfig.Shell
