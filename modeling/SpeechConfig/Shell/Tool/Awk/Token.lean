/-
# Tokens of programs for records
-/
import SpeechConfig.Shell.Tool.Awk.Syntax
import SpeechConfig.Shell.Floating

namespace SpeechConfig.Shell.Awk

inductive Token where
  | number (x : Float)
  | text (s : String)
  | regex (s : String)
  | name (s : String)
  | called (s : String)
  | standard (s : String)
  | word (s : String)
  | sign (s : String)
  | newline
  | finish
deriving Inhabited

namespace Token

def shown : Token → String
  | number _ => "number"
  | text s => "\"" ++ s ++ "\""
  | regex s => "/" ++ s ++ "/"
  | name s | called s | standard s | word s | sign s => s
  | newline => "end of line"
  | finish => "end of file"

/-- Whether a value may end with the token, so that a slash behind it divides. -/
def endsValue : Token → Bool
  | number _ | text _ | regex _ | name _ | standard _ => true
  | sign s => s == ")" || s == "]" || s == "$" || s == "++" || s == "--"
  | _ => false

end Token

/-- A token with the number of its line. -/
structure Placed where
  token : Token
  line : Nat
deriving Inhabited

def words : List String :=
  ["BEGIN", "END", "function", "func", "if", "else", "while", "for", "do", "break", "continue", "next",
    "nextfile", "exit", "return", "delete", "in", "getline", "print", "printf"]

/-- The functions that every program has. -/
def standardNames : List String :=
  ["length", "substr", "index", "split", "sub", "gsub", "match", "sprintf", "sin", "cos", "atan2", "exp",
    "log", "sqrt", "int", "rand", "srand", "tolower", "toupper", "system", "close", "fflush", "toupper",
    "mktime", "strftime", "systime"]

/-- The number that a text begins with, and what is behind it. -/
def readNumber (cs : List Char) : Option (Float × List Char) :=
  let whole := cs.takeWhile isDigit
  let rest := cs.drop whole.length
  let (part, rest) := match rest with
    | '.' :: more => (more.takeWhile isDigit, more.dropWhile isDigit)
    | _ => ([], rest)
  if whole.isEmpty && part.isEmpty then none
  else
    let mantissa := (numberIn? 10 (whole ++ part)).getD 0
    let (power, rest) : Int × List Char :=
      match rest with
      | e :: more =>
        if e = 'e' || e = 'E' then
          let (negative, digits) := match more with
            | '-' :: ds => (true, ds)
            | '+' :: ds => (false, ds)
            | ds => (false, ds)
          let run := digits.takeWhile isDigit
          match numberIn? 10 run with
          | some n =>
            let n := min n 100000
            (if negative then -(n : Int) else n, digits.drop run.length)
          | none => (0, rest)
        else (0, rest)
      | [] => (0, rest)
    let exponent := power - part.length
    some (Float.ofScientific mantissa (exponent < 0) exponent.natAbs, rest)

/-- A text in quotes with its escapes resolved. -/
def unescaped : Nat → List Char → List Char
  | 0, _ => []
  | n + 1, cs =>
    match cs with
    | [] => []
    | '\\' :: rest =>
      match rest with
      | [] => ['\\']
      | c :: after =>
        match c with
        | 'n' => '\n' :: unescaped n after
        | 't' => '\t' :: unescaped n after
        | 'r' => '\r' :: unescaped n after
        | '\\' => '\\' :: unescaped n after
        | '"' => '"' :: unescaped n after
        | 'a' => Char.ofNat 7 :: unescaped n after
        | 'b' => Char.ofNat 8 :: unescaped n after
        | 'f' => Char.ofNat 12 :: unescaped n after
        | 'v' => Char.ofNat 11 :: unescaped n after
        | '\n' => unescaped n after
        | c =>
          let digits := (rest.take 3).takeWhile fun d => '0' ≤ d && d ≤ '7'
          let hexDigits := if c = 'x' then (after.take 2).takeWhile isHexDigit else []
          if !hexDigits.isEmpty then
            Char.ofNat ((numberIn? 16 hexDigits).getD 0) :: unescaped n (after.drop hexDigits.length)
          else if digits.isEmpty then '\\' :: c :: unescaped n after
          else Char.ofNat (((numberIn? 8 digits).getD 0) % 256) :: unescaped n (rest.drop digits.length)
    | c :: rest => c :: unescaped n rest

/-- What is before a delimiter that no backslash protects, and what is behind it. -/
def upTo (delimiter : Char) : Nat → List Char → List Char → Option (List Char × List Char)
  | 0, _, _ => none
  | n + 1, taken, cs =>
    match cs with
    | [] => none
    | '\\' :: c :: rest => upTo delimiter n (c :: '\\' :: taken) rest
    | c :: rest =>
      if c = delimiter then some (taken.reverse, rest)
      else if c = '\n' then none
      else upTo delimiter n (c :: taken) rest

def signs : List String :=
  ["**=", "+=", "-=", "*=", "/=", "%=", "^=", "**", "==", "<=", ">=", "!=", "!~", "&&", "||", "++", "--", ">>",
    "+", "-", "*", "/", "%", "^", "=", "<", ">", "!", "~", "?", ":", ",", ";", "(", ")", "[", "]", "\x7b", "\x7d",
    "$", "|"]

/-- Reads the tokens of a program, the last one first.  Faults are reports. -/
def tokensFrom : Nat → Nat → List Placed → List Char → Except String (List Placed)
  | 0, line, acc, _ => .ok (⟨.finish, line⟩ :: acc)
  | n + 1, line, acc, cs =>
    let push (t : Token) (rest : List Char) : Except String (List Placed) := tokensFrom n line (⟨t, line⟩ :: acc) rest
    match cs with
    | [] => .ok (⟨.finish, line + 1⟩ :: acc)
    | '\n' :: rest => tokensFrom n (line + 1) (⟨.newline, line⟩ :: acc) rest
    | '\\' :: '\n' :: rest => tokensFrom n (line + 1) acc rest
    | '#' :: rest => tokensFrom n line acc (rest.dropWhile (· != '\n'))
    | '"' :: rest =>
      match upTo '"' (rest.length + 1) [] rest with
      | some (inside, after) => push (.text (String.ofList (unescaped (inside.length + 1) inside))) after
      | none =>
        .error ("line " ++ Nat.repr line ++ ": runaway string constant \"" ++
          String.ofList ((rest.takeWhile (· != '\n')).take 10) ++ " ...")
    | c :: rest =>
      if c = ' ' || c = '\t' || c = '\r' then tokensFrom n line acc rest
      else if isDigit c || (c = '.' && rest.head?.any isDigit) then
        match readNumber cs with
        | some (x, after) => push (.number x) after
        | none => push (.number 0) rest
      else if isAlpha c || c = '_' then
        let name := cs.takeWhile fun c => isAlnum c || c == '_'
        let after := cs.drop name.length
        let s := String.ofList name
        if words.contains s then push (.word (if s = "func" then "function" else s)) after
        else if standardNames.contains s then push (.standard s) after
        else if after.head? = some '(' then push (.called s) after
        else push (.name s) after
      else if c = '/' && !(acc.head?.any fun p => p.token.endsValue) then
        match upTo '/' (rest.length + 1) [] rest with
        | some (inside, after) => push (.regex (String.ofList inside)) after
        | none =>
          .error ("line " ++ Nat.repr line ++ ": runaway regular expression /" ++
            String.ofList ((rest.takeWhile (· != '\n')).take 10) ++ " ...")
      else if c = '&' && rest.head? ≠ some '&' then
        .error (Nat.repr line ++ ": unexpected character '&'")
      else
        match signs.find? fun s => s.toList.isPrefixOf cs with
        | some s => push (.sign s) (cs.drop s.length)
        | none => .error (Nat.repr line ++ ": unexpected character '" ++ String.singleton c ++ "'")

def tokensOf (s : String) : Except String (List Placed) :=
  (tokensFrom (s.length + 1) 1 [] s.toList).map List.reverse

end SpeechConfig.Shell.Awk
