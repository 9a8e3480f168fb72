/-
# Edit scripts

A script for editing a text line by line is a row of steps, each with the lines that it is
for.  It is read from expressions and files; braces and labels become places in the row.
-/
import SpeechConfig.Shell.Regex.Read

namespace SpeechConfig.Shell.Tool

/-! ## Scripts -/

/-- A pattern of a script: an expression, or the one that was used last. -/
structure EditPattern where
  regex : Option Regex
  ignoreCase : Bool := false
  lines : Bool := false
deriving Inhabited

/-- The lines at which a step begins to count. -/
inductive EditPlace where
  | line (n : Nat)
  | stepped (first step : Nat)
  | last
  | matching (p : EditPattern)
deriving Inhabited

/-- The line up to which a step counts. -/
inductive EditEnd where
  | place (p : EditPlace)
  | further (n : Nat)
  | multiple (n : Nat)
deriving Inhabited

/-- How letters are changed where a match is replaced. -/
inductive Casing where
  | plain
  | upper
  | lower
  | nextUpper
  | nextLower
deriving DecidableEq, Repr, Inhabited

/-- A piece of what replaces a match. -/
inductive Replacement where
  | text (s : String)
  | group (n : Nat)
  | casing (c : Casing)
deriving Repr, Inhabited

/-- A replacement of matches: which match is the first, whether all behind it are replaced
too, and what becomes of the result. -/
structure Substitution where
  pattern : EditPattern
  pieces : List Replacement
  number : Nat := 1
  all : Bool := false
  shows : Nat := 0
  runs : Bool := false
  file : Option String := none
deriving Inhabited

/-- Where lines are jumped to in a script: a label, or a place in the row of steps. -/
inductive JumpGoal where
  | label (name : String)
  | place (n : Nat)
deriving Inhabited

inductive JumpWhen where
  | always
  | changed
  | unchanged
deriving DecidableEq, Repr, Inhabited

inductive EditAction where
  | opening (stop : Nat)
  | nothing
  | number
  | append (text : String)
  | insert (text : String)
  | change (text : String)
  | jump (kind : JumpWhen) (goal : JumpGoal)
  | delete
  | deleteFirst
  | runText (command : Option String)
  | fileName
  | get (adds : Bool)
  | hold (adds : Bool)
  | exchange
  | list (width : Option Nat)
  | next
  | nextAdded
  | print
  | printFirst
  | quit (status : Nat) (silent : Bool)
  | readFile (path : String)
  | readLine (path : String)
  | substitute (s : Substitution)
  | write (path : String) (firstOnly : Bool)
  | translate (table : List (Char × Char))
  | clear
deriving Inhabited

structure EditStep where
  first : Option EditPlace := none
  last : Option EditEnd := none
  negated : Bool := false
  action : EditAction := .nothing
deriving Inhabited

/-! ## Reading -/

/-- Where a part of a script comes from. -/
inductive EditOrigin where
  | expression (n : Nat)
  | file (name : String)
deriving DecidableEq, Repr, Inhabited

/-- A script that is being read: what is left of a part and how much of it was taken, the
steps, the open braces with their places and parts, the labels, the files that are written
to, and a text that goes on in the next part. -/
structure EditDraft where
  origin : EditOrigin := .expression 1
  isFirst : Bool := true
  extended : Bool := false
  rest : List Char := []
  taken : Nat := 0
  line : Nat := 1
  steps : Array EditStep := #[]
  blocks : List (Nat × EditOrigin × Nat) := []
  labels : List (String × Nat) := []
  files : List String := []
  pending : Option Nat := none
  silent : Bool := false
deriving Inhabited

/-- A reader of edit scripts; its faults are reports. -/
abbrev EditRead (α : Type) := StateT EditDraft (Except String) α

/-- The place of a fault in front of it. -/
def EditOrigin.report (o : EditOrigin) (taken line : Nat) (message : String) : String :=
  match o with
  | .expression n => "-e expression #" ++ Nat.repr n ++ ", char " ++ Nat.repr taken ++ ": " ++ message
  | .file name => "file " ++ name ++ " line " ++ Nat.repr line ++ ": " ++ message

namespace EditRead

def fail {α : Type} (message : String) : EditRead α := do
  let d ← get
  throw (d.origin.report d.taken d.line message)

def next : EditRead (Option Char) := do
  let d ← get
  match d.rest with
  | [] => return none
  | c :: rest =>
    set { d with rest := rest, taken := d.taken + 1, line := if c = '\n' then d.line + 1 else d.line }
    return some c

/-- The next character, which is not taken. -/
def peek : EditRead (Option Char) := do
  return (← get).rest.head?

/-- Takes characters as long as they pass a test. -/
def takeWhile (p : Char → Bool) : EditRead (List Char) := do
  let d ← get
  let cs := d.rest.takeWhile p
  set { d with
    rest := d.rest.drop cs.length
    taken := d.taken + cs.length
    line := d.line + (cs.filter (· == '\n')).length }
  return cs

def nextBehindBlanks : EditRead (Option Char) := do
  let _ ← takeWhile isBlank
  next

/-- The next character behind blanks, which is not taken. -/
def peekBehindBlanks : EditRead (Option Char) := do
  let _ ← takeWhile isBlank
  peek

/-- Takes a number; no digits are zero. -/
def number : EditRead Nat := do
  let digits ← takeWhile isDigit
  return (numberIn? 10 digits).getD 0

/-- Takes the end of a step. -/
def finish : EditRead Unit := do
  match ← peekBehindBlanks with
  | none | some '\x7d' | some '#' => return ()
  | some c =>
    let _ ← next
    if c = '\n' || c = ';' then return () else fail "extra characters after command"

def label : EditRead String := do
  let _ ← takeWhile isBlank
  return String.ofList (← takeWhile fun c => !isSpace c && c != ';' && c != '\x7d')

/-- Takes the name of a file up to the end of the line. -/
def fileName : EditRead String := do
  let _ ← takeWhile isBlank
  let name ← takeWhile (· != '\n')
  let _ ← next
  if name.isEmpty then fail "missing filename in r/R/w/W commands"
  return String.ofList name

/-- Where a reader of an expression is with regard to brackets: outside, behind the opening
one, behind a caret there, inside, or in an inner pair, at whose mark it may be. -/
inductive Bracketing where
  | outside
  | opened
  | negated
  | inside
  | inner (mark : Char) (atMark : Bool)
  | maybeInner
deriving DecidableEq, Repr

def Bracketing.after (b : Bracketing) (c : Char) : Bracketing :=
  match b with
  | .outside => if c = '[' then .opened else .outside
  | .opened => if c = '^' then .negated else if c = '[' then .maybeInner else .inside
  | .negated => if c = '[' then .maybeInner else .inside
  | .inside => if c = ']' then .outside else if c = '[' then .maybeInner else .inside
  | .maybeInner =>
    if c = ':' || c = '.' || c = '=' then .inner c false
    else if c = ']' then .outside
    else if c = '[' then .maybeInner else .inside
  | .inner mark atMark => if atMark && c = ']' then .inside else .inner mark (c == mark)

/-- Takes what is between delimiters, up to the second of them; none if it does not come.
In an expression `\n` is a line end, and a delimiter in brackets is one of the characters. -/
def delimited (delimiter : Char) (isRegex : Bool) : EditRead (Option String) := do
  let rec go : Nat → Bracketing → List Char → EditRead (Option String)
    | 0, _, _ => return none
    | n + 1, b, taken => do
      match ← peek with
      | none | some '\n' => return none
      | some c =>
        let _ ← next
        if c = delimiter && b == .outside then return some (String.ofList taken.reverse)
        else if c = '\\' then
          match ← next with
          | none => return none
          | some e =>
            let b := if b == .outside || !isRegex then b else b.after e
            if e = 'n' && isRegex then go n b ('\n' :: taken)
            else if e = '\n' then go n b (if isRegex then e :: taken else e :: '\\' :: taken)
            else if e = delimiter && (isRegex || e ≠ '&') then go n b (e :: taken)
            else go n b (e :: '\\' :: taken)
        else go n (if isRegex then b.after c else b) (c :: taken)
  let d ← get
  go (d.rest.length + 1) .outside []

end EditRead

/-! ## Escapes -/

/-- The octet that a backslash with a number or a control letter spells, and what is behind
it. -/
def numberedEscape? (cs : List Char) : Option (Char × List Char) :=
  let numbered (base most : Nat) (rest : List Char) : Option (Char × List Char) :=
    let digits := (rest.take most).takeWhile fun c => (digitValue? c).any (· < base)
    if digits.isEmpty then none
    else some (Char.ofNat (((numberIn? base digits).getD 0) % 256), rest.drop digits.length)
  match cs with
  | 'd' :: rest => numbered 10 3 rest
  | 'o' :: rest => numbered 8 3 rest
  | 'x' :: rest => numbered 16 2 rest
  | 'c' :: c :: rest => some (Char.ofNat ((upperOf c).toNat ^^^ 64), rest)
  | 'a' :: rest => some (Char.ofNat 7, rest)
  | 'f' :: rest => some (Char.ofNat 12, rest)
  | 'r' :: rest => some ('\r', rest)
  | 't' :: rest => some ('\t', rest)
  | 'v' :: rest => some (Char.ofNat 11, rest)
  | _ => none

/-- An expression with its escapes for octets resolved. -/
def plainExpression : Nat → List Char → List Char
  | 0, _ => []
  | n + 1, cs =>
    match cs with
    | [] => []
    | '\\' :: rest =>
      match numberedEscape? rest with
      | some (c, after) => if c = '\\' then '\\' :: '\\' :: plainExpression n after else c :: plainExpression n after
      | none =>
        match rest with
        | c :: after => '\\' :: c :: plainExpression n after
        | [] => ['\\']
    | c :: rest => c :: plainExpression n rest

def plainText : Nat → List Char → List Char
  | 0, _ => []
  | n + 1, cs =>
    match cs with
    | [] => []
    | '\\' :: rest =>
      match numberedEscape? rest with
      | some (c, after) => c :: plainText n after
      | none =>
        match rest with
        | 'n' :: after => '\n' :: plainText n after
        | c :: after => c :: plainText n after
        | [] => []
    | c :: rest => c :: plainText n rest

/-- Adds a character to the text that ends a row of pieces. -/
def addReplacementChar (c : Char) : List Replacement → List Replacement
  | .text s :: rest => .text (s.push c) :: rest
  | rest => .text (String.singleton c) :: rest

/-- The pieces of a replacement, the last one first. -/
def replacementPieces : Nat → List Replacement → List Char → List Replacement
  | 0, acc, _ => acc
  | n + 1, acc, cs =>
    match cs with
    | [] => acc
    | '&' :: rest => replacementPieces n (.group 0 :: acc) rest
    | '\\' :: rest =>
      match rest with
      | 'n' :: after => replacementPieces n (addReplacementChar '\n' acc) after
      | 'U' :: after => replacementPieces n (.casing .upper :: acc) after
      | 'L' :: after => replacementPieces n (.casing .lower :: acc) after
      | 'E' :: after => replacementPieces n (.casing .plain :: acc) after
      | 'u' :: after => replacementPieces n (.casing .nextUpper :: acc) after
      | 'l' :: after => replacementPieces n (.casing .nextLower :: acc) after
      | c :: after =>
        if isDigit c then replacementPieces n (.group (c.toNat - 48) :: acc) after
        else match numberedEscape? rest with
          | some (e, after) => replacementPieces n (addReplacementChar e acc) after
          | none => replacementPieces n (addReplacementChar c acc) after
      | [] => addReplacementChar '\\' acc
    | c :: rest => replacementPieces n (addReplacementChar c acc) rest

def greatestGroup (pieces : List Replacement) : Nat :=
  pieces.foldl (fun m p => match p with
    | .group n => max m n
    | _ => m) 0

namespace EditRead

/-- The pattern that a text spells, which has to have some groups. -/
def pattern (text : String) (ignoreCase lines : Bool) (groups : Nat) : EditRead EditPattern := do
  if text.isEmpty then return { regex := none, ignoreCase := ignoreCase, lines := lines }
  else
    let style : RegexStyle :=
      { extended := (← get).extended, ignoreCase := ignoreCase, namesClasses := true }
    match Regex.ofText style (String.ofList (plainExpression (text.length + 1) text.toList)) with
    | .error .bareClass => throw RegexFault.bareClass.message
    | .error fault => fail fault.message
    | .ok (r, count) =>
      if count < groups then fail ("invalid reference \\" ++ Nat.repr groups ++ " on \x60s' command's RHS")
      else return { regex := some r, ignoreCase := ignoreCase, lines := lines }

/-- Takes the pattern of a place, behind its first delimiter. -/
def patternPlace (delimiter : Char) : EditRead EditPlace := do
  match ← delimited delimiter true with
  | none => fail "unterminated address regex"
  | some text =>
    let rec flags : Nat → Bool → Bool → EditRead EditPlace
      | 0, ignoreCase, lines => return .matching (← pattern text ignoreCase lines 0)
      | n + 1, ignoreCase, lines => do
        match ← peekBehindBlanks with
        | some 'I' =>
          let _ ← next
          flags n true lines
        | some 'M' =>
          let _ ← next
          flags n ignoreCase true
        | _ => return .matching (← pattern text ignoreCase lines 0)
    flags ((← get).rest.length + 1) false false

/-- Takes a place, if one comes. -/
def place? : EditRead (Option EditPlace) := do
  match ← peek with
  | some '/' =>
    let _ ← next
    return some (← patternPlace '/')
  | some '\\' =>
    let _ ← next
    match ← next with
    | some delimiter => return some (← patternPlace delimiter)
    | none => fail "unterminated address regex"
  | some '$' =>
    let _ ← next
    return some .last
  | some c =>
    if isDigit c then
      let first ← number
      match ← peekBehindBlanks with
      | some '~' =>
        let _ ← next
        let _ ← takeWhile isBlank
        let step ← number
        return some (if step = 0 then .line first else .stepped first step)
      | _ => return some (.line first)
    else return none
  | none => return none

/-- Takes the place where a range ends, if one comes. -/
def end? : EditRead (Option EditEnd) := do
  match ← peekBehindBlanks with
  | some '+' =>
    let _ ← next
    let _ ← takeWhile isBlank
    return some (.further (← number))
  | some '~' =>
    let _ ← next
    let _ ← takeWhile isBlank
    return some (.multiple (← number))
  | _ => return (← place?).map EditEnd.place

def registerFile (name : String) : EditRead Unit :=
  modify fun d => if d.files.contains name then d else { d with files := d.files ++ [name] }

/-- Takes the flags of a replacement; every step takes a character. -/
def substitutionFlags : Nat → Substitution → Bool → Bool → Bool →
    EditRead (Substitution × Bool × Bool)
  | 0, s, _, ignoreCase, lines => return (s, ignoreCase, lines)
  | n + 1, s, numbered, ignoreCase, lines => do
    let go (s : Substitution) : EditRead (Substitution × Bool × Bool) :=
      substitutionFlags n s numbered ignoreCase lines
    match ← peek with
    | none | some '\x7d' | some '#' => return (s, ignoreCase, lines)
    | some c =>
      if isDigit c then
        if numbered then
          let _ ← next
          fail "multiple number options to \x60s' command"
        else
          let k ← number
          if k = 0 then fail "number option to \x60s' command may not be zero"
          else substitutionFlags n { s with number := k } true ignoreCase lines
      else
        let _ ← next
        match c with
        | 'i' | 'I' => substitutionFlags n s numbered true lines
        | 'm' | 'M' => substitutionFlags n s numbered ignoreCase true
        | 'e' => go { s with runs := true }
        | 'p' =>
          if s.shows > 0 then fail "multiple \x60p' options to \x60s' command"
          else go { s with shows := if s.runs then 2 else 1 }
        | 'g' =>
          if s.all then fail "multiple \x60g' options to \x60s' command" else go { s with all := true }
        | 'w' =>
          let name ← fileName
          registerFile name
          return ({ s with file := some name }, ignoreCase, lines)
        | '\n' | ';' => return (s, ignoreCase, lines)
        | ' ' | '\t' => go s
        | '\r' =>
          if (← peek) = some '\n' then
            let _ ← next
            return (s, ignoreCase, lines)
          else fail "unknown option to \x60s'"
        | _ => fail "unknown option to \x60s'"

/-- Takes a replacement behind its letter. -/
def substitution : EditRead EditAction := do
  let unended {α : Type} : EditRead α := fail "unterminated \x60s' command"
  match ← next with
  | none => unended
  | some delimiter =>
    match ← delimited delimiter true with
    | none => unended
    | some text =>
      match ← delimited delimiter false with
      | none => unended
      | some new =>
        let pieces := (replacementPieces (new.length + 1) [] new.toList).reverse
        let (s, ignoreCase, lines) ← substitutionFlags ((← get).rest.length + 1)
          { pattern := { regex := none }, pieces := pieces } false false false
        let p ← pattern text ignoreCase lines (greatestGroup pieces)
        return .substitute { s with pattern := p }

/-- The characters that one side of a translation spells. -/
def translationChars : Nat → List Char → List Char
  | 0, _ => []
  | n + 1, cs =>
    match cs with
    | [] => []
    | '\\' :: rest =>
      match numberedEscape? rest, rest with
      | some (c, after), _ => c :: translationChars n after
      | none, 'n' :: after => '\n' :: translationChars n after
      | none, c :: after => c :: translationChars n after
      | none, [] => ['\\']
    | c :: rest => c :: translationChars n rest

/-- Takes a translation behind its letter. -/
def translation : EditRead EditAction := do
  let unended {α : Type} : EditRead α := fail "unterminated \x60y' command"
  match ← next with
  | none => unended
  | some delimiter =>
    match ← delimited delimiter false with
    | none => unended
    | some old =>
      match ← delimited delimiter false with
      | none => unended
      | some new =>
        let olds := translationChars (old.length + 1) old.toList
        let news := translationChars (new.length + 1) new.toList
        if olds.length ≠ news.length then fail "strings for \x60y' command are different lengths"
        else
          finish
          return .translate (olds.zip news)

/-- Takes a text up to the end of a line that no backslash protects; whether the part ended
behind a backslash. -/
def textLines : Nat → List Char → EditRead (String × Bool)
  | 0, taken => return (String.ofList taken.reverse, false)
  | n + 1, taken => do
    match ← next with
    | none | some '\n' => return (String.ofList taken.reverse, false)
    | some '\\' =>
      match ← next with
      | none => return (String.ofList taken.reverse, true)
      | some c => textLines n (c :: '\\' :: taken)
    | some c => textLines n (c :: taken)

/-- A text that was taken, with its escapes resolved and its line ended. -/
def finishedText (raw : String) : String :=
  String.ofList (plainText (raw.length + 1) raw.toList) ++ "\n"

/-- Takes the text of a step behind its letter. -/
def stepText : EditRead (String × Bool) := do
  let rest (front : List Char) : EditRead (String × Bool) := do
    let (raw, goesOn) ← textLines ((← get).rest.length + 1) front
    return (finishedText raw, goesOn)
  match ← peekBehindBlanks with
  | none => fail "expected \\ after \x60a', \x60c' or \x60i'"
  | some '\\' =>
    let _ ← next
    let blanks ← takeWhile isBlank
    match ← peek with
    | some '\n' =>
      let _ ← next
      rest []
    | none => return ("", true)
    | some _ => rest blanks.reverse
  | some _ => rest []

/-- Takes what a step does, behind its letter. -/
def action (letter : Char) : EditRead EditAction := do
  let plain (a : EditAction) : EditRead EditAction := do
    finish
    return a
  match letter with
  | '=' => plain .number
  | 'd' => plain .delete
  | 'D' => plain .deleteFirst
  | 'F' => plain .fileName
  | 'g' => plain (.get false)
  | 'G' => plain (.get true)
  | 'h' => plain (.hold false)
  | 'H' => plain (.hold true)
  | 'n' => plain .next
  | 'N' => plain .nextAdded
  | 'p' => plain .print
  | 'P' => plain .printFirst
  | 'x' => plain .exchange
  | 'z' => plain .clear
  | 'b' => return .jump .always (.label (← label))
  | 't' => return .jump .changed (.label (← label))
  | 'T' => return .jump .unchanged (.label (← label))
  | 'r' => return .readFile (← fileName)
  | 'R' => return .readLine (← fileName)
  | 'w' | 'W' =>
    let name ← fileName
    registerFile name
    return .write name (letter == 'W')
  | 's' => substitution
  | 'y' => translation
  | 'l' | 'L' | 'q' | 'Q' =>
    let c ← peekBehindBlanks
    let given ← if c.any isDigit then some <$> number else pure none
    finish
    return if letter = 'q' || letter = 'Q' then .quit (given.getD 0) (letter == 'Q') else .list given
  | 'e' =>
    match ← peekBehindBlanks with
    | none => return .runText none
    | some '\n' =>
      let _ ← next
      return .runText none
    | some _ =>
      let (raw, _) ← textLines ((← get).rest.length + 1) []
      return .runText (some raw)
  | c => fail ("unknown command: \x60" ++ String.singleton c ++ "'")

def push (s : EditStep) : EditRead Unit :=
  modify fun d => { d with steps := d.steps.push s }

/-- Whether a version is not newer than the tool. -/
def isOldVersion (s : String) : Bool :=
  match (splitAll '.' s).map fun part => numberIn? 10 part.toList with
  | some major :: rest => major < 4 || (major = 4 && ((rest.head?.join.getD 0) ≤ 9))
  | _ => s.isEmpty

/-- Takes a step, if one comes. -/
def step : EditRead Bool := do
  let _ ← takeWhile fun c => isSpace c || c == ';'
  if (← peek).isNone then return false
  let first ← place?
  if first.isNone && ((← peek) = some '+' || (← peek) = some '~') then
    let _ ← next
    let _ ← number
    fail "invalid usage of +N or ~N as first address"
  let last ← do
    match first, ← (if first.isSome then peekBehindBlanks else peek) with
    | some _, some ',' =>
      let _ ← next
      match ← end? with
      | some e => pure (some e)
      | none =>
        let _ ← next
        fail "unexpected \x60,'"
    | _, _ => pure none
  let letter ← if first.isSome then nextBehindBlanks else next
  match first, last with
  | some (.line 0), some (.place (.matching _)) => pure ()
  | some (.line 0), _ => fail "invalid usage of line address 0"
  | _, _ => pure ()
  let negated := letter == some '!'
  let letter ← if negated then nextBehindBlanks else pure letter
  if negated && letter = some '!' then fail "multiple \x60!'s"
  let base : EditStep := { first := first, last := last, negated := negated }
  match letter with
  | none => fail "missing command"
  | some '#' =>
    if first.isSome then fail "comments don't accept any addresses"
    let d ← get
    let _ ← takeWhile (· != '\n')
    if d.isFirst && d.taken = 1 && d.rest.head? == some 'n' then
      modify fun d => { d with silent := true }
    return true
  | some 'v' =>
    let version ← label
    if !isOldVersion version then fail "expected newer version of sed"
    return true
  | some ':' =>
    if first.isSome then fail ": doesn't want any addresses"
    let name ← label
    if name.isEmpty then fail "\":\" lacks a label"
    modify fun d => { d with labels := d.labels ++ [(name, d.steps.size)] }
    return true
  | some '\x7b' =>
    let d ← get
    set { d with blocks := (d.steps.size, d.origin, d.line) :: d.blocks }
    push { base with action := .opening 0 }
    return true
  | some '\x7d' =>
    match (← get).blocks with
    | [] => fail "unexpected \x60\x7d'"
    | (start, _) :: blocks =>
      if first.isSome then fail "\x7d doesn't want any addresses"
      finish
      modify fun d => { d with
        blocks := blocks
        steps := d.steps.modify start fun s => { s with action := .opening d.steps.size } }
      return true
  | some c =>
    if c = 'a' || c = 'i' || c = 'c' then
      let (text, goesOn) ← stepText
      let action : EditAction := if c = 'a' then .append text else if c = 'i' then .insert text else .change text
      let here := (← get).steps.size
      push { base with action := action }
      if goesOn then modify fun d => { d with pending := some here }
      return true
    else
      if last.isSome && (c = 'q' || c = 'Q') then fail "command only uses one address"
      push { base with action := ← action c }
      return true

/-- Takes steps up to the end of a part. -/
def steps : Nat → EditRead Unit
  | 0 => return ()
  | n + 1 => do
    if ← step then steps n else return ()

end EditRead

def EditStep.withMore (s : EditStep) (more : String) : EditStep :=
  match s.action with
  | .append text => { s with action := .append (text ++ more) }
  | .insert text => { s with action := .insert (text ++ more) }
  | .change text => { s with action := .change (text ++ more) }
  | _ => s

/-- Reads a part of a script behind others. -/
def readEditPart (origin : EditOrigin) (text : String) : EditRead Unit := do
  modify fun d => { d with origin := origin, rest := text.toList, taken := 0, line := 1 }
  if let some i := (← get).pending then
    modify fun d => { d with pending := none }
    let (raw, goesOn) ← EditRead.textLines (text.length + 1) []
    modify fun d => { d with
      steps := d.steps.modify i fun s => s.withMore (EditRead.finishedText raw)
      pending := if goesOn then some i else none }
  EditRead.steps (text.length + 1)
  modify fun d => { d with isFirst := false }

/-- The steps of a script with its labels resolved. -/
def EditDraft.resolved (d : EditDraft) : Except String (Array EditStep) :=
  match d.blocks.head? with
  | some (_, origin, line) => .error (origin.report 0 line "unmatched \x60\x7b'")
  | none =>
    d.steps.mapM fun s =>
      match s.action with
      | .jump kind (.label name) =>
        if name.isEmpty then .ok { s with action := .jump kind (.place d.steps.size) }
        else match d.labels.lookup name with
          | some i => .ok { s with action := .jump kind (.place i) }
          | none => .error ("can't find label for jump to \x60" ++ name ++ "'")
      | _ => .ok s

end SpeechConfig.Shell.Tool
