/-
# Reading regular expressions

Two spellings are known: the basic one, where a backslash makes parentheses and braces
special, and the extended one, where it takes their meaning away.
-/
import SpeechConfig.Shell.Regex.Basic

namespace SpeechConfig.Shell

/-- Why a text is no regular expression. -/
inductive RegexFault where
  | nothingInBrackets
  | openBrackets
  | openGroup
  | closedGroup
  | openBraces
  | badBraces
  | badRange
  | badClass
  | badElement
  | bareClass
  | badRepetition
  | badReference
  | trailingBackslash
  | tooBig
deriving DecidableEq, Repr

def RegexFault.message : RegexFault → String
  | .nothingInBrackets => "Invalid regular expression"
  | .openBrackets => "Unmatched [, [^, [:, [., or [="
  | .openGroup => "Unmatched ( or \\("
  | .closedGroup => "Unmatched ) or \\)"
  | .openBraces => "Unmatched \\\x7b"
  | .badBraces => "Invalid content of \\\x7b\\\x7d"
  | .badRange => "Invalid range end"
  | .badClass => "Invalid character class name"
  | .badElement => "Invalid collation character"
  | .bareClass => "character class syntax is [[:space:]], not [:space:]"
  | .badRepetition => "Invalid preceding regular expression"
  | .badReference => "Invalid back reference"
  | .trailingBackslash => "Trailing backslash"
  | .tooBig => "Regular expression too big"

/-- How expressions are spelt.  `strict` says that repetitions of nothing and braces without
numbers are faults, `looseClosers` that a parenthesis which closes nothing stands for itself,
`repeatsAgain` that what is repeated can be repeated again in the basic spelling, `escapesInSets` that a backslash protects
characters in brackets, and `namesClasses` that a class without its own brackets is a fault. -/
structure RegexStyle where
  extended : Bool
  ignoreCase : Bool := false
  strict : Bool := true
  looseClosers : Bool := false
  repeatsAgain : Bool := false
  escapesInSets : Bool := false
  namesClasses : Bool := false
  backReferences : Bool := true
  gnu : Bool := true
deriving DecidableEq, Repr

/-- An expression that is being read: what is left, how many groups were opened, which were
closed, and the repetitions of nothing, the last one first. -/
structure RegexDraft where
  rest : List Char
  count : Nat := 0
  closed : List Nat := []
  idle : List String := []
deriving Inhabited

abbrev RegexRead (α : Type) := StateT RegexDraft (Except RegexFault) α

def dropRegex (n : Nat) : RegexRead Unit :=
  modify fun d => { d with rest := d.rest.drop n }

/-- The set of one character in a style. -/
def RegexStyle.one (style : RegexStyle) (c : Char) : Regex :=
  .set (if style.ignoreCase then (OctetSet.single c).withBothCases else .single c)

inductive RegexToken where
  | finish
  | opening
  | closing
  | bar
  | star
  | plus
  | optional
  | brace
  | caret
  | dollar
  | any
  | bracket
  | char (c : Char)
  | escaped (c : Char)
  | trailing
deriving DecidableEq, Repr

/-- The token that a text begins with, and its length. -/
def RegexStyle.tokenOf (style : RegexStyle) (cs : List Char) : RegexToken × Nat :=
  let ordinary (c : Char) : RegexToken :=
    match c with
    | '*' => .star
    | '^' => .caret
    | '$' => .dollar
    | '.' => .any
    | '[' => .bracket
    | c => .char c
  let special (c : Char) : Option RegexToken :=
    match c with
    | '(' => some .opening
    | ')' => some .closing
    | '|' => some .bar
    | '+' => some .plus
    | '?' => some .optional
    | '\x7b' => some .brace
    | _ => none
  match cs with
  | [] => (.finish, 0)
  | '\\' :: c :: _ =>
    if style.extended then (.escaped c, 2)
    else match special c with
    | some t => (t, 2)
    | none => (.escaped c, 2)
  | ['\\'] => (.trailing, 1)
  | c :: _ =>
    if style.extended then
      match special c with
      | some t => (t, 1)
      | none => (ordinary c, 1)
    else (ordinary c, 1)

/-- The numbers of a repetition in braces, and how many characters they and the closing
brace take. -/
inductive Braces where
  | numbers (least : Nat) (most : Option Nat) (size : Nat)
  | unended
  | bad
deriving DecidableEq, Repr

def bracesOf (extended : Bool) (cs : List Char) : Braces :=
  let low := cs.takeWhile isDigit
  let after := cs.drop low.length
  let (comma, high, after) : Bool × List Char × List Char := match after with
    | ',' :: rest => (true, rest.takeWhile isDigit, rest.dropWhile isDigit)
    | rest => (false, [], rest)
  let size := low.length + (if comma then 1 else 0) + high.length
  let finish (closerSize : Nat) : Braces :=
    if low.isEmpty && !comma then .bad
    else
      let least := (numberIn? 10 low).getD 0
      let most := if !comma then some least else numberIn? 10 high
      .numbers least most (size + closerSize)
  match extended, after with
  | _, [] => .unended
  | true, '\x7d' :: _ => finish 1
  | false, '\\' :: '\x7d' :: _ => finish 2
  | false, ['\\'] => .unended
  | _, _ => .bad

/-- What a backslash and a character stand for where they are no operator. -/
def RegexStyle.escape (style : RegexStyle) (closed : List Nat) (c : Char) : Except RegexFault Regex :=
  let word := OctetSet.ofTest isWordChar
  let space := OctetSet.ofTest isSpace
  if style.gnu && c = 'w' then .ok (.set word)
  else if style.gnu && c = 'W' then .ok (.set word.complement)
  else if style.gnu && c = 's' then .ok (.set space)
  else if style.gnu && c = 'S' then .ok (.set space.complement)
  else if style.gnu && c = 'b' then .ok (.wordEdge false)
  else if style.gnu && c = 'B' then .ok (.wordEdge true)
  else if style.gnu && c = '<' then .ok .wordStart
  else if style.gnu && c = '>' then .ok .wordEnd
  else if style.gnu && c = '\x60' then .ok .textStart
  else if style.gnu && c = '\'' then .ok .textEnd
  else if style.backReferences && '1' ≤ c && c ≤ '9' then
    let n := c.toNat - 48
    if closed.contains n then .ok (.same n) else .error .badReference
  else .ok (style.one c)

/-- Repeats an expression as the tokens behind it say. -/
def takeRepetitions (style : RegexStyle) : Nat → Bool → Regex → RegexRead Regex
  | 0, _, r => return r
  | n + 1, isRepeated, r => do
    let d ← get
    let (token, size) := style.tokenOf d.rest
    let again (least : Nat) (most : Option Nat) (size : Nat) : RegexRead Regex := do
      dropRegex size
      takeRepetitions style n true (.repeated r least most)
    match token with
    | .star =>
      if isRepeated && !style.extended && !style.repeatsAgain then throw .badRepetition
      again 0 none size
    | .plus => again 1 none size
    | .optional => again 0 (some 1) size
    | .brace =>
      if isRepeated && !style.extended && !style.repeatsAgain then throw .badRepetition
      match bracesOf style.extended (d.rest.drop size) with
      | .numbers least most count =>
        if most.any (· < least) then throw .badBraces
        else if 32767 < least ∨ (most.any (32767 < ·)) then throw .tooBig
        else again least most (size + count)
      | .unended => if style.extended && !style.strict then return r else throw .openBraces
      | .bad =>
        if style.extended && !style.strict then return r else throw .badBraces
    | _ => return r

/-- Whether brackets hold what looks like the name of a class without brackets of its own. -/
def isBareClass (inside : List Char) : Bool :=
  let body := inside.takeWhile (· != ']')
  let body := if body.head? == some '^' then body.tail else body
  body.head? == some ':' && body.getLast? == some ':' && body.any (· != ':') &&
    !body.contains '-' && !body.contains '['

/-- Whether a dollar sign stands where it marks the end. -/
def RegexStyle.endsHere (style : RegexStyle) (depth : Nat) (rest : List Char) : Bool :=
  style.extended || (match (style.tokenOf rest).1 with
    | .finish | .bar => true
    | .closing => depth > 0
    | _ => false)

mutual

/-- Reads alternatives up to the end or to the parenthesis that closes a group. -/
def takeAlternativesOf (style : RegexStyle) : Nat → Nat → RegexRead Regex
  | 0, _ => throw .tooBig
  | n + 1, depth => do
    let first ← takeBranchOf style n depth true .empty
    match style.tokenOf (← get).rest with
    | (.bar, size) =>
      dropRegex size
      return .either first (← takeAlternativesOf style n depth)
    | _ => return first

/-- Reads the items of an alternative behind those that were read. -/
def takeBranchOf (style : RegexStyle) : Nat → Nat → Bool → Regex → RegexRead Regex
  | 0, _, _, _ => throw .tooBig
  | n + 1, depth, atStart, former => do
    let d ← get
    let (token, size) := style.tokenOf d.rest
    let push (item : Regex) (atStart : Bool := false) : RegexRead Regex := do
      let whole := match former with
        | .empty => item
        | former => .seq former item
      takeBranchOf style n depth atStart whole
    let item (r : Regex) : RegexRead Regex := do
      push (← takeRepetitions style (d.rest.length + 1) false r)
    let literal (c : Char) : RegexRead Regex := do
      dropRegex size
      item (style.one c)
    let idle (shown : String) (size : Nat) : RegexRead Regex := do
      dropRegex size
      modify fun d => { d with idle := shown :: d.idle }
      takeBranchOf style n depth atStart former
    let lone (c : Char) : RegexRead Regex :=
      if !style.extended || !atStart then literal c
      else if style.strict then throw .badRepetition
      else idle (String.singleton c) size
    match token with
    | .finish => return former
    | .trailing => throw .trailingBackslash
    | .bar => return former
    | .closing =>
      if depth > 0 then return former
      else if style.extended && style.looseClosers then literal ')'
      else throw .closedGroup
    | .opening =>
      dropRegex size
      let number := d.count + 1
      modify fun d => { d with count := number }
      let inside ← takeAlternativesOf style n (depth + 1)
      match style.tokenOf (← get).rest with
      | (.closing, size) =>
        dropRegex size
        modify fun d => { d with closed := number :: d.closed }
        item (.group number inside)
      | _ => throw .openGroup
    | .star => lone '*'
    | .plus => lone '+'
    | .optional => lone '?'
    | .brace =>
      if style.strict then throw .badRepetition
      else match style.extended && atStart, bracesOf style.extended (d.rest.drop size) with
      | true, .numbers _ _ count => idle "\x7b...\x7d" (size + count)
      | _, _ => literal '\x7b'
    | .caret =>
      if style.extended || atStart then
        dropRegex size
        push .lineStart true
      else literal '^'
    | .dollar =>
      if style.endsHere depth (d.rest.drop size) then
        dropRegex size
        push .lineEnd true
      else literal '$'
    | .any =>
      dropRegex size
      item (.set .full)
    | .bracket =>
      let inside := d.rest.drop size
      if style.namesClasses && isBareClass inside then throw .bareClass
      match takeSet ['^'] style.escapesInSets (Mark.bare (String.ofList inside)) with
      | .ok (s, after) =>
        dropRegex (size + (inside.length - after.length))
        item (.set (if style.ignoreCase then s.withBothCases else s))
      | .error .unclosed => throw (if inside.isEmpty then .nothingInBrackets else .openBrackets)
      | .error .backwards => throw .badRange
      | .error .unknownClass => throw .badClass
      | .error .unknownElement => throw .badElement
    | .char c => literal c
    | .escaped c =>
      match style.escape d.closed c with
      | .error e => throw e
      | .ok r =>
        dropRegex size
        if r.isMark then push r true else item r

end

/-- The expression that a text spells, and how its reading ended. -/
def Regex.read (style : RegexStyle) (s : String) : Except RegexFault (Regex × RegexDraft) :=
  (takeAlternativesOf style (2 * s.length + 4) 0).run { rest := s.toList }

/-- The expression that a text spells, and how many groups it has. -/
def Regex.ofText (style : RegexStyle) (s : String) : Except RegexFault (Regex × Nat) :=
  (Regex.read style s).map fun r => (r.1, r.2.count)

/-- The expression that matches a text and nothing else. -/
def Regex.ofLiteral (ignoreCase : Bool) (s : String) : Regex :=
  s.toList.foldl (fun r c =>
    let one := RegexStyle.one { extended := true, ignoreCase := ignoreCase } c
    match r with
    | .empty => one
    | r => .seq r one) .empty

end SpeechConfig.Shell
