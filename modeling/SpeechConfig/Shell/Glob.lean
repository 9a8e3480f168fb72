/-
# Patterns for names

The patterns that shells match against names and values: single characters, `?`, `*`,
sets in brackets, and groups of alternatives.  A pattern is run on all places of a text at
once: from the places where a match may begin to those where it may end.
-/
import SpeechConfig.Shell.OctetSet

namespace SpeechConfig.Shell

/-- How often the alternatives of a group are to match. -/
inductive GroupKind where
  | once
  | optional
  | anyTimes
  | someTimes
  | never
deriving DecidableEq, Repr

inductive Glob where
  | set (s : OctetSet)
  | many
  | group (kind : GroupKind) (alternatives : List (List Glob))
deriving Repr, Inhabited

namespace Glob

/-- The part that only one character matches. -/
def one (ignoreCase : Bool) (c : Char) : Glob :=
  .set (if ignoreCase then (OctetSet.single c).withBothCases else .single c)

/-- The kind of the group that a character in front of a parenthesis opens. -/
def kindOf? : Char → Option GroupKind
  | '@' => some .once
  | '?' => some .optional
  | '*' => some .anyTimes
  | '+' => some .someTimes
  | '!' => some .never
  | _ => none

/-- Splits the inside of a group at its bars, up to the parenthesis that closes it. -/
def takeGroup (depth : Nat) (part : List Mark) : List Mark → Option (List (List Mark) × List Mark)
  | [] => none
  | m :: rest =>
    if m.isBare '(' then takeGroup (depth + 1) (m :: part) rest
    else if m.isBare ')' then
      match depth with
      | 0 => some ([part.reverse], rest)
      | d + 1 => takeGroup d (m :: part) rest
    else if m.isBare '|' ∧ depth = 0 then
      (takeGroup depth [] rest).map fun r => (part.reverse :: r.1, r.2)
    else takeGroup depth (m :: part) rest

/-- How patterns are read: whether groups are known, and whether letters match both
their forms. -/
structure Style where
  groups : Bool := false
  ignoreCase : Bool := false
deriving DecidableEq, Repr

/-- The parts that marks spell.  Every step takes a mark or opens a group, so the number of
marks bounds the depth. -/
def read (style : Style) : Nat → List Mark → List Glob
  | 0, _ => []
  | n + 1, ms =>
    match ms with
    | [] => []
    | m :: rest =>
      let single (c : Char) (rest : List Mark) : List Glob := one style.ignoreCase c :: read style n rest
      let opensGroup := style.groups && !m.quoted && (rest.head?.any fun p => p.isBare '(')
      let group? : Option (List Glob) :=
        if opensGroup then
          match kindOf? m.char, takeGroup 0 [] rest.tail with
          | some kind, some (parts, after) =>
            some (.group kind (parts.map (read style n)) :: read style n after)
          | _, _ => none
        else none
      match group? with
      | some g => g
      | none =>
        if m.quoted then single m.char rest
        else if m.char = '*' then .many :: read style n rest
        else if m.char = '?' then .set .full :: read style n rest
        else if m.char = '\\' then
          match rest with
          | c :: after => single c.char after
          | [] => single '\\' []
        else if m.char = '[' then
          match takeSet ['!', '^'] true rest with
          | .ok (s, after) =>
            .set (if style.ignoreCase then s.withBothCases else s) :: read style n after
          | .error .backwards => .set .empty :: read style n rest
          | .error _ => single '[' rest
        else single m.char rest

def ofMarks (style : Style) (ms : List Mark) : List Glob :=
  read style (ms.length + 1) ms

/-- Whether marks spell more than a plain text. -/
def isPattern (groups : Bool) (ms : List Mark) : Bool :=
  let rec go : List Mark → Bool
    | [] => false
    | m :: rest =>
      (!m.quoted && (m.char == '*' || m.char == '?' ||
        (m.char == '[' && rest.any fun d => d.isBare ']') ||
        (groups && (kindOf? m.char).isSome && (rest.head?.any fun p => p.isBare '(')))) || go rest
  go ms

/-! ## Matching -/

/-- The places of a text, as the bits of a number. -/
abbrev Places := Nat

def placesUpTo (length : Nat) : Places :=
  (1 <<< (length + 1)) - 1

/-- The places where a text holds an octet of a set. -/
def placesOf (s : OctetSet) (cs : List Char) : Places :=
  (cs.foldl (fun (acc : Nat × Nat) c =>
    (acc.1 + 1, if s.contains c then acc.2 ||| (1 <<< acc.1) else acc.2)) (0, 0)).2

def firstPlace? (places : Places) (length : Nat) : Option Nat :=
  (List.range (length + 1)).find? fun i => places.testBit i

def lastPlace? (places : Places) : Option Nat :=
  if places = 0 then none else some (Nat.log2 places)

/-- Every place from the first of some places on. -/
def onwards (length : Nat) (places : Places) : Places :=
  match firstPlace? places length with
  | none => 0
  | some i => ((placesUpTo length) >>> i) <<< i

/-- Repeats a step until it reaches no further place. -/
def closure (step : Places → Places) : Nat → Places → Places
  | 0, places => places
  | n + 1, places =>
    let more := places ||| step places
    if more = places then places else closure step n more

mutual

/-- From the places where a part may begin to those where it may end. -/
def advance (cs : List Char) (length : Nat) (places : Places) : Glob → Places
  | .set s => (places &&& placesOf s cs) <<< 1
  | .many => onwards length places
  | .group kind alternatives =>
    match kind with
    | .once => advanceAny cs length places alternatives
    | .optional => places ||| advanceAny cs length places alternatives
    | .anyTimes => closure (fun p => advanceAny cs length p alternatives) (length + 1) places
    | .someTimes =>
      closure (fun p => advanceAny cs length p alternatives) (length + 1)
        (advanceAny cs length places alternatives)
    | .never =>
      (List.range (length + 1)).foldl (fun acc i =>
        if places.testBit i then
          let here : Places := 1 <<< i
          acc ||| (onwards length here ^^^
            (onwards length here &&& advanceAny cs length here alternatives))
        else acc) 0

/-- From the places where one of several patterns may begin to those where it may end. -/
def advanceAny (cs : List Char) (length : Nat) (places : Places) : List (List Glob) → Places
  | [] => 0
  | g :: rest => advanceAll cs length places g ||| advanceAny cs length places rest

/-- From the places where a pattern may begin to those where it may end. -/
def advanceAll (cs : List Char) (length : Nat) (places : Places) : List Glob → Places
  | [] => places
  | g :: rest => advanceAll cs length (advance cs length places g) rest

end

/-- Whether a pattern matches a whole text. -/
def accepts (g : List Glob) (cs : List Char) : Bool :=
  let length := cs.length
  (advanceAll cs length 1 g).testBit length

/-- How many characters the shortest or the longest match at the start of a text takes. -/
def atStart? (g : List Glob) (longest : Bool) (cs : List Char) : Option Nat :=
  let length := cs.length
  let ends := advanceAll cs length 1 g
  if longest then lastPlace? ends else firstPlace? ends length

/-- Where the shortest or the longest match at the end of a text begins. -/
def atEnd? (g : List Glob) (longest : Bool) (cs : List Char) : Option Nat :=
  let length := cs.length
  let starts := (List.range (length + 1)).filter fun i =>
    (advanceAll cs length (1 <<< i) g).testBit length
  if longest then starts.head? else starts.getLast?

/-- The first match of a text from some place on, as long as can be: where it begins and
ends. -/
def first? (g : List Glob) (cs : List Char) (start : Nat) : Option (Nat × Nat) :=
  let length := cs.length
  (List.range' start (length + 1 - start)).findSome? fun i =>
    (lastPlace? (advanceAll cs length (1 <<< i) g)).map fun j => (i, j)

end Glob
end SpeechConfig.Shell
