/-
# Regular expressions

Sets of octets, sequences, choices and repetitions, with groups that remember what they
matched.  An expression is matched against a text by listing where a match that begins at
some place may end, the preferred ways first.  Of all matches the first one that begins
counts, and among those the longest.
-/
import SpeechConfig.Shell.OctetSet

namespace SpeechConfig.Shell

inductive Regex where
  | empty
  | set (s : OctetSet)
  | lineStart
  | lineEnd
  | textStart
  | textEnd
  | wordStart
  | wordEnd
  | wordEdge (inside : Bool)
  | wordFree (before : Bool)
  | group (n : Nat) (r : Regex)
  | same (n : Nat)
  | seq (a b : Regex)
  | either (a b : Regex)
  | repeated (r : Regex) (least : Nat) (most : Option Nat)
deriving Repr, Inhabited

/-- A text to be searched.  `lines` says that the marks for the ends of the text also
match at the ends of its lines, `exact` that different groups make different matches, and
`continued` that the text does not begin a line. -/
structure Subject where
  text : Array Char
  lines : Bool := false
  exact : Bool := false
  ignoreCase : Bool := false
  continued : Bool := false

/-- A match so far: where it has come to, and what the groups matched, the last ones
first. -/
structure Way where
  stop : Nat
  groups : List (Nat × Nat × Nat)
deriving DecidableEq, Repr, Inhabited

/-- A match: where it begins and ends, and what the groups matched. -/
structure Match where
  start : Nat
  stop : Nat
  groups : List (Nat × Nat × Nat)
deriving DecidableEq, Repr, Inhabited

/-- A character that is part of a word. -/
def isWordChar (c : Char) : Bool :=
  isAlnum c || c == '_'

namespace Subject

/-- Whether a word character stands at a place. -/
def wordAt (t : Subject) (i : Nat) : Bool :=
  t.text[i]?.any isWordChar

/-- Whether a word character stands before a place. -/
def wordBefore (t : Subject) (i : Nat) : Bool :=
  i > 0 && t.wordAt (i - 1)

def startsLine (t : Subject) (i : Nat) : Bool :=
  (i == 0 && !t.continued) || (t.lines && i > 0 && t.text[i - 1]? == some '\n')

def endsLine (t : Subject) (i : Nat) : Bool :=
  i == t.text.size || (t.lines && t.text[i]? == some '\n')

/-- Whether the same octets stand at two places. -/
def sameAt (t : Subject) (i j : Nat) : Nat → Bool
  | 0 => true
  | n + 1 =>
    match t.text[i]?, t.text[j]? with
    | some c, some d =>
      (c == d || (t.ignoreCase && lowerOf c == lowerOf d)) && t.sameAt (i + 1) (j + 1) n
    | _, _ => false

/-- How many octets of a set stand from a place on. -/
def runOf (t : Subject) (s : OctetSet) : Nat → Nat → Nat
  | 0, _ => 0
  | n + 1, i =>
    match t.text[i]? with
    | some c => if s.contains c then t.runOf s n (i + 1) + 1 else 0
    | none => 0

/-- Ways without those that end where an earlier one ends.  Where groups matter, only
equal ways are dropped. -/
def thin (t : Subject) (ways : List Way) : List Way :=
  match ways with
  | [] => []
  | [w] => [w]
  | ways =>
    if t.exact then ways.eraseDups
    else (ways.foldl (fun (acc : List Way × Nat) w =>
      if acc.2.testBit w.stop then acc else (w :: acc.1, acc.2 ||| (1 <<< w.stop))) ([], 0)).1.reverse

end Subject

/-- Takes a step as often as can be, at most `n` times; longer ways come first.  `seen`
holds the places that were reached already. -/
def spread (step : Way → List Way) : Nat → Nat → Way → List Way × Nat
  | 0, seen, w => ([w], seen)
  | n + 1, seen, w =>
    let (ways, seen) := (step w).foldl (fun (acc : List Way × Nat) v =>
      if v.stop ≤ w.stop || acc.2.testBit v.stop then acc
      else
        let (more, seen) := spread step n (acc.2 ||| (1 <<< v.stop)) v
        (acc.1 ++ more, seen)) ([], seen)
    (ways ++ [w], seen)

/-- Takes a step at most `n` times; longer ways come first. -/
def spreadUpTo (step : Way → List Way) (thin : List Way → List Way) : Nat → Way → List Way
  | 0, w => [w]
  | n + 1, w => thin (((step w).filter fun v => v.stop > w.stop).flatMap (spreadUpTo step thin n) ++ [w])

def stepTimes (step : Way → List Way) (thin : List Way → List Way) : Nat → List Way → List Way
  | 0, ws => ws
  | n + 1, ws => stepTimes step thin n (thin (ws.flatMap step))

namespace Regex

/-- The ways to go on from a way, the preferred ones first. -/
def ways (t : Subject) : Regex → Way → List Way
  | .empty, w => [w]
  | .set s, w =>
    match t.text[w.stop]? with
    | some c => if s.contains c then [{ w with stop := w.stop + 1 }] else []
    | none => []
  | .lineStart, w => if t.startsLine w.stop then [w] else []
  | .lineEnd, w => if t.endsLine w.stop then [w] else []
  | .textStart, w => if w.stop = 0 then [w] else []
  | .textEnd, w => if w.stop = t.text.size then [w] else []
  | .wordStart, w => if t.wordAt w.stop && !t.wordBefore w.stop then [w] else []
  | .wordEnd, w => if t.wordBefore w.stop && !t.wordAt w.stop then [w] else []
  | .wordEdge inside, w => if (t.wordAt w.stop != t.wordBefore w.stop) != inside then [w] else []
  | .wordFree before, w =>
    if before then if t.wordBefore w.stop then [] else [w]
    else if t.wordAt w.stop then [] else [w]
  | .group n r, w =>
    (ways t r w).map fun v => { v with groups := (n, w.stop, v.stop) :: v.groups }
  | .same n, w =>
    match w.groups.lookup n with
    | some (i, j) => if t.sameAt i w.stop (j - i) then [{ w with stop := w.stop + (j - i) }] else []
    | none => []
  | .seq a b, w => t.thin ((ways t a w).flatMap (ways t b))
  | .either a b, w => t.thin (ways t a w ++ ways t b w)
  | .repeated r least most, w =>
    match r with
    | .set s =>
      let run := t.runOf s (t.text.size + 1) w.stop
      let run := match most with
        | some n => min n run
        | none => run
      if run < least then []
      else (List.range (run - least + 1)).map fun k => { w with stop := w.stop + (run - k) }
    | r =>
      let step := ways t r
      let first := stepTimes step t.thin least [w]
      match most with
      | some n => t.thin (first.flatMap (spreadUpTo step t.thin (n - least)))
      | none => t.thin (first.flatMap fun v => (spread step (t.text.size + 1) (1 <<< v.stop) v).1)

/-- The octets that a match may begin with, and whether it may be empty. -/
def firsts : Regex → OctetSet × Bool
  | .set s => (s, false)
  | .group _ r => firsts r
  | .seq a b =>
    let (s, mayBeEmpty) := firsts a
    if mayBeEmpty then
      let (more, rest) := firsts b
      (s.union more, rest)
    else (s, false)
  | .either a b =>
    let (s, x) := firsts a
    let (u, y) := firsts b
    (s.union u, x || y)
  | .repeated r least _ =>
    let (s, mayBeEmpty) := firsts r
    (s, mayBeEmpty || least == 0)
  | _ => (.full, true)

/-- Whether an expression is a mark that matches between characters. -/
def isMark : Regex → Bool
  | .lineStart | .lineEnd | .textStart | .textEnd | .wordStart | .wordEnd | .wordEdge _ | .wordFree _ => true
  | _ => false

/-- Whether an expression refers to what a group matched. -/
def refersBack : Regex → Bool
  | .same _ => true
  | .group _ r => refersBack r
  | .seq a b => refersBack a || refersBack b
  | .either a b => refersBack a || refersBack b
  | .repeated r _ _ => refersBack r
  | _ => false

/-- The longest match that begins at a place. -/
def matchAt? (r : Regex) (t : Subject) (start : Nat) : Option Match :=
  let best := (ways t r ⟨start, []⟩).foldl (fun (best : Option Way) w =>
    match best with
    | none => some w
    | some b => if b.stop < w.stop then some w else best) none
  best.map fun w => ⟨start, w.stop, w.groups⟩

/-- The first match that begins at or behind a place. -/
def search? (r : Regex) (t : Subject) (start : Nat) : Option Match :=
  let t := { t with exact := r.refersBack }
  let (first, mayBeEmpty) := r.firsts
  (List.range' start (t.text.size + 1 - start)).findSome? fun i =>
    if mayBeEmpty || (t.text[i]?.any first.contains) then r.matchAt? t i else none

/-- Whether an expression matches somewhere in a text. -/
def finds (r : Regex) (t : Subject) : Bool :=
  (r.search? t 0).isSome

end Regex

namespace Match

def text (m : Match) (t : Subject) : String :=
  String.ofList (t.text.extract m.start m.stop).toList

/-- The text that a group matched; group zero is the whole match. -/
def groupText (m : Match) (t : Subject) (n : Nat) : String :=
  if n = 0 then m.text t
  else
    match m.groups.lookup n with
    | some (i, j) => String.ofList (t.text.extract i j).toList
    | none => ""

end Match

def Subject.ofText (s : String) : Subject :=
  { text := s.toList.toArray }

end SpeechConfig.Shell
