/-
# Braces

A word with braces stands for several words: one for each alternative between commas, or
for each member of a range of numbers or letters.  Quotes and expansions are passed over
as they are.
-/
import SpeechConfig.Shell.Octets
import SpeechConfig.Shell.Syntax.Command

namespace SpeechConfig.Shell

/-- A character that may be part of a brace, or a piece that is not. -/
inductive Atom where
  | char (c : Char)
  | piece (p : Piece)

namespace Atom

def isChar (a : Atom) (c : Char) : Bool :=
  match a with
  | .char d => c == d
  | .piece _ => false

def char? : Atom → Option Char
  | .char c => some c
  | .piece _ => none

def ofPieces (ps : List Piece) : List Atom :=
  ps.flatMap fun p => match p with
    | .text s => s.toList.map Atom.char
    | p => [.piece p]

def toPieces (as : List Atom) : List Piece :=
  (as.foldl (fun (acc : List Piece) a =>
    match a, acc with
    | .char c, .text s :: rest => .text (s.push c) :: rest
    | .char c, acc => .text (String.singleton c) :: acc
    | .piece p, acc => p :: acc) []).reverse

end Atom

/-- The parts between the commas of a brace that is open, and what is behind the one that
closes it. -/
def takeAlternatives (depth : Nat) (part : List Atom) :
    List Atom → Option (List (List Atom) × List Atom)
  | [] => none
  | a :: rest =>
    if a.isChar '\x7b' then takeAlternatives (depth + 1) (a :: part) rest
    else if a.isChar '\x7d' then
      match depth with
      | 0 => some ([part.reverse], rest)
      | d + 1 => takeAlternatives d (a :: part) rest
    else if a.isChar ',' && depth == 0 then
      (takeAlternatives depth [] rest).map fun r => (part.reverse :: r.1, r.2)
    else takeAlternatives depth (a :: part) rest

def stepped (first last : Int) (step : Nat) : List Int :=
  let step := max 1 step
  let count := (last - first).natAbs / step + 1
  (List.range count).map fun (i : Nat) =>
    if first ≤ last then first + (i * step : Nat) else first - (i * step : Nat)

/-- Whether a number is written with zeros in front. -/
def hasLeadingZero (s : String) : Bool :=
  match s.toList with
  | '0' :: _ :: _ => true
  | '-' :: '0' :: _ :: _ => true
  | _ => false

/-- A number with zeros up to a width, the sign included. -/
def zeroPadded (width : Nat) (x : Int) : String :=
  let digits := Nat.repr x.natAbs
  let sign := if x < 0 then "-" else ""
  sign ++ String.ofList (List.replicate (width - digits.length - sign.length) '0') ++ digits

def rangeOf? (cs : List Char) : Option (List String) :=
  let between (a b : String) (step : Option Int) : Option (List String) :=
    match step with
    | none => none
    | some step =>
      match integerOf? a, integerOf? b, a.toList, b.toList with
      | some x, some y, _, _ =>
        let width := if hasLeadingZero a || hasLeadingZero b then max a.length b.length else 0
        some ((stepped x y step.natAbs).map fun i => zeroPadded width i)
      | none, none, [x], [y] =>
        if isAlpha x && isAlpha y then
          some ((stepped x.toNat y.toNat step.natAbs).map fun i =>
            String.singleton (Char.ofNat i.toNat))
        else none
      | _, _, _, _ => none
  match (String.ofList cs).splitOn ".." with
  | [a, b] => between a b (some 1)
  | [a, b, c] => between a b (integerOf? c)
  | _ => none

/-- The texts that a brace with one part stands for. -/
def rangeAtoms? (atoms : List Atom) : Option (List (List Atom)) := do
  let cs ← atoms.mapM Atom.char?
  let texts ← rangeOf? cs
  return texts.map fun t => t.toList.map Atom.char

/-- The words that atoms stand for.  Every step takes an atom or opens a brace, so twice
their number bounds the depth. -/
def alternatives : Nat → List Atom → List (List Atom)
  | 0, atoms => [atoms]
  | n + 1, atoms =>
    let before := atoms.takeWhile fun a => !a.isChar '\x7b'
    match atoms.drop before.length with
    | [] => [atoms]
    | opening :: rest =>
      let literal : List (List Atom) :=
        (alternatives n rest).map fun tail => before ++ opening :: tail
      match takeAlternatives 0 [] rest with
      | none => literal
      | some (parts, behind) =>
        let choices? : Option (List (List Atom)) :=
          match parts with
          | [only] => rangeAtoms? only
          | _ => some (parts.flatMap (alternatives n))
        match choices? with
        | none => literal
        | some choices =>
          let tails := alternatives n behind
          choices.flatMap fun choice => tails.map fun tail => before ++ choice ++ tail

/-- The words that a word with braces stands for. -/
def withoutBraces (pieces : List Piece) : List (List Piece) :=
  let hasBrace := pieces.any fun p => match p with
    | .text s => s.toList.contains '\x7b'
    | _ => false
  if hasBrace then
    let atoms := Atom.ofPieces pieces
    (alternatives (2 * atoms.length + 2) atoms).map Atom.toPieces
  else [pieces]

end SpeechConfig.Shell
