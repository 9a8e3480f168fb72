/-
# Sets of octets

A set is a number whose bits say which octets it holds.  Brackets spell sets in file name
patterns and in regular expressions alike: single characters, ranges and named classes.
-/
import SpeechConfig.Shell.Octets

namespace SpeechConfig.Shell

/-- A set of octets: octet `n` is in it if bit `n` is set. -/
structure OctetSet where
  bits : Nat
deriving DecidableEq, Repr, Inhabited

namespace OctetSet

def empty : OctetSet := ⟨0⟩

def full : OctetSet := ⟨Nat.pow 2 256 - 1⟩

def contains (s : OctetSet) (c : Char) : Bool :=
  s.bits.testBit c.toNat

def insert (s : OctetSet) (c : Char) : OctetSet :=
  ⟨s.bits ||| (1 <<< c.toNat)⟩

def single (c : Char) : OctetSet := empty.insert c

def union (a b : OctetSet) : OctetSet := ⟨a.bits ||| b.bits⟩

/-- The octets that a set does not hold. -/
def complement (s : OctetSet) : OctetSet :=
  ⟨full.bits ^^^ (s.bits &&& full.bits)⟩

/-- The octets from one to another, both included. -/
def range (low high : Char) : OctetSet :=
  if high < low then empty
  else ⟨((1 <<< (high.toNat - low.toNat + 1)) - 1) <<< low.toNat⟩

def ofTest (p : Char → Bool) : OctetSet :=
  (List.range 256).foldl (fun s n => if p (Char.ofNat n) then s.insert (Char.ofNat n) else s) empty

/-- A set with both forms of its letters. -/
def withBothCases (s : OctetSet) : OctetSet :=
  ofTest fun c => s.contains c || s.contains (lowerOf c) || s.contains (upperOf c)

end OctetSet

/-- A character, and whether it stands for itself because it was quoted. -/
structure Mark where
  char : Char
  quoted : Bool
deriving DecidableEq, Repr, Inhabited

namespace Mark

/-- A mark that is this character without quotes. -/
def isBare (m : Mark) (c : Char) : Bool :=
  m.char == c && !m.quoted

def bare (s : String) : List Mark :=
  s.toList.map fun c => ⟨c, false⟩

def text (ms : List Mark) : String :=
  String.ofList (ms.map Mark.char)

end Mark

inductive SetFault where
  | unclosed
  | backwards
  | unknownClass
  | unknownElement
deriving DecidableEq, Repr

/-- What is inside a pair of inner brackets such as `[:alpha:]`: the text up to the mark
and bracket that close it, and what is behind. -/
def takeInner (mark : Char) (taken : List Char) : List Mark → Option (String × List Mark)
  | [] => none
  | a :: rest =>
    match rest with
    | b :: after =>
      if a.char = mark ∧ b.char = ']' then some (String.ofList taken.reverse, after)
      else takeInner mark (a.char :: taken) rest
    | [] => none

/-- One end of a range, or a single character: the character, and what is behind it. -/
def takeSetChar (escapes : Bool) : List Mark → Except SetFault (Char × List Mark)
  | [] => .error .unclosed
  | m :: rest =>
    if m.isBare '[' ∧ (rest.head?.any fun n => n.char == '.' || n.char == '=') then
      match takeInner (rest.headD m).char [] rest.tail with
      | some (name, after) =>
        match name.toList with
        | [c] => .ok (c, after)
        | _ => .error .unknownElement
      | none => .ok ('[', rest)
    else if escapes && m.isBare '\\' then
      match rest with
      | n :: after => .ok (n.char, after)
      | [] => .ok ('\\', [])
    else .ok (m.char, rest)

/-- Adds the members that brackets list, up to the bracket that closes them.  Every step
takes a mark, so their number bounds the steps. -/
def takeMembers (escapes : Bool) : Nat → Bool → OctetSet → List Mark →
    Except SetFault (OctetSet × List Mark)
  | 0, _, _, _ => .error .unclosed
  | n + 1, isFirst, set, ms =>
    match ms with
    | [] => .error .unclosed
    | m :: rest =>
      if m.isBare ']' && !isFirst then .ok (set, rest)
      else if m.isBare '[' && (rest.head?.any fun d => d.char == ':') then
        match takeInner ':' [] rest.tail with
        | none => takeMembers escapes n false (set.insert '[') rest
        | some (name, after) =>
          match classNamed? name with
          | some p => takeMembers escapes n false (set.union (.ofTest p)) after
          | none => .error .unknownClass
      else
        match takeSetChar escapes ms with
        | .error e => .error e
        | .ok (low, after) =>
          match after with
          | d :: next :: _ =>
            if d.isBare '-' && !next.isBare ']' then
              match takeSetChar escapes after.tail with
              | .error e => .error e
              | .ok (high, after) =>
                if high < low then .error .backwards
                else takeMembers escapes n false (set.union (.range low high)) after
            else takeMembers escapes n false (set.insert low) after
          | _ => takeMembers escapes n false (set.insert low) after

/-- The set that brackets spell, read behind the bracket that opens them; `negations` are
the characters that negate it in the first place. -/
def takeSet (negations : List Char) (escapes : Bool) (ms : List Mark) :
    Except SetFault (OctetSet × List Mark) :=
  match ms with
  | m :: rest =>
    if !m.quoted && negations.contains m.char then
      (takeMembers escapes (rest.length + 1) true .empty rest).map fun r => (r.1.complement, r.2)
    else takeMembers escapes (ms.length + 1) true .empty ms
  | [] => .error .unclosed

end SpeechConfig.Shell
