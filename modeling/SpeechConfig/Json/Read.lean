/-
# Reading values of a known shape

Readers that know what they want: a string, a truth value, a list, one of two
names, an object of known members.  A document is read from left to right, and the
first problem wins, whether the text is malformed there or the value does not fit.
-/
import SpeechConfig.Json.Scan

namespace SpeechConfig.Json

variable {α : Type}

/-- The fault of a value of the wrong kind; `c` is its first character.  Short
values are read to be named. -/
def wrongKind (expected : String) (c : Char) (cs : List Char) : Fault :=
  let unfit (found : Found) : Fault := .mismatch (.wrongKind found expected)
  let afterLiteral (word : List Char) (found : Found) : Fault :=
    match literal word cs with
    | .ok _ => unfit found
    | .error e => e
  let afterNumber (r : Except Fault Found) : Fault :=
    match r with
    | .ok found => unfit found
    | .error e => e
  if c = 'n' then afterLiteral ['u', 'l', 'l'] .null
  else if c = 't' then afterLiteral ['r', 'u', 'e'] (.boolean true)
  else if c = 'f' then afterLiteral ['a', 'l', 's', 'e'] (.boolean false)
  else if c = '-' then afterNumber (readNumber true cs)
  else if isDigit c then afterNumber (readNumber false (c :: cs))
  else if c = '"' then
    match stringBody cs with
    | .ok (s, _) => unfit (.string s)
    | .error e => e
  else if c = '[' then unfit .sequence
  else if c = '{' then unfit .map
  else .malformed .expectedValue

/-- Goes to the next character that is not a blank and hands it to `k`. -/
def onNext (k : Char → Reader α) : Reader α := fun cs =>
  match skipBlanks cs with
  | [] => .error (.truncated .value)
  | c :: rest => k c rest

/-- Reads a string; `expected` names what is wanted. -/
def readString (expected : String) : Reader String :=
  onNext fun c cs => if c = '"' then stringBody cs else .error (wrongKind expected c cs)

def readBool : Reader Bool :=
  onNext fun c cs =>
    if c = 't' then (literal ['r', 'u', 'e'] cs).map fun r => (true, r.2)
    else if c = 'f' then (literal ['a', 'l', 's', 'e'] cs).map fun r => (false, r.2)
    else .error (wrongKind "a boolean" c cs)

def readNull : Reader Unit :=
  onNext fun c cs =>
    if c = 'n' then literal ['u', 'l', 'l'] cs else .error (wrongKind "unit" c cs)

def readOptional (read : Reader α) : Reader (Option α) := fun cs =>
  match skipBlanks cs with
  | 'n' :: rest => (literal ['u', 'l', 'l'] rest).map fun r => (none, r.2)
  | _ => (read cs).map fun r => (some r.1, r.2)

/-! ## Lists -/

/-- Whether another element comes; its separator is taken. -/
def nextElement (first : Bool) : Reader Bool := fun cs =>
  match skipBlanks cs with
  | [] => .error (.truncated .list)
  | c :: rest =>
    if c = ']' then .ok (false, c :: rest)
    else if first then .ok (true, c :: rest)
    else if c = ',' then
      match skipBlanks rest with
      | [] => .error (.truncated .value)
      | d :: rest => if d = ']' then .error (.malformed .trailingComma) else .ok (true, d :: rest)
    else .error (.malformed .expectedCommaOrBracket)

def closeList : Reader Unit := fun cs =>
  match skipBlanks cs with
  | [] => .error (.truncated .list)
  | c :: rest =>
    if c = ']' then .ok ((), rest)
    else if c = ',' then
      match skipBlanks rest with
      | ']' :: _ => .error (.malformed .trailingComma)
      | _ => .error (.malformed .trailingCharacters)
    else .error (.malformed .trailingCharacters)

/-- Reads elements up to the end of the list; every element takes a character, so
the length of the text bounds their number. -/
def readElements (read : Reader α) : Nat → Bool → Reader (List α)
  | 0, _ => fun _ => .error (.truncated .list)
  | n + 1, first => do
    if ← nextElement first then
      let x ← read
      let xs ← readElements read n false
      return x :: xs
    else
      closeList
      return []

def readList (read : Reader α) : Reader (List α) :=
  onNext fun c cs =>
    if c = '[' then readElements read (cs.length + 1) true cs
    else .error (wrongKind "a sequence" c cs)

/-! ## Objects -/

/-- The next key of an object, if there is one; its separator is taken. -/
def nextKey (first : Bool) : Reader (Option String) := fun cs =>
  match skipBlanks cs with
  | [] => .error (.truncated .object)
  | c :: rest =>
    let key (rest : List Char) := (stringBody rest).map fun r => (some r.1, r.2)
    if c = '\x7d' then .ok (none, c :: rest)
    else if first then
      if c = '"' then key rest else .error (.malformed .keyNotString)
    else if c = ',' then
      match skipBlanks rest with
      | [] => .error (.truncated .value)
      | d :: rest =>
        if d = '"' then key rest
        else if d = '\x7d' then .error (.malformed .trailingComma)
        else .error (.malformed .keyNotString)
    else .error (.malformed .expectedCommaOrBrace)

def takeColon : Reader Unit := fun cs =>
  match skipBlanks cs with
  | [] => .error (.truncated .object)
  | c :: rest => if c = ':' then .ok ((), rest) else .error (.malformed .expectedColon)

def closeObject : Reader Unit := fun cs =>
  match skipBlanks cs with
  | [] => .error (.truncated .object)
  | c :: rest =>
    if c = '\x7d' then .ok ((), rest)
    else if c = ',' then .error (.malformed .trailingComma)
    else .error (.malformed .trailingCharacters)

/-! ## Choices -/

/-- Two values, each with the name it has in documents. -/
structure Choice (α : Type) where
  first : String × α
  second : String × α

namespace Choice

variable {α : Type}

def pick (c : Choice α) (name : String) : Except Fault α :=
  if name = c.first.1 then .ok c.first.2
  else if name = c.second.1 then .ok c.second.2
  else .error (.mismatch (.unknownVariant name c.first.1 c.second.1))

def name [DecidableEq α] (c : Choice α) (x : α) : String :=
  if x = c.first.2 then c.first.1 else c.second.1

/-- Reads the one key of an object behind its brace. -/
def readOnlyKey : Reader String := fun cs =>
  match skipBlanks cs with
  | [] => .error (.truncated .object)
  | c :: rest =>
    if c = '"' then stringBody rest
    else if c = '\x7d' then .error (.malformed .expectedValue)
    else .error (.malformed .keyNotString)

/-- Reads a value by its name, given alone or as the one key of an object with
the absent value behind it. -/
def read (choice : Choice α) : Reader α :=
  onNext fun c cs =>
    if c = '"' then
      match stringBody cs with
      | .ok (name, rest) => (choice.pick name).map fun x => (x, rest)
      | .error e => .error e
    else if c = '\x7b' then
      match readOnlyKey cs with
      | .error e => .error e
      | .ok (name, rest) =>
        match choice.pick name with
        | .error e => .error e
        | .ok x =>
          match (do takeColon; readNull : Reader Unit) rest with
          | .error e => .error e
          | .ok ((), rest) =>
            match skipBlanks rest with
            | [] => .error (.truncated .object)
            | d :: rest =>
              if d = '\x7d' then .ok (x, rest) else .error (.malformed .expectedValue)
    else .error (.malformed .expectedValue)

end Choice

/-! ## Records -/

/-- A member that a record knows: its key, whether it must be there, and how its
value is read into the record. -/
structure Field (σ : Type) where
  key : String
  required : Bool
  read : Reader (σ → σ)

/-- A record: its name, its fields in order, and the record before anything is
read. -/
structure Shape (σ : Type) where
  name : String
  fields : List (Field σ)
  start : σ

namespace Shape

variable {σ : Type}

def field? (s : Shape σ) (key : String) : Option (Field σ) :=
  s.fields.find? fun f => f.key == key

/-- The first required field that was not seen. -/
def missing? (s : Shape σ) (seen : List String) : Option String :=
  (s.fields.find? fun f => f.required && !seen.contains f.key).map Field.key

/-- Reads members up to the end of the object; every member takes a character, so
the length of the text bounds their number. -/
def readMembers (s : Shape σ) : Nat → Bool → List String → σ → Reader σ
  | 0, _, _, _ => fun _ => .error (.truncated .object)
  | n + 1, first, seen, acc => do
    match ← nextKey first with
    | none =>
      match s.missing? seen with
      | some key => throw (.mismatch (.missingField key))
      | none =>
        closeObject
        return acc
    | some key =>
      match s.field? key with
      | none =>
        takeColon
        skipValue
        s.readMembers n false seen acc
      | some f =>
        if seen.contains key then throw (.mismatch (.duplicateField key))
        else
          takeColon
          let store ← f.read
          s.readMembers n false (key :: seen) (store acc)

/-- Reads the fields in order from the elements of a list; fields behind its end
keep their start, unless one of them is required. -/
def readInOrder (s : Shape σ) (first : Bool) (index : Nat) : List (Field σ) → σ → Reader σ
  | [], acc => do
    closeList
    return acc
  | f :: rest, acc => do
    if ← nextElement first then
      let store ← f.read
      s.readInOrder false (index + 1) rest (store acc)
    else
      match (f :: rest).findIdx? Field.required with
      | some i => throw (.mismatch (.tooShort (index + i) s.name s.fields.length))
      | none =>
        closeList
        return acc

/-- Reads a record from an object or from the list of its fields. -/
def read (s : Shape σ) : Reader σ :=
  onNext fun c cs =>
    if c = '{' then s.readMembers (cs.length + 1) true [] s.start cs
    else if c = '[' then s.readInOrder true 0 s.fields s.start cs
    else .error (wrongKind ("struct " ++ s.name) c cs)

end Shape

/-! ## Documents -/

/-- Reads a whole document: one value with nothing but blanks around it. -/
def readDocument (read : Reader α) (text : String) : Except Fault α :=
  match read text.toList with
  | .error e => .error e
  | .ok (x, rest) =>
    match skipBlanks rest with
    | [] => .ok x
    | _ :: _ => .error (.malformed .trailingCharacters)

end SpeechConfig.Json
