/-
# Sorting

Putting lines in order: by their octets, or by keys that are texts, numbers, months or
versions.
-/
import SpeechConfig.Shell.Tool.Columns

namespace SpeechConfig.Shell.Tool

inductive KeyOrder where
  | text
  | numeric
  | general
  | human
  | month
  | version
deriving DecidableEq, Repr

structure KeyStyle where
  order : KeyOrder := .text
  reverse : Bool := false
  skipsBlanks : Bool := false
  skipsBlanksAtEnd : Bool := false
  fold : Bool := false
  dictionary : Bool := false
  printable : Bool := false
deriving Repr

/-- A key: the part of a line from a place up to another. -/
structure SortKey where
  field : Nat := 0
  char : Nat := 0
  lastField : Option Nat := none
  lastChar : Nat := 0
  style : KeyStyle := {}
  isBare : Bool := true
deriving Repr

def KeyStyle.add (s : KeyStyle) (atEnd : Bool) (c : Char) : Option KeyStyle :=
  match c with
  | 'b' => some (if atEnd then { s with skipsBlanksAtEnd := true } else { s with skipsBlanks := true })
  | 'd' => some { s with dictionary := true }
  | 'f' => some { s with fold := true }
  | 'g' => some { s with order := .general }
  | 'h' => some { s with order := .human }
  | 'i' => some { s with printable := true }
  | 'M' => some { s with order := .month }
  | 'n' => some { s with order := .numeric }
  | 'r' => some { s with reverse := true }
  | 'V' => some { s with order := .version }
  | _ => none

def skipFields (separator : Option Char) (atEnd : Bool) (lastChar : Nat) : Nat → List Char → List Char
  | 0, cs => cs
  | n + 1, cs =>
    match separator with
    | some t =>
      let rest := cs.dropWhile (· != t)
      if rest.isEmpty then []
      else if atEnd && n = 0 && lastChar = 0 then rest
      else skipFields separator atEnd lastChar n (rest.drop 1)
    | none => skipFields separator atEnd lastChar n ((cs.dropWhile isBlank).dropWhile fun c => !isBlank c)

def SortKey.textIn (k : SortKey) (separator : Option Char) (line : List Char) : List Char :=
  let start := skipFields separator false 1 k.field line
  let start := if k.style.skipsBlanks then start.dropWhile isBlank else start
  let start := start.drop k.char
  match k.lastField with
  | none => start
  | some f =>
    let stop := skipFields separator true k.lastChar (if k.lastChar = 0 then f + 1 else f) line
    let stop := if k.lastChar ≠ 0 then
        (if k.style.skipsBlanksAtEnd then stop.dropWhile isBlank else stop).drop k.lastChar
      else stop
    start.take (start.length - stop.length)

/-- A decimal number at the start of a text: its digits as a whole number, and how many of
them stand behind the point. -/
def decimalAt (cs : List Char) : Int × Nat :=
  let cs := cs.dropWhile isBlank
  let (negative, cs) := match cs with
    | '-' :: cs => (true, cs)
    | cs => (false, cs)
  let whole := cs.takeWhile isDigit
  let part := match cs.drop whole.length with
    | '.' :: rest => rest.takeWhile isDigit
    | _ => []
  let n : Int := ((numberIn? 10 (whole ++ part)).getD 0 : Nat)
  (if negative then -n else n, part.length)

def compareDecimals (a b : Int × Nat) : Ordering :=
  compare (a.1 * (Nat.pow 10 b.2 : Nat)) (b.1 * (Nat.pow 10 a.2 : Nat))

/-- The size that a letter behind a number stands for. -/
def sizeLetter (cs : List Char) : Nat :=
  let cs := cs.dropWhile isBlank
  let cs := match cs with
    | '-' :: cs => cs
    | cs => cs
  match cs.dropWhile fun c => isDigit c || c == '.' with
  | c :: _ => (("KMGTPEZYRQ".toList.findIdx? (· == upperOf c)).map (· + 1)).getD 0
  | [] => 0

/-- The number of a month by its name. -/
def monthOf (cs : List Char) : Nat :=
  let name := String.ofList ((cs.dropWhile isBlank).take 3 |>.map upperOf)
  ((["JAN", "FEB", "MAR", "APR", "MAY", "JUN", "JUL", "AUG", "SEP", "OCT", "NOV", "DEC"].findIdx? (· == name)).map
    (· + 1)).getD 0

def versionRank (c : Option Char) : Int :=
  match c with
  | none => 0
  | some '~' => -1
  | some c => if isDigit c then 0 else if isAlpha c then c.toNat else (c.toNat : Int) + 256

/-- Compares the runs of versions that are no digits. -/
def compareRuns : List Char → List Char → Ordering
  | [], [] => .eq
  | a :: as, [] => let o := compare (versionRank (some a)) (versionRank none); if o = .eq then compareRuns as [] else o
  | [], b :: bs => let o := compare (versionRank none) (versionRank (some b)); if o = .eq then compareRuns [] bs else o
  | a :: as, b :: bs =>
    let o := compare (versionRank (some a)) (versionRank (some b))
    if o = .eq then compareRuns as bs else o

/-- Compares versions: runs of digits count as numbers. -/
def compareVersions : Nat → List Char → List Char → Ordering
  | 0, _, _ => .eq
  | n + 1, a, b =>
    if a.isEmpty && b.isEmpty then .eq
    else
      let (ra, rb) := (a.takeWhile fun c => !isDigit c, b.takeWhile fun c => !isDigit c)
      match compareRuns ra rb with
      | .eq =>
        let (a, b) := (a.drop ra.length, b.drop rb.length)
        let (da, db) := (a.takeWhile isDigit, b.takeWhile isDigit)
        match compare ((numberIn? 10 da).getD 0) ((numberIn? 10 db).getD 0) with
        | .eq => compareVersions n (a.drop da.length) (b.drop db.length)
        | o => o
      | o => o

def compareTexts : List Char → List Char → Ordering
  | [], [] => .eq
  | [], _ => .lt
  | _, [] => .gt
  | a :: as, b :: bs => if a = b then compareTexts as bs else compare a.toNat b.toNat

def KeyStyle.compare (s : KeyStyle) (a b : List Char) : Ordering :=
  let texts (cs : List Char) : List Char :=
    let cs := if s.dictionary then cs.filter fun c => isBlank c || isAlnum c else cs
    let cs := if s.printable then cs.filter fun c => isGraph c || c == ' ' else cs
    if s.fold then cs.map upperOf else cs
  let o := match s.order with
    | .text => compareTexts (texts a) (texts b)
    | .numeric => compareDecimals (decimalAt a) (decimalAt b)
    | .general =>
      let (x, restA) := Floating.read Floating.usualBits (a.dropWhile isSpace)
      let (y, restB) := Floating.read Floating.usualBits (b.dropWhile isSpace)
      let noneA := restA.length = (a.dropWhile isSpace).length
      let noneB := restB.length = (b.dropWhile isSpace).length
      if noneA || noneB then Ord.compare (if noneA then 0 else 1) (if noneB then 0 else 1)
      else if x.le y then (if y.le x then .eq else .lt) else .gt
    | .human =>
      let (x, y) := (decimalAt a, decimalAt b)
      let sign (n : Int × Nat) : Int := if n.1 < 0 then -1 else if n.1 = 0 then 0 else 1
      let (sx, sy) := (sizeLetter a, sizeLetter b)
      match Ord.compare (sign x) (sign y) with
      | .eq =>
        match (if sign x < 0 then Ord.compare sy sx else Ord.compare sx sy) with
        | .eq => compareDecimals x y
        | o => if sign x = 0 then .eq else o
      | o => o
    | .month => Ord.compare (monthOf a) (monthOf b)
    | .version => compareVersions (a.length + b.length + 1) a b
  if s.reverse then o.swap else o

/-- Compares lines by keys, the first that tells them apart. -/
def compareKeys : List SortKey → List (List Char) → List (List Char) → Ordering
  | k :: ks, a :: as, b :: bs =>
    match k.style.compare a b with
    | .eq => compareKeys ks as bs
    | o => o
  | _, _, _ => .eq

/-- Reads a place in a key: a field, a character in it, and letters. -/
def readKeyPlace (s : String) : Option (Nat × Option Nat × List Char) :=
  let digits := s.toList.takeWhile isDigit
  let rest := s.toList.drop digits.length
  match numberIn? 10 digits with
  | none => none
  | some f =>
    match rest with
    | '.' :: more =>
      let digits := more.takeWhile isDigit
      (numberIn? 10 digits).map fun c => (f, some c, more.drop digits.length)
    | letters => some (f, none, letters)

def readKey (s : String) : Except String SortKey := do
  let (front, back) := match splitFirst? ',' s with
    | some (a, b) => (a, some b)
    | none => (s, none)
  let bad (message : String) : String := message ++ " " ++ quotedName s
  let styled (k : SortKey) (atEnd : Bool) (letters : List Char) : Except String SortKey :=
    letters.foldlM (fun (k : SortKey) c => match k.style.add atEnd c with
      | some style => .ok { k with style := style, isBare := false }
      | none => .error ("stray character in field spec: invalid field specification " ++ quotedName s)) k
  match readKeyPlace front with
  | none =>
    if (front.toList.takeWhile isDigit).isEmpty then
      throw ("invalid number at field start: invalid count at start of " ++ quotedName front)
    else throw ("invalid number after '.': invalid count at start of " ++ quotedName (dropText 1 (String.ofList (front.toList.dropWhile isDigit))))
  | some (0, _, _) => throw (bad "field number is zero: invalid field specification")
  | some (_, some 0, _) => throw (bad "character offset is zero: invalid field specification")
  | some (f, c, letters) =>
    let k ← styled { field := f - 1, char := (c.getD 1) - 1 } false letters
    match back with
    | none => return k
    | some b =>
      match readKeyPlace b with
      | none => throw ("invalid number after ',': invalid count at start of " ++ quotedName b)
      | some (0, _, _) => throw (bad "field number is zero: invalid field specification")
      | some (f, c, letters) =>
        styled { k with lastField := some (f - 1), lastChar := c.getD 0 } true letters

def sort : Tool := fun _ args =>
  let style : FlagStyle :=
    { plain := "bcCdfgihmMnrRsuVz", valued := "kotST", status := 2
      long := [⟨"ignore-leading-blanks", 'b', false, false⟩, ⟨"check", 'c', false, true⟩, ⟨"dictionary-order", 'd', false, false⟩,
        ⟨"ignore-case", 'f', false, false⟩, ⟨"general-numeric-sort", 'g', false, false⟩,
        ⟨"human-numeric-sort", 'h', false, false⟩, ⟨"key", 'k', true, false⟩, ⟨"merge", 'm', false, false⟩,
        ⟨"month-sort", 'M', false, false⟩, ⟨"numeric-sort", 'n', false, false⟩, ⟨"output", 'o', true, false⟩,
        ⟨"reverse", 'r', false, false⟩, ⟨"stable", 's', false, false⟩, ⟨"field-separator", 't', true, false⟩,
        ⟨"unique", 'u', false, false⟩, ⟨"version-sort", 'V', false, false⟩, ⟨"zero-terminated", 'z', false, false⟩] }
  withGiven "sort" style args fun g => do
    let separator? : Except String (Option Char) := match g.value? 't' with
      | none => .ok none
      | some "\\0" => .ok (some '\x00')
      | some s => match s.toList with
        | [c] => .ok (some c)
        | [] => .error "empty tab"
        | _ => .error ("multi-character tab " ++ quotedName s)
    match separator?, (g.values 'k').mapM readKey with
    | .error m, _ | _, .error m => report "sort" m 2
    | .ok separator, .ok keys =>
      let letters := (g.flags.map Prod.fst).filter fun c => "bdfghiMnrV".toList.contains c
      let overall : KeyStyle := letters.foldl (fun s c => ((s.add false c).bind fun s => s.add true c).getD s) {}
      let keys := keys.map fun k => if k.isBare then { k with style := overall } else k
      let keys := if keys.isEmpty && !letters.isEmpty then [{ style := overall }] else keys
      let ending := if g.has 'z' then '\x00' else '\n'
      let paths := if g.operands.isEmpty then ["-"] else g.operands
      let mut texts : List String := []
      for path in paths do
        match ← readInput path with
        | .ok text => texts := text :: texts
        | .error .isDirectory => return ← report "sort" ("read failed: " ++ quotedIfNeeded path ++ ": Is a directory") 2
        | .error fault => return ← report "sort" ("cannot read: " ++ quotedIfNeeded path ++ ": " ++ fault.reason) 2
      let lines := texts.reverse.flatMap (piecesAt ending)
      let keyed := lines.map fun l => (l, keys.map fun k => k.textIn separator l.toList)
      let byKeys (a b : String × List (List Char)) : Ordering :=
        if keys.isEmpty then compareTexts a.1.toList b.1.toList else compareKeys keys a.2 b.2
      let whole (a b : String × List (List Char)) : Ordering :=
        match byKeys a b with
        | .eq =>
          if g.has 's' || g.has 'u' then .eq
          else
            let o := compareTexts a.1.toList b.1.toList
            if overall.reverse then o.swap else o
        | o => if keys.isEmpty && overall.reverse then o.swap else o
      if g.has 'c' || g.has 'C' then
        let pairs := (keyed.zip keyed.tail).zip (List.range keyed.length)
        match pairs.find? fun p => match whole p.1.1 p.1.2 with
          | .gt => true
          | .eq => g.has 'u'
          | .lt => false with
        | none => return 0
        | some ((_, line), i) =>
          if g.has 'C' then return 1
          else report "sort" (paths.headD "-" ++ ":" ++ Nat.repr (i + 2) ++ ": disorder: " ++ line.1)
      else
        let sorted := keyed.mergeSort fun a b => whole a b != .gt
        let kept := if g.has 'u' then
            (sorted.foldl (fun (acc : List (String × List (List Char))) e =>
              match acc with
              | former :: _ => if byKeys former e = .eq then acc else e :: acc
              | [] => [e]) []).reverse
          else sorted
        let out := String.join (kept.map fun e => e.1.push ending)
        match g.value? 'o' with
        | none => say "sort" out
        | some path =>
          match ← Act.openToWrite path .fresh with
          | .ok i =>
            if let some f := (← Act.world).opened[i]? then
              let _ ← Act.writeOpened i f out
            return 0
          | .error fault => report "sort" ("open failed: " ++ quotedIfNeeded path ++ ": " ++ fault.reason) 2

end SpeechConfig.Shell.Tool
