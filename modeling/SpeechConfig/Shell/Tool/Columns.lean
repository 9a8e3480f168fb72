/-
# Lines and columns

Tools that cut lines apart, paste them together, and compare neighbouring lines.
-/
import SpeechConfig.Shell.Tool.Show

namespace SpeechConfig.Shell.Tool

/-- The lines of a text without their ends. -/
def bareLines (text : String) : List String :=
  linesOf text

/-- Reports that an input cannot be read. -/
def complainPlainly (name : String) (path : String) (fault : StreamFault) : Act Unit :=
  Act.warn (name ++ ": " ++ quotedIfNeeded path ++ ": " ++ fault.reason)

/-! ## Cutting -/

/-- A range of places: from one on, and up to another if there is an end. -/
structure PlaceRange where
  first : Nat
  last : Option Nat
deriving Repr

namespace PlaceRange

def holds (r : PlaceRange) (n : Nat) : Bool :=
  r.first ≤ n && (r.last.map fun m => decide (n ≤ m)).getD true

end PlaceRange

def readRanges (fields : Bool) (s : String) : Except String (List PlaceRange) := do
  let zero := if fields then "fields are numbered from 1" else "byte/character positions are numbered from 1"
  let invalid (part : String) : String :=
    (if fields then "invalid field value " else "invalid byte/character position ") ++ quotedName part
  let parts := (splitAll ',' s).flatMap fun p => splitAll ' ' p
  parts.mapM fun part => do
    let number (t : String) : Except String Nat :=
      match count? t with
      | some n => .ok n
      | none =>
        .error (invalid (String.ofList (t.toList.dropWhile isDigit)))
    if part.isEmpty then throw zero
    else
      match splitFirst? '-' part with
      | none =>
        let n ← number part
        if n = 0 then throw zero else return ⟨n, some n⟩
      | some (a, b) =>
        if b.toList.contains '-' then
          throw (if fields then "invalid field range" else "invalid byte or character range")
        if a.isEmpty && b.isEmpty then throw "invalid range with no endpoint: -"
        else
          let m ← if a.isEmpty then pure 1 else number a
          if m = 0 then throw zero
          let n ← if b.isEmpty then pure none else some <$> number b
          match n with
          | some k => if k < m then throw "invalid decreasing range" else return ⟨m, some k⟩
          | none => return ⟨m, none⟩

def cut : Tool := fun _ args =>
  let style : FlagStyle :=
    { plain := "nsz", valued := "bcfdO"
      long := [⟨"bytes", 'b', true, false⟩, ⟨"characters", 'c', true, false⟩, ⟨"fields", 'f', true, false⟩,
        ⟨"delimiter", 'd', true, false⟩, ⟨"only-delimited", 's', false, false⟩, ⟨"complement", 'C', false, false⟩,
        ⟨"output-delimiter", 'O', true, false⟩, ⟨"zero-terminated", 'z', false, false⟩] }
  withGiven "cut" style args fun g => do
    let lists := g.flags.filter fun e => "bcf".toList.contains e.1
    let fields := g.has 'f'
    match lists with
    | [] => misuse "cut" "you must specify a list of bytes, characters, or fields"
    | _ :: _ :: _ => misuse "cut" "only one list may be specified"
    | [(_, text)] =>
      let delimiter := (g.value? 'd').getD "\t"
      if delimiter.length > 1 then misuse "cut" "the delimiter must be a single character"
      else if g.has 'd' && !fields then
        misuse "cut" "an input delimiter may be specified only when operating on fields"
      else if g.has 's' && !fields then
        misuse "cut" "suppressing non-delimited lines makes sense\n\tonly when operating on fields"
      else match readRanges fields text with
      | .error message => misuse "cut" message
      | .ok ranges =>
        let delimiterChar := delimiter.toList.headD '\x00'
        let chosen (n : Nat) : Bool := (ranges.any fun r => r.holds n) != g.has 'C'
        let between := (g.value? 'O').getD (if fields then String.singleton delimiterChar else "")
        let startsRange (n : Nat) : Bool := ranges.any fun r => r.first == n && !(ranges.any fun q => q.first < n && q.holds (n - 1) && q.holds n)
        let (texts, status) ← eachInput g.operands (complainPlainly "cut")
        let end' := if g.has 'z' then '\x00' else '\n'
        let cutLine (line : String) : String :=
          if fields then
            let parts := splitAll delimiterChar line
            if parts.length = 1 then (if g.has 's' then "" else line.push end')
            else
              let kept := (parts.zip (List.range parts.length)).filter fun e => chosen (e.2 + 1)
              (between.intercalate (kept.map Prod.fst)).push end'
          else
            let cs := line.toList
            let r := (cs.zip (List.range cs.length)).foldl (fun (acc : String × Option Nat) (c, i) =>
              if chosen (i + 1) then
                let gap := match acc.2 with
                  | none => ""
                  | some j => if j + 1 < i || (!g.has 'C' && startsRange (i + 1)) then between else ""
                ((acc.1 ++ gap).push c, some i)
              else acc) ("", none)
            r.1.push end'
        say "cut" (String.join (texts.map fun t => String.join ((piecesAt end' t.2).map cutLine))) status

/-! ## Pasting -/

def pasteSeparators : List Char → List String
  | [] => []
  | '\\' :: c :: cs =>
    (match c with
      | 'n' => "\n"
      | 't' => "\t"
      | '0' => ""
      | 'b' => "\x08"
      | 'f' => "\x0c"
      | 'r' => "\r"
      | 'v' => "\x0b"
      | c => String.singleton c) :: pasteSeparators cs
  | c :: cs => String.singleton c :: pasteSeparators cs

/-- Joins lines with separators that come round again. -/
def joinRound (separators : List String) (parts : List String) : String :=
  String.join ((parts.zip (List.range parts.length)).map fun (p, i) =>
    if i = 0 then p else separators.getD ((i - 1) % max 1 separators.length) "" ++ p)

def paste : Tool := fun _ args =>
  let style : FlagStyle :=
    { plain := "sz", valued := "d"
      long := [⟨"delimiters", 'd', true, false⟩, ⟨"serial", 's', false, false⟩] }
  withGiven "paste" style args fun g => do
    let separators := pasteSeparators ((g.value? 'd').getD "\t").toList
    let separators := if separators.isEmpty then [""] else separators
    let paths := if g.operands.isEmpty then ["-"] else g.operands
    let mut texts : List (List String) := []
    let mut status := 0
    let dashes := (paths.filter (· == "-")).length
    let standard ← if dashes > 0 then (do return bareLines ((← Act.readAll 0).toOption.getD "")) else pure []
    let mut dash := 0
    for path in paths do
      if path = "-" then
        if g.has 's' then
          texts := (if dash = 0 then standard else []) :: texts
        else
          let place := dash
          texts := ((standard.zip (List.range standard.length)).filterMap fun (l, i) =>
            if i % dashes = place then some l else none) :: texts
        dash := dash + 1
      else
        match ← readInput path with
        | .ok text => texts := bareLines text :: texts
        | .error fault =>
          complainPlainly "paste" path fault
          status := 1
          if !g.has 's' then return 1
    let columns := texts.reverse
    if g.has 's' then
      say "paste" (unlines (columns.map (joinRound separators))) status
    else
      let height := (columns.map List.length).foldl max 0
      say "paste" (unlines ((List.range height).map fun i =>
        joinRound separators (columns.map fun c => c.getD i ""))) status

/-! ## Comparing sorted files -/

/-- Walks through two sorted lists: each line with the side it stands on, 3 for both. -/
def mergeLines : Nat → List String → List String → List (Nat × String)
  | 0, _, _ => []
  | _, [], bs => bs.map fun b => (2, b)
  | _, as, [] => as.map fun a => (1, a)
  | n + 1, a :: as, b :: bs =>
    if a = b then (3, a) :: mergeLines n as bs
    else if a < b then (1, a) :: mergeLines n as (b :: bs)
    else (2, b) :: mergeLines n (a :: as) bs

/-- The first line of a list that is out of order. -/
def disorder? : List String → Option String
  | a :: b :: rest => if b < a then some b else disorder? (b :: rest)
  | _ => none

def comm : Tool := fun _ args =>
  let style : FlagStyle :=
    { plain := "123z"
      long := [⟨"check-order", 'k', false, false⟩, ⟨"nocheck-order", 'K', false, false⟩, ⟨"total", 't', false, false⟩,
        ⟨"output-delimiter", 'O', true, false⟩] }
  withGiven "comm" style args fun g => do
    match g.operands with
    | [] => misuse "comm" "missing operand"
    | [a] => misuse "comm" ("missing operand after " ++ quotedName a)
    | [a, b] =>
      match ← inputOf "comm" a with
      | none => return 1
      | some left =>
        match ← inputOf "comm" b with
        | none => return 1
        | some right =>
          let (as, bs) := (bareLines left, bareLines right)
          let gap := (g.value? 'O').getD "\t"
          let gap1 := if g.has '1' then "" else gap
          let gap2 := if g.has '2' then "" else gap
          let merged := mergeLines (as.length + bs.length + 1) as bs
          let shown := merged.filterMap fun (side, line) =>
            if side = 1 then (if g.has '1' then none else some line)
            else if side = 2 then (if g.has '2' then none else some (gap1 ++ line))
            else if g.has '3' then none else some (gap1 ++ gap2 ++ line)
          let count (side : Nat) : Nat := (merged.filter fun e => e.1 == side).length
          let total := if g.has 't' then
              gap.intercalate [Nat.repr (count 1), Nat.repr (count 2), Nat.repr (count 3), "total"] ++ "\n"
            else ""
          let disorders := if g.has 'K' then [] else
            (if (disorder? as).isSome then ["1"] else []) ++ (if (disorder? bs).isSome then ["2"] else [])
          let unpaired := merged.any fun e => e.1 != 3
          if !disorders.isEmpty && (unpaired || g.has 'k') then
            for d in disorders do
              Act.warn ("comm: file " ++ d ++ " is not in sorted order")
            if !g.has 'k' then Act.warn "comm: input is not in sorted order"
            say "comm" (unlines shown ++ total) 1
          else say "comm" (unlines shown ++ total)
    | _ => misuse "comm" ("extra operand " ++ quotedName (g.operands.getD 2 ""))

/-! ## Repeated lines -/

def uniq : Tool := fun _ args =>
  let style : FlagStyle :=
    { plain := "cduDiz", valued := "fsw"
      long := [⟨"count", 'c', false, false⟩, ⟨"repeated", 'd', false, false⟩, ⟨"unique", 'u', false, false⟩,
        ⟨"ignore-case", 'i', false, false⟩, ⟨"skip-fields", 'f', true, false⟩, ⟨"skip-chars", 's', true, false⟩,
        ⟨"check-chars", 'w', true, false⟩, ⟨"all-repeated", 'D', false, true⟩, ⟨"zero-terminated", 'z', false, false⟩] }
  withGiven "uniq" style args fun g => do
    let number (c : Char) (what : String) : Except String Nat :=
      match g.value? c with
      | none => .ok 0
      | some s => match count? s with
        | some n => .ok n
        | none => .error (quotedNumber s ++ ": invalid number of " ++ what)
    match number 'f' "fields to skip", number 's' "bytes to skip", number 'w' "bytes to compare" with
    | .error m, _, _ | _, .error m, _ | _, _, .error m => report "uniq" m
    | .ok fields, .ok skipped, .ok width =>
      let ending := if g.has 'z' then '\x00' else '\n'
      let rec dropFields : Nat → List Char → List Char
        | 0, cs => cs
        | n + 1, cs => dropFields n ((cs.dropWhile isBlank).dropWhile fun c => !isBlank c)
      let key (line : String) : List Char :=
        let cs := (dropFields fields line.toList).drop skipped
        let cs := if g.has 'w' then cs.take width else cs
        if g.has 'i' then cs.map lowerOf else cs
      match g.operands with
      | _ :: _ :: third :: _ => misuse "uniq" ("extra operand " ++ quotedName third)
      | operands =>
        match ← inputOf "uniq" (operands.headD "-") with
        | none => return 1
        | some text =>
          let runs := (piecesAt ending text).foldl (fun (acc : List (List Char × List String)) line =>
            let k := key line
            match acc with
            | (former, lines) :: rest => if former = k then (former, line :: lines) :: rest else (k, [line]) :: acc
            | [] => [(k, [line])]) []
          let shown := runs.reverse.flatMap fun (_, lines) =>
            let lines := lines.reverse
            let n := lines.length
            if g.has 'D' then (if n > 1 then lines else [])
            else if (g.has 'd' && n = 1) || (g.has 'u' && n > 1) then []
            else [(if g.has 'c' then padded 7 false (Nat.repr n) ++ " " else "") ++ lines.headD ""]
          let out := String.join (shown.map fun l => l.push ending)
          match operands with
          | [_, target] =>
            match ← Act.openToWrite target .fresh with
            | .ok i =>
              if let some f := (← Act.world).opened[i]? then
                let _ ← Act.writeOpened i f out
              return 0
            | .error fault => report "uniq" (quotedIfNeeded target ++ ": " ++ fault.reason)
          | _ => say "uniq" out
where
  /-- A number as a report names it. -/
  quotedNumber (s : String) : String := s

/-! ## Joining -/

/-- The fields of a line, at a separator or at runs of blanks. -/
def fieldsAt (separator : Option Char) (line : String) : List String :=
  match separator with
  | some c => splitAll c line
  | none => (((line.toList.map fun c => if isBlank c || c == '\n' then ' ' else c) |> String.ofList |> splitAll ' ').filter
      fun w => !w.isEmpty)

/-- A place of a joined line: the field that both share, or a field of one of the files. -/
inductive JoinPlace where
  | shared
  | field (side n : Nat)

def readJoinPlaces (s : String) : Option (List JoinPlace) :=
  let words := (s.toList.map fun c => if c = ',' then ' ' else c) |> String.ofList |> splitAll ' '
  (words.filter fun w => !w.isEmpty).mapM fun w =>
    if w = "0" then some JoinPlace.shared
    else match splitFirst? '.' w with
      | some ("1", n) => (count? n).map (JoinPlace.field 1)
      | some ("2", n) => (count? n).map (JoinPlace.field 2)
      | _ => none

/-- Joins two files that are sorted by a field, a group of equal fields at a time. -/
def joinGroups (le : String → String → Bool) : Nat → List (String × List String) → List (String × List String) →
    List (String × List (List String) × List (List String))
  | 0, _, _ => []
  | _, [], [] => []
  | n + 1, (k, a) :: as, [] => (k, [a], []) :: joinGroups le n as []
  | n + 1, [], (k, b) :: bs => (k, [], [b]) :: joinGroups le n [] bs
  | n + 1, (j, a) :: as, (k, b) :: bs =>
    if j == k || (le j k && le k j) then
      let same (e : String × List String) : Bool := le e.1 j && le j e.1
      let left := ((j, a) :: as).takeWhile same
      let right := ((k, b) :: bs).takeWhile same
      (j, left.map Prod.snd, right.map Prod.snd) ::
        joinGroups le n (((j, a) :: as).drop left.length) (((k, b) :: bs).drop right.length)
    else if le j k then (j, [a], []) :: joinGroups le n as ((k, b) :: bs)
    else (k, [], [b]) :: joinGroups le n ((j, a) :: as) bs

/-- Joins the lines of two files that share a field. -/
def join : Tool := fun _ args =>
  let style : FlagStyle :=
    { plain := "iz", valued := "aetjov12"
      long := [⟨"ignore-case", 'i', false, false⟩, ⟨"header", 'H', false, false⟩, ⟨"nocheck-order", 'K', false, false⟩,
        ⟨"check-order", 'k', false, false⟩] }
  withGiven "join" style args fun g => do
    match g.operands with
    | [] => misuse "join" "missing operand"
    | [a] => misuse "join" ("missing operand after " ++ quotedName a)
    | [a, b] =>
      match ← inputOf "join" a with
      | none => return 1
      | some left =>
        match ← inputOf "join" b with
        | none => return 1
        | some right =>
          let separator := (g.value? 't').bind fun s => s.toList.head?
          let gap := (separator.map String.singleton).getD " "
          let place (c : Char) : Nat := (((g.value? c).or (g.value? 'j')).bind count?).getD 1
          let fold (s : String) : String := if g.has 'i' then lowered s else s
          let keyed (n : Nat) (text : String) : List (String × List String) :=
            (bareLines text).map fun l =>
              let fields := fieldsAt separator l
              (fold (fields.getD (n - 1) ""), fields)
          let (n1, n2) := (place '1', place '2')
          let (as, bs) := (keyed n1 left, keyed n2 right)
          let groups := joinGroups textLe (as.length + bs.length + 1) as bs
          let shows (side : String) : Bool := (g.values 'a').contains side || (g.values 'v').contains side
          let empty := (g.value? 'e').getD ""
          let rest (n : Nat) (fields : List String) : List String := fields.eraseIdx (n - 1)
          let places := (g.value? 'o').bind fun s => if s = "auto" then none else readJoinPlaces s
          let fill (s : String) : String := if s.isEmpty then empty else s
          let line (key : String) (one two : Option (List String)) : String :=
            match places with
            | some places => gap.intercalate (places.map fun p => match p with
              | .shared => fill key
              | .field 1 n => fill ((one.getD []).getD (n - 1) "")
              | .field _ n => fill ((two.getD []).getD (n - 1) ""))
            | none => gap.intercalate (key :: ((one.map (rest n1)).getD [] ++ (two.map (rest n2)).getD []))
          let key1 (fields : List String) : String := fields.getD (n1 - 1) ""
          let key2 (fields : List String) : String := fields.getD (n2 - 1) ""
          let lines := groups.flatMap fun (_, ls, rs) =>
            match ls, rs with
            | [], rs => if shows "2" then rs.map fun r => line (key2 r) none (some r) else []
            | ls, [] => if shows "1" then ls.map fun l => line (key1 l) (some l) none else []
            | ls, rs => if g.has 'v' then [] else ls.flatMap fun l => rs.map fun r => line (key1 l) (some l) (some r)
          let disorders (side : String) (path text : String) (es : List (String × List String)) : List String :=
            let ks := es.map Prod.fst
            let pairs := (ks.zip ks.tail).zip (List.range ks.length)
            match pairs.find? fun p => p.1.2 < p.1.1 with
            | some (_, i) => [path ++ ":" ++ Nat.repr (i + 2) ++ ": is not sorted: " ++ (bareLines text).getD (i + 1) ""]
            | none => let _ := side; []
          let faults := if g.has 'K' then [] else disorders "1" a left as ++ disorders "2" b right bs
          let unpaired := groups.any fun e => e.2.1.isEmpty || e.2.2.isEmpty
          if !faults.isEmpty && unpaired then
            for f in faults do
              Act.warn ("join: " ++ f)
            Act.warn "join: input is not in sorted order"
            say "join" (unlines lines) 1
          else say "join" (unlines lines)
    | _ => misuse "join" ("extra operand " ++ quotedName (g.operands.getD 2 ""))

/-! ## Splitting -/

/-- The names of the parts of a file: a number in letters or digits. -/
def partSuffix (digits : Bool) (width n : Nat) : String :=
  let base := if digits then 10 else 26
  let rec go : Nat → Nat → List Char → List Char
    | 0, _, acc => acc
    | w + 1, n, acc => go w (n / base) (Char.ofNat ((if digits then 48 else 97) + n % base) :: acc)
  String.ofList (go width n [])

def split : Tool := fun _ args =>
  let args := match oldAmount? args with
    | some (n, rest) => "-l" :: n :: rest
    | none => args
  let style : FlagStyle :=
    { plain := "dex", valued := "abclnt"
      long := [⟨"lines", 'l', true, false⟩, ⟨"bytes", 'b', true, false⟩, ⟨"suffix-length", 'a', true, false⟩,
        ⟨"numeric-suffixes", 'd', false, true⟩, ⟨"number", 'n', true, false⟩, ⟨"additional-suffix", 'S', true, false⟩] }
  withGiven "split" style args fun g => do
    let source := g.operands.headD "-"
    let front := g.operands.getD 1 "x"
    match ← readInput source with
    | .error fault => report "split" ("cannot open " ++ quotedName source ++ " for reading: " ++ fault.reason)
    | .ok text =>
      let number (c : Char) (what : String) : Except String Nat :=
        match g.value? c with
        | none => .ok 1000
        | some s => match scaled? s with
          | some 0 | none => .error ("invalid number of " ++ what ++ ": " ++ quotedName s)
          | some n => .ok n
      match number 'l' "lines", number 'b' "bytes" with
      | .error m, _ | _, .error m => report "split" m
      | .ok lines, .ok octets =>
        let parts := match (g.value? 'n').bind count? with
          | some k =>
            let size := text.length / max 1 k
            (List.range k).map fun i =>
              if i + 1 = k then dropText (i * size) text else takeText size (dropText (i * size) text)
          | none =>
            if g.has 'b' then (chunks octets (text.length + 1) text.toList).map String.ofList
            else
              let all := wholeLines text
              (chunks lines (all.length + 1) all).map String.join
        let width := ((g.value? 'a').bind count?).getD 2
        for (p, i) in parts.zip (List.range parts.length) do
          let path := front ++ partSuffix (g.has 'd') width i ++ (g.value? 'S').getD ""
          match ← Act.openToWrite path .fresh with
          | .ok i =>
            if let some f := (← Act.world).opened[i]? then
              let _ ← Act.writeOpened i f p
          | .error fault => return ← report "split" (path ++ ": " ++ fault.reason)
        return 0

/-! ## Characters -/

inductive SetPart where
  | chars (cs : List Char)
  | named (name : String)
  | repeated (c : Char) (count : Option Nat)
deriving Repr, DecidableEq

/-- One character of a set in its notation, with what is behind it. -/
def takeSetChar : List Char → Option (Char × List Char)
  | [] => none
  | ['\\'] => some ('\\', [])
  | '\\' :: c :: cs =>
    if '0' ≤ c && c ≤ '7' then
      let digits := (c :: cs).take 3 |>.takeWhile fun c => '0' ≤ c && c ≤ '7'
      let digits := if ((numberIn? 8 digits).getD 0) > 255 then digits.take 2 else digits
      some (Char.ofNat ((numberIn? 8 digits).getD 0), (c :: cs).drop digits.length)
    else some (match c with
      | 'a' => '\x07'
      | 'b' => '\x08'
      | 'f' => '\x0c'
      | 'n' => '\n'
      | 'r' => '\r'
      | 't' => '\t'
      | 'v' => '\x0b'
      | c => c, cs)
  | c :: cs => some (c, cs)

/-- The text up to a closing pair of characters. -/
def upToPair (a b : Char) (taken : List Char) : List Char → Option (List Char × List Char)
  | [] => none
  | c :: cs =>
    match cs with
    | d :: rest => if c = a && d = b then some (taken.reverse, rest) else upToPair a b (c :: taken) cs
    | [] => none

def readSet : Nat → List Char → Except String (List SetPart)
  | 0, _ => .ok []
  | _, [] => .ok []
  | n + 1, cs =>
    let plain : Except String (List SetPart) :=
      match takeSetChar cs with
      | none => .ok []
      | some (a, '-' :: rest) =>
        if rest.isEmpty then do return .chars [a] :: (← readSet n ('-' :: rest))
        else match takeSetChar rest with
        | some (b, rest) =>
          if b < a then
            .error ("range-endpoints of '" ++ shown a ++ "-" ++ shown b ++ "' are in reverse collating sequence order")
          else do
            let range := (List.range (b.toNat - a.toNat + 1)).map fun i => Char.ofNat (a.toNat + i)
            return .chars range :: (← readSet n rest)
        | none => do return .chars [a] :: (← readSet n ('-' :: rest))
      | some (a, rest) => do return .chars [a] :: (← readSet n rest)
    match cs with
    | '[' :: ':' :: rest =>
      match upToPair ':' ']' [] rest with
      | some (name, behind) =>
        let name := String.ofList name
        if (classNamed? name).isSome then do return .named name :: (← readSet n behind)
        else if name.isEmpty then .error "missing character class name '[::]'"
        else .error ("invalid character class " ++ quotedName name)
      | none => plain
    | '[' :: '=' :: rest =>
      match upToPair '=' ']' [] rest with
      | some ([c], behind) => do return .chars [c] :: (← readSet n behind)
      | some (s, _) => if s.isEmpty then .error "missing equivalence class character '[==]'"
        else .error (String.ofList s ++ ": equivalence class operand must be a single character")
      | none => plain
    | '[' :: rest =>
      match takeSetChar rest with
      | some (c, '*' :: more) =>
        let digits := more.takeWhile (· != ']')
        if more.drop digits.length = [] then plain
        else
          let base := if digits.head? = some '0' then 8 else 10
          if digits.isEmpty then do return .repeated c none :: (← readSet n (more.drop 1))
          else match numberIn? base digits with
            | some 0 => do return .repeated c none :: (← readSet n (more.drop (digits.length + 1)))
            | some k => do return .repeated c (some k) :: (← readSet n (more.drop (digits.length + 1)))
            | none => .error ("invalid repeat count " ++ quotedName (String.ofList digits) ++ " in [c*n] construct")
      | _ => plain
    | _ => plain
where
  /-- A character as reports show it. -/
  shown (c : Char) : String :=
    if isGraph c || c == ' ' then String.singleton c else "\\" ++ Floating.zeroFilled 3 (digitsIn 8 c.toNat)

def charsOfClass (name : String) : List Char :=
  match classNamed? name with
  | some p => ((List.range 256).map Char.ofNat).filter p
  | none => []

/-- The characters of a set; what is repeated without a count fills it up to a length. -/
def charsOfSet (length : Nat) (parts : List SetPart) : List Char :=
  let sizeOf (p : SetPart) : Nat := match p with
    | .chars cs => cs.length
    | .named name => (charsOfClass name).length
    | .repeated _ (some k) => k
    | .repeated _ none => 0
  let fixed := (parts.map sizeOf).foldl (· + ·) 0
  parts.flatMap fun p => match p with
    | .chars cs => cs
    | .named name => charsOfClass name
    | .repeated c (some k) => List.replicate k c
    | .repeated c none => List.replicate (length - fixed) c

/-- Lower and upper letters where a class stands for the other case. -/
def caseClass? (parts : List SetPart) : Option String :=
  match parts with
  | [.named "lower"] => some "lower"
  | [.named "upper"] => some "upper"
  | _ => none

def tr : Tool := fun _ args =>
  let style : FlagStyle :=
    { plain := "cCdst", stopsEarly := true
      long := [⟨"complement", 'c', false, false⟩, ⟨"delete", 'd', false, false⟩, ⟨"squeeze-repeats", 's', false, false⟩,
        ⟨"truncate-set1", 't', false, false⟩] }
  withGiven "tr" style args fun g => do
    let (deletes, squeezes) := (g.has 'd', g.has 's')
    let wanted := if deletes != squeezes then 1 else 2
    let most := if deletes && !squeezes then 1 else 2
    match g.operands with
    | [] => misuse "tr" "missing operand"
    | first :: more =>
      if more.length + 1 < wanted then
        Act.warn ("tr: missing operand after " ++ quotedName first)
        Act.warn (if deletes then "Two strings must be given when both deleting and squeezing repeats."
          else "Two strings must be given when translating.")
        pointToHelp "tr"
        return 1
      else if more.length + 1 > most then
        Act.warn ("tr: extra operand " ++ quotedName (more.getD (most - 1) ""))
        if more.length = 1 then Act.warn "Only one string may be given when deleting without squeezing repeats."
        pointToHelp "tr"
        return 1
      else
        let second := more.head?
        match readSet (first.length + 1) first.toList, (second.map fun s => readSet (s.length + 1) s.toList).getD (.ok []) with
        | .error m, _ | _, .error m => report "tr" m
        | .ok parts1, .ok parts2 =>
          let complement := g.has 'c' || g.has 'C'
          let all := (List.range 256).map Char.ofNat
          let set1 := charsOfSet 0 parts1
          let set1 := if complement then all.filter fun c => !set1.contains c else set1
          let isRepeated (p : SetPart) : Bool := match p with
            | .repeated _ _ => true
            | _ => false
          let isClass (p : SetPart) : Bool := match p with
            | .named n => n != "upper" && n != "lower"
            | _ => false
          let translates := second.isSome && !deletes
          if parts1.any isRepeated then
            report "tr" "the [c*] repeat construct may not appear in string1"
          else if translates && parts2.any isClass then
            report "tr" "when translating, the only character classes that may appear in\nstring2 are 'upper' and 'lower'"
          else if translates && !g.has 't' && (second.getD "").isEmpty then
            report "tr" "when not truncating set1, string2 must be non-empty"
          else if translates && (caseClass? parts2).isSome && (caseClass? parts1).isNone && !complement then
            report "tr" "misaligned [:upper:] and/or [:lower:] construct"
          else
            let set2 := charsOfSet set1.length parts2
            let set2 := if translates && !g.has 't' && set2.length < set1.length then
                set2 ++ List.replicate (set1.length - set2.length) (set2.getLast?.getD ' ')
              else set2
            let pairs := set1.zip set2
            let table : Array Char := (all.map fun c =>
              ((pairs.filter fun e => e.1 == c).getLast?.map Prod.snd).getD c).toArray
            let translate (c : Char) : Char := table.getD c.toNat c
            let deleted : Array Bool := (all.map fun c => deletes && set1.contains c).toArray
            let squeezeSet := if second.isSome then (if deletes then charsOfSet 0 parts2 else set2) else set1
            let squeezed : Array Bool := (all.map fun c => squeezes && squeezeSet.contains c).toArray
            let text := (← Act.readAll 0).toOption.getD ""
            let r := text.toList.foldl (fun (acc : String × Option Char) c =>
              if deleted.getD c.toNat false then acc
              else
                let c := if translates then translate c else c
                if squeezed.getD c.toNat false && acc.2 == some c then acc
                else (acc.1.push c, some c)) ("", none)
            say "tr" r.1

end SpeechConfig.Shell.Tool
