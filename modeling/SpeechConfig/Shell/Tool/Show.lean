/-
# Showing texts

Tools that write texts out again: whole, in part, counted, numbered, folded or turned
round.
-/
import SpeechConfig.Shell.Regex.Read
import SpeechConfig.Shell.Tool.Basic

namespace SpeechConfig.Shell.Tool

/-- The lines of a text with their ends; the last one may lack it. -/
def wholeLines (s : String) : List String :=
  let parts := splitAll '\n' s
  match parts.reverse with
  | last :: before => (before.reverse.map fun l => l ++ "\n") ++ (if last.isEmpty then [] else [last])
  | [] => []

/-- The texts of inputs, each with its name; `complain` reports what is wrong with one. -/
def eachInput (paths : List String) (complain : String → StreamFault → Act Unit) :
    Act (List (String × String) × Nat) := do
  let mut found : List (String × String) := []
  let mut status := 0
  for path in if paths.isEmpty then ["-"] else paths do
    match ← readInput path with
    | .ok text => found := (path, text) :: found
    | .error fault =>
      complain path fault
      status := 1
  return (found.reverse, status)

/-! ## Whole texts -/

/-- An octet as `cat -v` shows it. -/
def visible (c : Char) : String :=
  let n := c.toNat
  let low (n : Nat) : String :=
    if n < 32 then "^" ++ String.singleton (Char.ofNat (n + 64))
    else if n = 127 then "^?" else String.singleton (Char.ofNat n)
  if n < 128 then low n else "M-" ++ low (n - 128)

def cat : Tool := fun _ args =>
  let style : FlagStyle :=
    { plain := "AbeEnstTuv"
      long := [⟨"show-all", 'A', false, false⟩, ⟨"number-nonblank", 'b', false, false⟩,
        ⟨"show-ends", 'E', false, false⟩, ⟨"number", 'n', false, false⟩, ⟨"squeeze-blank", 's', false, false⟩,
        ⟨"show-tabs", 'T', false, false⟩, ⟨"show-nonprinting", 'v', false, false⟩] }
  withGiven "cat" style args fun g => do
    let ends := g.has 'A' || g.has 'e' || g.has 'E'
    let tabs := g.has 'A' || g.has 't' || g.has 'T'
    let signs := g.has 'A' || g.has 'e' || g.has 't' || g.has 'v'
    let isPlain := !ends && !tabs && !signs && !g.has 'b' && !g.has 'n' && !g.has 's'
    let char (c : Char) : String :=
      if c = '\t' then (if tabs then "^I" else "\t")
      else if c = '\n' then "\n"
      else if signs then visible c else String.singleton c
    let mut status := 0
    let mut number := 1
    let mut blanks := 0
    let mut isOpen := false
    for path in if g.operands.isEmpty then ["-"] else g.operands do
      let isLoop := (← writesTo path).any (0 < ·)
      if isLoop then
        let _ ← report "cat" (quotedIfNeeded path ++ ": input file is output file")
        status := 1
      else
        match ← inputOf "cat" path with
        | none => status := 1
        | some text =>
          if isPlain then
            let one ← say "cat" text
            if one ≠ 0 then return one
          else
            let mut shown := ""
            for line in wholeLines text do
              let body := if line.endsWith "\n" then takeText (line.length - 1) line else line
              let isBlankLine := body.isEmpty && line.endsWith "\n" && !isOpen
              blanks := if isBlankLine then blanks + 1 else 0
              if !(g.has 's' && blanks > 1) then
                if !isOpen then
                  if (g.has 'b' && !isBlankLine) || (g.has 'n' && !g.has 'b') then
                    shown := shown ++ padded 6 false (Nat.repr number) ++ "\t"
                    number := number + 1
                shown := shown ++ String.join (body.toList.map char)
                if line.endsWith "\n" then shown := shown ++ (if ends then "$\n" else "\n")
                isOpen := !line.endsWith "\n"
            let one ← say "cat" shown
            if one ≠ 0 then return one
    return status

/-- Shows the lines of texts from the last to the first. -/
def tac : Tool := fun _ args =>
  let style : FlagStyle := { plain := "br", valued := "s", long := [⟨"separator", 's', true, false⟩] }
  withGiven "tac" style args fun g => do
    let (texts, status) ← eachInput g.operands fun path fault => do
      let shown := if path = "-" then "standard input" else quotedIfNeeded path
      match fault with
      | .isDirectory => Act.warn ("tac: " ++ shown ++ ": read error: Is a directory")
      | _ => Act.warn ("tac: failed to open " ++ quotedName path ++ " for reading: " ++ fault.reason)
    match g.value? 's' with
    | none => say "tac" (String.join (texts.map fun t => String.join (wholeLines t.2).reverse)) status
    | some s =>
      let turned (text : String) : String :=
        let parts := text.splitOn s
        let whole := parts.dropLast.map (· ++ s) ++ (parts.getLast?.toList.filter fun p => !p.isEmpty)
        String.join whole.reverse
      say "tac" (String.join (texts.map fun t => turned t.2)) status

def rev : Tool := fun _ args =>
  withGiven "rev" {} args fun g => do
    let (texts, status) ← eachInput g.operands fun path fault =>
      Act.warn ("rev: cannot open " ++ path ++ ": " ++ fault.reason)
    let turned (line : String) : String :=
      if line.endsWith "\n" then String.ofList (line.toList.dropLast.reverse) ++ "\n"
      else String.ofList line.toList.reverse
    say "rev" (String.join (texts.map fun t => String.join ((wholeLines t.2).map turned))) status

def tee : Tool := fun _ args =>
  let style : FlagStyle := { plain := "aip", long := [⟨"append", 'a', false, false⟩] }
  withGiven "tee" style args fun g => do
    let text := (← Act.readAll 0).toOption.getD ""
    let mut status := 0
    let mut places : List Nat := []
    for path in g.operands do
      match ← Act.openToWrite path (if g.has 'a' then .extend else .fresh) with
      | .ok i => places := i :: places
      | .error fault => status ← report "tee" (quotedIfNeeded path ++ ": " ++ fault.reason)
    let first ← say "tee" text
    if first ≠ 0 then status := 1
    for i in places.reverse do
      if let some f := (← Act.world).opened[i]? then
        let _ ← Act.writeOpened i f text
    return status

/-! ## Parts of texts -/

/-- How much of a text is wanted. -/
structure Amount where
  count : Nat
  octets : Bool
  fromStart : Bool := false
  allBut : Bool := false

def amount? (octets isTail : Bool) (s : String) : Option Amount :=
  match s.toList with
  | '-' :: cs => (scaled? (String.ofList cs)).map fun n => { count := n, octets := octets, allBut := !isTail }
  | '+' :: cs => (scaled? (String.ofList cs)).map fun n => { count := n, octets := octets, fromStart := isTail }
  | _ => if s.isEmpty then none else (scaled? s).map fun n => { count := n, octets := octets }

def Amount.front (a : Amount) (text : String) : String :=
  if a.octets then takeText (if a.allBut then text.length - a.count else a.count) text
  else
    let lines := wholeLines text
    String.join (lines.take (if a.allBut then lines.length - a.count else a.count))

def Amount.back (a : Amount) (text : String) : String :=
  if a.octets then dropText (if a.fromStart then a.count - 1 else text.length - a.count) text
  else
    let lines := wholeLines text
    String.join (lines.drop (if a.fromStart then a.count - 1 else lines.length - a.count))

/-- The old notation of a number in front of everything else, such as `-5`. -/
def oldAmount? (args : List String) : Option (String × List String) :=
  match args with
  | a :: rest =>
    match a.toList with
    | '-' :: c :: cs =>
      if isDigit c && cs.all isDigit then some (String.ofList (c :: cs), rest) else none
    | _ => none
  | [] => none

/-- How much is read at once where it cannot be given back. -/
def readingBlock : Nat := 8192

def part (name : String) (isTail : Bool) : Tool := fun _ args =>
  let args := match oldAmount? args with
    | some (n, rest) => "-n" :: n :: rest
    | none => args
  let style : FlagStyle :=
    { plain := "qvzfF", valued := "ncs"
      long := [⟨"lines", 'n', true, false⟩, ⟨"bytes", 'c', true, false⟩, ⟨"quiet", 'q', false, false⟩,
        ⟨"silent", 'q', false, false⟩, ⟨"verbose", 'v', false, false⟩, ⟨"zero-terminated", 'z', false, false⟩,
        ⟨"follow", 'f', false, true⟩] }
  withGiven name style args fun g => do
    let letter := g.lastOf "nc"
    let wanted : Except String Amount := match letter with
      | none => .ok { count := 10, octets := false }
      | some c =>
        let s := (g.value? c).getD ""
        match amount? (c == 'c') isTail s with
        | some a => .ok a
        | none =>
          let digits := match s.toList with
            | '-' :: cs | '+' :: cs => if isTail then String.ofList cs else String.ofList cs
            | _ => s
          .error ("invalid number of " ++ (if c = 'c' then "bytes" else "lines") ++ ": " ++ quotedName digits)
    match wanted with
    | .error message => report name message
    | .ok a =>
      let paths := if g.operands.isEmpty then ["-"] else g.operands
      let titled := g.has 'v' || (paths.length > 1 && !g.has 'q')
      let mut status := 0
      let mut isFirst := true
      for path in paths do
        let shownPath := if path = "-" then "standard input" else path
        let title := (if isFirst then "" else "\n") ++ "==> " ++ shownPath ++ " <==\n"
        let opened ← if path = "-" then pure ((← Act.openedAt 0).map Prod.fst) else
          match ← Act.openToRead path with
          | .ok i => pure (some i)
          | .error fault =>
            status ← report name ("cannot open " ++ quotedName path ++ " for reading: " ++ fault.reason)
            pure none
        match opened with
        | none =>
          if path = "-" then status ← report name "standard input: Bad file descriptor"
        | some i =>
          if let some f := (← Act.world).opened[i]? then
            if titled then Act.put 1 title
            isFirst := false
            match ← Act.restOf f with
            | .error fault => status ← report name ("error reading " ++ quotedName shownPath ++ ": " ++ fault.reason)
            | .ok text =>
              let zero := g.has 'z'
              let swap (s : String) : String := if zero then s.map fun c =>
                  if c = '\x00' then '\n' else if c = '\n' then '\x00' else c else s
              let chosen := swap (if isTail then a.back (swap text) else a.front (swap text))
              let isSeekable := match f.target with
                | .file _ => true
                | _ => false
              let used := if isTail then text.length
                else if isSeekable || (a.octets && !a.allBut) then chosen.length
                else if a.allBut then text.length
                else (chosen.length / readingBlock + 1) * readingBlock
              Act.skip i f used
              let one ← say name chosen
              if one ≠ 0 then return one
      return status

/-! ## Counts -/

structure Counts where
  lines : Nat := 0
  words : Nat := 0
  octets : Nat := 0
  longest : Nat := 0

def countsOf (text : String) : Counts :=
  let r := text.toList.foldl (fun (acc : Counts × Bool × Nat) c =>
    let (n, inWord, column) := acc
    let n := { n with octets := n.octets + 1 }
    if c = '\n' then ({ n with lines := n.lines + 1, longest := max n.longest column }, false, 0)
    else if c = '\r' || c = '\x0c' then ({ n with longest := max n.longest column }, false, 0)
    else if c = '\t' then (n, false, column + 8 - column % 8)
    else if c = ' ' then (n, false, column + 1)
    else if c = '\x0b' then (n, false, column)
    else if isGraph c then ({ n with words := n.words + (if inWord then 0 else 1) }, true, column + 1)
    else (n, inWord, column)) ({}, false, 0)
  { r.1 with longest := max r.1.longest r.2.2 }

def wc : Tool := fun _ args =>
  let style : FlagStyle :=
    { plain := "lwcmL"
      long := [⟨"lines", 'l', false, false⟩, ⟨"words", 'w', false, false⟩, ⟨"bytes", 'c', false, false⟩,
        ⟨"chars", 'm', false, false⟩, ⟨"max-line-length", 'L', false, false⟩, ⟨"total", 't', true, false⟩] }
  withGiven "wc" style args fun g => do
    let flags := g.flags.filter fun e => e.1 != 't'
    let wants (c : Char) : Bool := if flags.isEmpty then "lwc".toList.contains c else g.has c
    let columns := ("lwmcL".toList.filter wants)
    let paths := if g.operands.isEmpty then ["-"] else g.operands
    let sizes ← paths.mapM fun path => do
      if path = "-" then
        match ← Act.openedAt 0 with
        | some (_, { target := .file l, .. }) =>
          match (← Act.world).files.node? l with
          | some (.file content) => return some (some content.size)
          | _ => return some none
        | some _ => return some none
        | none => return none
      else match (← Act.files).walk .follow (pathOf path) with
        | .ok (.present _ (.file content)) =>
          return if (Act.device? path).isSome then some none else some (some content.size)
        | .ok (.present _ _) => return some none
        | _ => return none
    let total := (sizes.filterMap fun s => s.join).foldl (· + ·) 0
    let least := if sizes.any (fun s => s == some none) then 7 else 1
    let width := if paths.length = 1 && columns.length = 1 then 1 else max least (Nat.repr total).length
    let line (n : Counts) (name : String) : String :=
      let values := columns.map fun c => match c with
        | 'l' => n.lines
        | 'w' => n.words
        | 'L' => n.longest
        | _ => n.octets
      " ".intercalate (values.map fun v => padded width false (Nat.repr v)) ++
        (if name.isEmpty then "" else " " ++ name) ++ "\n"
    let mut text := ""
    let mut status := 0
    let mut sum : Counts := {}
    for path in paths do
      match ← readInput path with
      | .error fault =>
        status ← report "wc" (quotedIfNeeded path ++ ": " ++ fault.reason)
        if fault = .isDirectory then text := text ++ line {} path
      | .ok content =>
        let n := countsOf content
        sum := ⟨sum.lines + n.lines, sum.words + n.words, sum.octets + n.octets, max sum.longest n.longest⟩
        text := text ++ line n (if path = "-" && g.operands.isEmpty then "" else quotedIfNeeded path)
    if paths.length > 1 then text := text ++ line sum "total"
    say "wc" text status

/-! ## Numbered lines -/

def nl : Tool := fun _ args =>
  let style : FlagStyle :=
    { plain := "p", valued := "bdfhilnsvw"
      long := [⟨"body-numbering", 'b', true, false⟩, ⟨"number-format", 'n', true, false⟩,
        ⟨"number-separator", 's', true, false⟩, ⟨"number-width", 'w', true, false⟩,
        ⟨"starting-line-number", 'v', true, false⟩, ⟨"line-increment", 'i', true, false⟩] }
  withGiven "nl" style args fun g => do
    let (text, status) ← inputsOf "nl" g.operands
    let body := (g.value? 'b').getD "t"
    let separator := (g.value? 's').getD "\t"
    let width := ((g.value? 'w').bind count?).getD 6
    let step := ((g.value? 'i').bind integerOf?).getD 1
    let shown (n : Int) : String :=
      match (g.value? 'n').getD "rn" with
      | "ln" => padded width true (Int.repr n)
      | "rz" => (if n < 0 then "-" else "") ++ Floating.zeroFilled (if n < 0 then width - 1 else width) (Nat.repr n.natAbs)
      | _ => padded width false (Int.repr n)
    let pattern? : Option Regex := if body.startsWith "p" then
        ((Regex.ofText { extended := false } (dropText 1 body)).toOption.map Prod.fst) else none
    let wants (style line : String) : Bool :=
      if style = "a" then true
      else if style = "t" then !line.isEmpty
      else if style = "n" then false
      else match pattern? with
        | some r => r.finds (Subject.ofText line)
        | none => false
    let mark := match (g.value? 'd').getD "" |>.toList with
      | [a] => String.ofList [a, ':']
      | a :: b :: _ => String.ofList [a, b]
      | [] => "\\:"
    let start := ((g.value? 'v').bind integerOf?).getD 1
    let mut number := start
    let mut current := body
    let mut out := ""
    for whole in wholeLines text do
      let line := if whole.endsWith "\n" then takeText (whole.length - 1) whole else whole
      if line = mark ++ mark ++ mark then
        current := (g.value? 'h').getD "n"
        if !g.has 'p' then number := start
        out := out ++ "\n"
      else if line = mark ++ mark then
        current := body
        if !g.has 'p' then number := start
        out := out ++ "\n"
      else if line = mark then
        current := (g.value? 'f').getD "n"
        if !g.has 'p' then number := start
        out := out ++ "\n"
      else
        if wants current line then
          out := out ++ shown number ++ separator ++ line ++ "\n"
          number := number + step
        else out := out ++ String.ofList (List.replicate (width + separator.length) ' ') ++ line ++ "\n"
    say "nl" out status

/-! ## Widths -/

def columnBehind (octets : Bool) (column : Nat) (c : Char) : Nat :=
  if octets then column + 1
  else if c = '\t' then column + 8 - column % 8
  else if c = '\x08' then column - 1
  else if c = '\r' then 0
  else column + 1

/-- Breaks a line where it gets too wide.  `line` is what was taken, last character
first. -/
def foldLine (octets spaces : Bool) (width : Nat) : Nat → List Char → Nat → List Char → List Char
  | 0, line, _, rest => line.reverse ++ rest
  | _, line, _, [] => line.reverse
  | n + 1, line, column, c :: cs =>
    let next := columnBehind octets column c
    if next ≤ width || line.isEmpty then foldLine octets spaces width n (c :: line) next cs
    else
      let tail := if spaces then line.takeWhile (fun c => c != ' ' && c != '\t') else []
      let head := line.drop tail.length
      if spaces && !head.isEmpty then
        let column := tail.reverse.foldl (columnBehind octets) 0
        head.reverse ++ '\n' :: foldLine octets spaces width n tail column (c :: cs)
      else line.reverse ++ '\n' :: foldLine octets spaces width n [] 0 (c :: cs)

def fold : Tool := fun _ args =>
  let args := match oldAmount? args with
    | some (n, rest) => "-w" :: n :: rest
    | none => args
  let style : FlagStyle :=
    { plain := "bsc", valued := "w"
      long := [⟨"bytes", 'b', false, false⟩, ⟨"spaces", 's', false, false⟩, ⟨"width", 'w', true, false⟩] }
  withGiven "fold" style args fun g => do
    let asked := (g.value? 'w').getD "80"
    match count? asked with
    | none => report "fold" ("invalid number of columns: " ++ quotedName asked)
    | some 0 => report "fold" ("invalid number of columns: " ++ quotedName asked)
    | some width =>
      let (texts, status) ← eachInput g.operands fun path fault =>
        Act.warn ("fold: " ++ quotedIfNeeded path ++ ": " ++ fault.reason)
      let folded (line : String) : String :=
        let (body, ending) := if line.endsWith "\n" then (takeText (line.length - 1) line, "\n") else (line, "")
        String.ofList (foldLine (g.has 'b') (g.has 's') width (2 * body.length + 2) [] 0 body.toList) ++ ending
      say "fold" (String.join (texts.map fun t => String.join ((wholeLines t.2).map folded))) status

def nextStop (stops : List Nat) (column : Nat) : Nat :=
  match stops with
  | [n] => column + (n - column % n)
  | stops => (stops.find? fun s => column < s).getD (column + 1)

def tabStops? (s : String) : Option (List Nat) :=
  let parts := (s.toList.map fun c => if c = ',' then ' ' else c) |> String.ofList |> splitAll ' '
  let numbers := (parts.filter fun p => !p.isEmpty).map count?
  if numbers.isEmpty || numbers.any Option.isNone then none
  else
    let stops := numbers.filterMap id
    if stops.contains 0 then none else some stops

def expand : Tool := fun _ args =>
  let args := match oldAmount? args with
    | some (n, rest) => "-t" :: n :: rest
    | none => args
  let style : FlagStyle :=
    { plain := "i", valued := "t", long := [⟨"tabs", 't', true, false⟩, ⟨"initial", 'i', false, false⟩] }
  withGiven "expand" style args fun g => do
    let asked := (g.value? 't').getD "8"
    match tabStops? asked with
    | none => report "expand" (if asked = "0" then "tab size cannot be 0" else "tab size contains invalid character(s): " ++ quotedName asked)
    | some stops =>
      let (text, status) ← inputsOf "expand" g.operands
      let r := text.toList.foldl (fun (acc : String × Nat × Bool) c =>
        let (out, column, atStart) := acc
        if c = '\n' then (out.push c, 0, true)
        else if c = '\t' && (atStart || !g.has 'i') then
          let next := nextStop stops column
          (out ++ String.ofList (List.replicate (next - column) ' '), next, atStart)
        else if c = '\x08' then (out.push c, column - 1, false)
        else (out.push c, column + 1, atStart && c == ' ')) ("", 0, true)
      say "expand" r.1 status

/-- Puts tabs in the place of runs of blanks that end at a stop. -/
def unexpandLine (stops : List Nat) (everywhere : Bool) (cs : List Char) : String :=
  let finish (out : String) (pending : List Char) : String := out ++ String.ofList pending.reverse
  let r := cs.foldl (fun (acc : String × List Char × Nat × Bool) c =>
    let (out, pending, column, active) := acc
    if !active then (out.push c, pending, column, active)
    else if c = ' ' || c = '\t' then
      let next := nextStop stops column
      let behind := match stops with
        | [_] => false
        | stops => (stops.getLast?.getD 0) ≤ column
      if behind then (finish out pending |>.push c, [], column + 1, everywhere)
      else if c = '\t' then (out.push '\t', [], next, active)
      else if column + 1 = next then
        if pending.isEmpty && everywhere && false then (out.push ' ', [], next, active)
        else if pending.isEmpty then (out, [' '], next, active)
        else (out.push '\t', [], next, active)
      else
        let flushed := match stops with
          | [n] => column % n == 0
          | stops => column == 0 || stops.contains column
        if flushed && !pending.isEmpty then (out.push '\t', [c], column + 1, active)
        else (out, c :: pending, column + 1, active)
    else (finish out pending |>.push c, [], column + 1, everywhere)) ("", [], 0, true)
  finish r.1 r.2.1

def unexpand : Tool := fun _ args =>
  let style : FlagStyle :=
    { plain := "af", valued := "t"
      long := [⟨"tabs", 't', true, false⟩, ⟨"all", 'a', false, false⟩, ⟨"first-only", 'f', false, false⟩] }
  withGiven "unexpand" style args fun g => do
    let stops := ((g.value? 't').bind tabStops?).getD [8]
    let everywhere := (g.has 'a' || g.has 't') && !g.has 'f'
    let (text, status) ← inputsOf "unexpand" g.operands
    let turned (line : String) : String :=
      if line.endsWith "\n" then unexpandLine stops everywhere line.toList.dropLast ++ "\n"
      else unexpandLine stops everywhere line.toList
    say "unexpand" (String.join ((wholeLines text).map turned)) status

/-! ## Octets -/

/-- The size of an item in a dump, and how it is shown. -/
structure DumpKind where
  size : Nat
  width : Nat
  shown : Nat → String
  isText : Bool := false

/-- A value with a sign in a number of octets. -/
def signedValue (size n : Nat) : Int :=
  if n < Nat.pow 2 (8 * size - 1) then n else (n : Int) - (Nat.pow 2 (8 * size) : Nat)

/-- An octet as a character in a dump. -/
def dumpedChar (n : Nat) : String :=
  match n with
  | 0 => "\\0"
  | 7 => "\\a"
  | 8 => "\\b"
  | 9 => "\\t"
  | 10 => "\\n"
  | 11 => "\\v"
  | 12 => "\\f"
  | 13 => "\\r"
  | n => if isGraph (Char.ofNat n) || n = 32 then String.singleton (Char.ofNat n)
    else Floating.zeroFilled 3 (digitsIn 8 n)

/-- The names of octets that are no signs. -/
def namedChar (n : Nat) : String :=
  let n := n % 128
  if n = 127 then "del"
  else if n = 32 then "sp"
  else if n < 32 then
    ["nul", "soh", "stx", "etx", "eot", "enq", "ack", "bel", "bs", "ht", "nl", "vt", "ff", "cr", "so", "si",
      "dle", "dc1", "dc2", "dc3", "dc4", "nak", "syn", "etb", "can", "em", "sub", "esc", "fs", "gs", "rs",
      "us"].getD n ""
  else String.singleton (Char.ofNat n)

/-- The kind of dump that a type names. -/
def dumpKind? (letter : Char) (size : Nat) : Option DumpKind :=
  let octal (size : Nat) : Nat := (8 * size + 2) / 3
  let decimal (size : Nat) : Nat := [0, 3, 5, 8, 10, 13, 15, 17, 20].getD size 20
  match letter with
  | 'a' => some { size := 1, width := 3, shown := namedChar }
  | 'c' => some { size := 1, width := 3, shown := dumpedChar }
  | 'd' => some { size := size, width := decimal size + 1, shown := fun n => Int.repr (signedValue size n) }
  | 'o' => some { size := size, width := octal size, shown := fun n => Floating.zeroFilled (octal size) (digitsIn 8 n) }
  | 'u' => some { size := size, width := decimal size, shown := Nat.repr }
  | 'x' => some { size := size, width := 2 * size, shown := fun n => Floating.zeroFilled (2 * size) (digitsIn 16 n) }
  | _ => none

/-- The kinds that a type string names; a `z` behind one asks for the text as well. -/
def dumpKinds : Nat → List Char → Option (List DumpKind)
  | 0, _ => none
  | _, [] => some []
  | n + 1, c :: cs =>
    let digits := cs.takeWhile isDigit
    let (size, rest) := match digits, cs with
      | [], 'C' :: rest => (1, rest)
      | [], 'S' :: rest => (2, rest)
      | [], 'I' :: rest => (4, rest)
      | [], 'L' :: rest => (8, rest)
      | [], rest => (4, rest)
      | digits, _ => ((numberIn? 10 digits).getD 4, cs.drop digits.length)
    let (isText, rest) := match rest with
      | 'z' :: rest => (true, rest)
      | rest => (false, rest)
    match (if [1, 2, 4, 8].contains size then dumpKind? c size else none), dumpKinds n rest with
    | some k, some ks => some ({ k with isText := isText } :: ks)
    | _, _ => none

def littleValue (octets : List Char) : Nat :=
  octets.reverse.foldl (fun n c => n * 256 + c.toNat) 0

/-- Splits a list into parts of a length. -/
def chunks {α : Type} (size : Nat) : Nat → List α → List (List α)
  | 0, _ => []
  | _, [] => []
  | n + 1, xs => xs.take size :: chunks size n (xs.drop size)

def od : Tool := fun _ args =>
  let style : FlagStyle :=
    { plain := "abcdovsxilBDHOXhLF", valued := "AtjNwS"
      long := [⟨"address-radix", 'A', true, false⟩, ⟨"format", 't', true, false⟩, ⟨"skip-bytes", 'j', true, false⟩,
        ⟨"read-bytes", 'N', true, false⟩, ⟨"output-duplicates", 'v', false, false⟩, ⟨"width", 'w', true, false⟩] }
  let args := args.map fun a => if a = "-w" then "-w32" else a
  withGiven "od" style args fun g => do
    let (text, status) ← inputsOf "od" g.operands
    let names := g.flags.filterMap fun (c, s) => match c with
      | 't' => some s
      | 'a' => some "a"
      | 'b' => some "o1"
      | 'c' => some "c"
      | 'd' => some "u2"
      | 'o' | 'B' => some "o2"
      | 's' => some "d2"
      | 'x' | 'h' => some "x2"
      | 'i' => some "d4"
      | 'l' | 'L' => some "d8"
      | 'D' => some "u4"
      | 'O' => some "o4"
      | 'X' | 'H' => some "x4"
      | _ => none
    let names := if names.isEmpty then ["o2"] else names
    match names.find? fun s => (dumpKinds (s.length + 1) s.toList).isNone with
    | some s => report "od" ("invalid type string " ++ quotedName s)
    | none =>
      let kinds := (names.filterMap fun s => dumpKinds (s.length + 1) s.toList).flatten
      let skipped := ((g.value? 'j').bind scaled?).getD 0
      let octets := text.toList.drop skipped
      let octets := match (g.value? 'N').bind scaled? with
        | some n => octets.take n
        | none => octets
      let width := ((g.value? 'w').bind count?).getD 16
      let address (n : Nat) : String :=
        match (g.value? 'A').getD "o" with
        | "d" => Floating.zeroFilled 7 (Nat.repr n)
        | "x" => Floating.zeroFilled 6 (digitsIn 16 n)
        | "n" => ""
        | _ => Floating.zeroFilled 7 (digitsIn 8 n)
      let unit := kinds.foldl (fun m k => max m ((k.width + 1 + k.size - 1) / k.size)) 0
      let cell (k : DumpKind) : Nat := unit * k.size
      let row (start : Nat) (part : List Char) : String :=
        String.join ((kinds.zip (List.range kinds.length)).map fun (k, i) =>
          let items := chunks k.size (part.length + 1) part
          let shown := String.join (items.map fun item => padded (cell k) false (k.shown (littleValue item)))
          let fill := String.ofList (List.replicate (unit * (width - (items.length * k.size))) ' ')
          let textual := if k.isText then
              fill ++ "  >" ++ String.ofList (part.map fun c => if isGraph c || c == ' ' then c else '.') ++ "<"
            else ""
          let front := if i = 0 then address start
            else String.ofList (List.replicate (address start).length ' ')
          front ++ shown ++ textual ++ "\n")
      let rows := chunks width (octets.length + 1) octets
      let shown := (rows.zip (List.range rows.length)).foldl
        (fun (acc : String × Option (List Char) × Bool) (part, i) =>
          let (out, before, starred) := acc
          if !g.has 'v' && before == some part && part.length = width then
            (if starred then out else out ++ "*\n", before, true)
          else (out ++ row (skipped + i * width) part, some part, false)) ("", none, false)
      let last := address (skipped + octets.length)
      say "od" (shown.1 ++ (if last.isEmpty then "" else last ++ "\n")) status

end SpeechConfig.Shell.Tool
