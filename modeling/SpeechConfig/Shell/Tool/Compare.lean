/-
# Comparing files

Tools that tell how two files differ: at which octet, or by which lines.
-/
import SpeechConfig.Shell.Tool.List

namespace SpeechConfig.Shell.Tool

/-! ## Octet by octet -/

/-- Reads both files of a comparison; none if one of them cannot be read, which is
reported. -/
def bothInputs (name a b : String) (quoted : Bool) : Act (Option (String × String)) := do
  let read (path : String) : Act (Option String) := do
    match ← readInput path with
    | .ok text => return some text
    | .error fault =>
      Act.warn (name ++ ": " ++ (if quoted then quotedIfNeeded path else path) ++ ": " ++ fault.reason)
      return none
  match ← read a with
  | none => return none
  | some left =>
    match ← read b with
    | none => return none
    | some right => return some (left, right)

def cmp : Tool := fun _ args =>
  let style : FlagStyle :=
    { plain := "bls", valued := "in", status := 2
      long := [⟨"print-bytes", 'b', false, false⟩, ⟨"verbose", 'l', false, false⟩, ⟨"quiet", 's', false, false⟩,
        ⟨"silent", 's', false, false⟩, ⟨"bytes", 'n', true, false⟩, ⟨"ignore-initial", 'i', true, false⟩] }
  withGiven "cmp" style args fun g => do
    match g.operands with
    | [] => misuse "cmp" "missing operand after 'cmp'" 2
    | [a] =>
      if a = "-" then misuse "cmp" "missing operand after 'cmp'" 2
      else compare g a "-"
    | a :: b :: rest =>
      match rest with
      | _ :: _ :: extra :: _ => misuse "cmp" ("extra operand " ++ quotedName extra) 2
      | _ => compare g a b
where
  /-- Compares two files. -/
  compare (g : GivenFlags) (a b : String) : Act Nat := do
    match ← bothInputs "cmp" a b false with
    | none => return 2
    | some (left, right) =>
      let limit (s : String) : List Char :=
        let cs := s.toList.drop (((g.value? 'i').bind scaled?).getD 0)
        match (g.value? 'n').bind scaled? with
        | some n => cs.take n
        | none => cs
      let (xs, ys) := (limit left, limit right)
      let pairs := (xs.zip ys).zip (List.range xs.length)
      let differing := pairs.filter fun p => p.1.1 != p.1.2
      let shared := min xs.length ys.length
      let tellEnd : Act Unit := do
        if xs.length ≠ ys.length && !g.has 's' then
          let (short, text) := if xs.length < ys.length then (a, xs) else (b, ys)
          let lines := (text.filter (· == '\n')).length
          if text.isEmpty then Act.warn ("cmp: EOF on " ++ short ++ " which is empty")
          else if g.has 'l' then Act.warn ("cmp: EOF on " ++ short ++ " after byte " ++ Nat.repr shared)
          else Act.warn ("cmp: EOF on " ++ short ++ " after byte " ++ Nat.repr shared ++
            (if text.getLast? = some '\n' then ", line " ++ Nat.repr lines else ", in line " ++ Nat.repr (lines + 1)))
      if g.has 'l' then
        let width := (Nat.repr (min xs.length ys.length)).length
        for ((x, y), i) in differing do
          Act.put 1 (padded width false (Nat.repr (i + 1)) ++ " " ++ padded 3 false (digitsIn 8 x.toNat) ++ " " ++
            padded 3 false (digitsIn 8 y.toNat) ++ "\n")
        tellEnd
        return if differing.isEmpty && xs.length = ys.length then 0 else 1
      else match differing with
        | ((x, y), i) :: _ =>
          if !g.has 's' then
            let line := ((xs.take i).filter (· == '\n')).length + 1
            Act.put 1 (a ++ " " ++ b ++ " differ: " ++ (if g.has 'b' then "byte " else "char ") ++ Nat.repr (i + 1) ++ ", line " ++ Nat.repr line ++
              (if g.has 'b' then " is " ++ padded 3 false (digitsIn 8 x.toNat) ++ " " ++ visible x ++ " " ++
                padded 3 false (digitsIn 8 y.toNat) ++ " " ++ visible y else "") ++ "\n")
          return 1
        | [] =>
          tellEnd
          return if xs.length = ys.length then 0 else 1

/-! ## Line by line -/

/-- A change: how many lines in a row go away and how many come, behind some lines of each
file. -/
structure Change where
  oldAt : Nat
  oldCount : Nat
  newAt : Nat
  newCount : Nat
deriving Repr, DecidableEq

/-- The table of the lengths of longest common parts: row `i` is about what is behind the
first `i` lines. -/
def commonTable (a b : Array Nat) : Array (Array Nat) :=
  let rows := (List.range a.size).foldl (fun (rows : List (Array Nat)) k =>
    let i := a.size - 1 - k
    let below := rows.headD #[]
    let row := (List.range b.size).foldl (fun (acc : List Nat) m =>
      let j := b.size - 1 - m
      let right := acc.headD 0
      (if a.getD i 0 = b.getD j 0 then below.getD (j + 1) 0 + 1
        else max (below.getD j 0) right) :: acc) [0]
    row.toArray :: rows) [Array.replicate (b.size + 1) 0]
  rows.toArray

/-- Which lines of each file are changed, by a walk through the table. -/
def changedLines (a b : Array Nat) (table : Array (Array Nat)) :
    Nat → Nat → Nat → List Nat → List Nat → List Nat × List Nat
  | 0, _, _, old, new => (old, new)
  | n + 1, i, j, old, new =>
    if i ≥ a.size && j ≥ b.size then (old, new)
    else if i ≥ a.size then changedLines a b table n i (j + 1) old (j :: new)
    else if j ≥ b.size then changedLines a b table n (i + 1) j (i :: old) new
    else if a.getD i 0 = b.getD j 0 then changedLines a b table n (i + 1) (j + 1) old new
    else
      let at' (i j : Nat) : Nat := (table.getD i #[]).getD j 0
      if at' (i + 1) j ≥ at' i (j + 1) then changedLines a b table n (i + 1) j (i :: old) new
      else changedLines a b table n i (j + 1) old (j :: new)

/-- Moves runs of changed lines as far to the end as they can go. -/
def settleRuns (lines : Array Nat) (changed : Array Bool) : Nat → Nat → Array Bool
  | 0, _ => changed
  | n + 1, i =>
    if i ≥ lines.size then changed
    else if !changed.getD i false then settleRuns lines changed n (i + 1)
    else
      let stop := (List.range (lines.size - i)).find? (fun k => !changed.getD (i + k) false) |>.map (i + ·) |>.getD lines.size
      if stop < lines.size && lines.getD i 0 = lines.getD stop 0 then
        settleRuns lines ((changed.set! i false).set! stop true) n (i + 1)
      else settleRuns lines changed n stop

/-- The changes that lead from one file to another. -/
def changesOf (a b : Array Nat) : List Change :=
  let front := ((a.toList.zip b.toList).takeWhile fun p => p.1 == p.2).length
  let back := (((a.toList.drop front).reverse.zip (b.toList.drop front).reverse).takeWhile fun p => p.1 == p.2).length
  let middle (xs : Array Nat) : Array Nat := xs.extract front (xs.size - back)
  let (old, new) := changedLines (middle a) (middle b) (commonTable (middle a) (middle b))
    (a.size + b.size + 1) 0 0 [] []
  let marks (size : Nat) (list : List Nat) : Array Bool :=
    list.foldl (fun (m : Array Bool) i => m.set! (i + front) true) (Array.replicate size false)
  let oldMarks := settleRuns a (marks a.size old) (4 * a.size + 4) 0
  let newMarks := settleRuns b (marks b.size new) (4 * b.size + 4) 0
  let rec collect : Nat → Nat → Nat → List Change
    | 0, _, _ => []
    | n + 1, i, j =>
      let x := oldMarks.getD i false
      let y := newMarks.getD j false
      if i ≥ a.size && j ≥ b.size then []
      else if !x && !y then collect n (i + 1) (j + 1)
      else
        let runOf (m : Array Bool) (start : Nat) : Nat :=
          ((List.range (m.size - start)).takeWhile fun k => m.getD (start + k) false).length
        let (p, q) := (runOf oldMarks i, runOf newMarks j)
        ⟨i, p, j, q⟩ :: collect n (i + p) (j + q)
  collect (a.size + b.size + 1) 0 0

structure DiffStyle where
  ignoreCase : Bool := false
  ignoreSpace : Bool := false
  ignoreAmount : Bool := false
  ignoreBlankLines : Bool := false
  ignoreEnd : Bool := false

def DiffStyle.key (s : DiffStyle) (line : String) : String :=
  let cs := line.toList
  let cs := if s.ignoreCase then cs.map lowerOf else cs
  let squeeze (cs : List Char) : List Char :=
    let r := cs.foldl (fun (acc : List Char × Bool) c =>
      if isSpace c then (acc.1, true) else (if acc.2 then c :: ' ' :: acc.1 else c :: acc.1, false)) ([], false)
    r.1.reverse
  let cs := if s.ignoreSpace then cs.filter fun c => !isSpace c
    else if s.ignoreAmount then squeeze cs
    else if s.ignoreEnd then (cs.reverse.dropWhile isSpace).reverse else cs
  String.ofList cs

/-- A range of lines as a change shows it. -/
def lineRange (start count : Nat) : String :=
  if count ≤ 1 then Nat.repr (start + count) else Nat.repr (start + 1) ++ "," ++ Nat.repr (start + count)

/-- A line of a file with a mark in front of it. -/
def markedLine (mark line : String) : String :=
  if line.endsWith "\n" then mark ++ line else mark ++ line ++ "\n\\ No newline at end of file\n"

def plainChanges (a b : Array String) (changes : List Change) : String :=
  String.join (changes.map fun c =>
    let old := (a.extract c.oldAt (c.oldAt + c.oldCount)).toList
    let new := (b.extract c.newAt (c.newAt + c.newCount)).toList
    let letter := if c.oldCount = 0 then "a" else if c.newCount = 0 then "d" else "c"
    lineRange c.oldAt c.oldCount ++ letter ++ lineRange c.newAt c.newCount ++ "\n" ++
      String.join (old.map (markedLine "< ")) ++
      (if c.oldCount > 0 && c.newCount > 0 then "---\n" else "") ++
      String.join (new.map (markedLine "> ")))

def groupChanges (context : Nat) : List Change → List (List Change)
  | [] => []
  | c :: rest =>
    match groupChanges context rest with
    | (d :: group) :: more =>
      if d.oldAt - (c.oldAt + c.oldCount) ≤ 2 * context then (c :: d :: group) :: more
      else [c] :: (d :: group) :: more
    | more => [c] :: more

/-- A range of lines as a hunk shows it. -/
def hunkRange (start count : Nat) : String :=
  if count = 1 then Nat.repr (start + 1)
  else Nat.repr (if count = 0 then start else start + 1) ++ "," ++ Nat.repr count

/-- Changes with their surroundings, in the format of one column. -/
def unifiedChanges (context : Nat) (a b : Array String) (changes : List Change) : String :=
  String.join ((groupChanges context changes).map fun group =>
    let first := group.headD ⟨0, 0, 0, 0⟩
    let last := group.getLast?.getD first
    let start := first.oldAt - min context first.oldAt
    let newStart := first.newAt - (first.oldAt - start)
    let stop := min a.size (last.oldAt + last.oldCount + context)
    let newStop := last.newAt + last.newCount + (stop - (last.oldAt + last.oldCount))
    let body := group.foldl (fun (acc : String × Nat) c =>
      let kept := (a.extract acc.2 c.oldAt).toList.map (markedLine " ")
      let old := (a.extract c.oldAt (c.oldAt + c.oldCount)).toList.map (markedLine "-")
      let new := (b.extract c.newAt (c.newAt + c.newCount)).toList.map (markedLine "+")
      (acc.1 ++ String.join (kept ++ old ++ new), c.oldAt + c.oldCount)) ("", start)
    let tail := String.join ((a.extract body.2 stop).toList.map (markedLine " "))
    "@@ -" ++ hunkRange start (stop - start) ++ " +" ++ hunkRange newStart (newStop - newStart) ++ " @@\n" ++
      body.1 ++ tail)

/-- A range of lines as a hunk of two parts shows it. -/
def contextRange (start count : Nat) : String :=
  if count ≤ 1 then Nat.repr (start + count) else Nat.repr (start + 1) ++ "," ++ Nat.repr (start + count)

/-- Changes with their surroundings, in the format of two parts. -/
def contextChanges (context : Nat) (a b : Array String) (changes : List Change) : String :=
  String.join ((groupChanges context changes).map fun group =>
    let first := group.headD ⟨0, 0, 0, 0⟩
    let last := group.getLast?.getD first
    let start := first.oldAt - min context first.oldAt
    let newStart := first.newAt - (first.oldAt - start)
    let stop := min a.size (last.oldAt + last.oldCount + context)
    let newStop := last.newAt + last.newCount + (stop - (last.oldAt + last.oldCount))
    let mark (c : Change) (sign : String) : String := if c.oldCount > 0 && c.newCount > 0 then "! " else sign
    let half (lines : Array String) (start stop : Nat) (sign : String) (at' count : Change → Nat) : String :=
      let r := group.foldl (fun (acc : String × Nat) c =>
        let kept := (lines.extract acc.2 (at' c)).toList.map (markedLine "  ")
        let own := (lines.extract (at' c) (at' c + count c)).toList.map (markedLine (mark c sign))
        (acc.1 ++ String.join (kept ++ own), at' c + count c)) ("", start)
      r.1 ++ String.join ((lines.extract r.2 stop).toList.map (markedLine "  "))
    let hasOld := group.any fun c => c.oldCount > 0
    let hasNew := group.any fun c => c.newCount > 0
    "***************\n*** " ++ contextRange start (stop - start) ++ " ****\n" ++
      (if hasOld then half a start stop "- " Change.oldAt Change.oldCount else "") ++
      "--- " ++ contextRange newStart (newStop - newStart) ++ " ----\n" ++
      (if hasNew then half b newStart newStop "+ " Change.newAt Change.newCount else ""))

/-- Compares two files by their lines. -/
def diffFiles (g : GivenFlags) (shown : String) (a b left right : String) : Act Nat := do
  let style : DiffStyle :=
    { ignoreCase := g.has 'i', ignoreSpace := g.has 'w', ignoreAmount := g.has 'b', ignoreBlankLines := g.has 'B'
      ignoreEnd := g.has 'Z' }
  let (xs, ys) := ((wholeLines left).toArray, (wholeLines right).toArray)
  let loose := g.has 'w' || g.has 'b' || g.has 'Z'
  let key (l : String) : String := style.key (if loose && l.endsWith "\n" then takeText (l.length - 1) l else l)
  let keys := (xs.toList ++ ys.toList).map key
  let names := keys.eraseDups
  let number (l : String) : Nat := (names.findIdx? (· == key l)).getD 0
  let changes := changesOf (xs.map number) (ys.map number)
  let isBlankChange (c : Change) : Bool :=
    style.ignoreBlankLines &&
      ((xs.extract c.oldAt (c.oldAt + c.oldCount)).toList ++ (ys.extract c.newAt (c.newAt + c.newCount)).toList).all
        fun l => l = "\n"
  let changes := changes.filter fun c => !isBlankChange c
  let isBinary (s : String) : Bool := s.toList.contains '\x00'
  if left = right || changes.isEmpty then
    if g.has 's' then Act.put 1 ("Files " ++ a ++ " and " ++ b ++ " are identical\n")
    return 0
  else if g.has 'q' then
    Act.put 1 ("Files " ++ a ++ " and " ++ b ++ " differ\n")
    return 1
  else if (isBinary left || isBinary right) && !g.has 'a' then
    Act.put 1 ("Binary files " ++ a ++ " and " ++ b ++ " differ\n")
    return 2
  else
    let labels := g.values 'L'
    let stamp (path : String) : Act String := do
      let time ← match ← walkTo true path with
        | .ok (.present l _) => Act.timeOf l
        | _ => pure 0
      return (Moment.ofSeconds (startOfTime + time / 1000000)).shown 0 "\t%Y-%m-%d %H:%M:%S.000000000 +0000".toList
    let name (i : Nat) (path : String) : Act String := do
      match labels[i]? with
      | some l => return l
      | none => return path ++ (← stamp path)
    let context := ((g.value? 'U').or (g.value? 'C')).bind count? |>.getD 3
    let body ← if g.has 'u' || g.has 'U' then (do
        return "--- " ++ (← name 0 a) ++ "\n+++ " ++ (← name 1 b) ++ "\n" ++ unifiedChanges context xs ys changes)
      else if g.has 'c' || g.has 'C' then (do
        return "*** " ++ (← name 0 a) ++ "\n--- " ++ (← name 1 b) ++ "\n" ++ contextChanges context xs ys changes)
      else pure (plainChanges xs ys changes)
    Act.put 1 (shown ++ body)
    return 1

/-- Compares what stands at two paths. -/
def diffPaths (g : GivenFlags) (flags : String) : Nat → Bool → String → String → Act Nat
  | 0, _, _, _ => return 2
  | n + 1, atTop, a, b => do
    let kindOf (path : String) : Act (Option Bool) := do
      if path = "-" then return some false
      else match ← walkTo true path with
        | .ok (.present _ .directory) => return some true
        | .ok (.present _ _) => return some false
        | _ => return if (Act.device? path).isSome || (Act.deviceStream? path).isSome then some false else none
    let missing (path : String) : Act Nat := report "diff" (path ++ ": No such file or directory") 2
    match ← kindOf a, ← kindOf b with
    | none, none =>
      let _ ← missing a
      missing b
    | none, _ => if g.has 'N' then diffTexts n atTop a b else missing a
    | _, none => if g.has 'N' then diffTexts n atTop a b else missing b
    | some true, some true =>
      if !atTop && !g.has 'r' then
        Act.put 1 ("Common subdirectories: " ++ a ++ " and " ++ b ++ "\n")
        return 0
      else
        match ← walkTo true a, ← walkTo true b with
        | .ok (.present l _), .ok (.present m _) =>
          let (left, right) := (← namesBelow l, ← namesBelow m)
          let all := (left ++ right.filter fun x => !left.contains x).mergeSort textLe
          let mut status := 0
          for name in all do
            if !right.contains name && !g.has 'N' then
              Act.put 1 ("Only in " ++ a ++ ": " ++ name ++ "\n")
              status := max status 1
            else if !left.contains name && !g.has 'N' then
              Act.put 1 ("Only in " ++ b ++ ": " ++ name ++ "\n")
              status := max status 1
            else status := max status (← diffPaths g flags n false (inside a name) (inside b name))
          return status
        | _, _ => return 2
    | some true, some false => if atTop then diffPaths g flags n true (inside a (lastPart b)) b else mixed a b
    | some false, some true => if atTop then diffPaths g flags n true a (inside b (lastPart a)) else mixed b a
    | some false, some false => diffTexts n atTop a b
where
  /-- Reports that a directory stands against a file. -/
  mixed (dir file : String) : Act Nat := do
    Act.put 1 ("File " ++ dir ++ " is a directory while file " ++ file ++ " is a regular file\n")
    return 1
  /-- Compares two files. -/
  diffTexts (_ : Nat) (atTop : Bool) (a b : String) : Act Nat := do
    let read (path : String) : Act String := do return (← readInput path).toOption.getD ""
    let left ← read a
    let right ← if a = "-" && b = "-" then pure left else read b
    let shown := if atTop || g.has 'q' then "" else "diff" ++ flags ++ " " ++ a ++ " " ++ b ++ "\n"
    diffFiles g shown a b left right

def diff : Tool := fun _ args =>
  let style : FlagStyle :=
    { plain := "abBcdeEilnNpqrstTuwyZ", valued := "CDFILSUWxX", status := 2
      long := [⟨"brief", 'q', false, false⟩, ⟨"recursive", 'r', false, false⟩, ⟨"unified", 'u', false, true⟩,
        ⟨"ignore-case", 'i', false, false⟩, ⟨"ignore-all-space", 'w', false, false⟩,
        ⟨"ignore-space-change", 'b', false, false⟩, ⟨"ignore-blank-lines", 'B', false, false⟩,
        ⟨"report-identical-files", 's', false, false⟩, ⟨"new-file", 'N', false, false⟩, ⟨"text", 'a', false, false⟩,
        ⟨"label", 'L', true, false⟩, ⟨"normal", 'n', false, false⟩, ⟨"color", 'K', false, true⟩,
        ⟨"strip-trailing-cr", 'R', false, false⟩, ⟨"context", 'c', false, true⟩] }
  withGiven "diff" style args fun g => do
    let flags := String.join ((args.filter fun a => a.startsWith "-" && a.length > 1).map fun a => " " ++ a)
    match g.operands with
    | [] => misuse "diff" "missing operand after 'diff'" 2
    | [a] => misuse "diff" ("missing operand after " ++ quotedName a) 2
    | [a, b] => diffPaths g flags 1000 true a b
    | _ :: _ :: extra :: _ => misuse "diff" ("extra operand " ++ quotedName extra) 2

end SpeechConfig.Shell.Tool
