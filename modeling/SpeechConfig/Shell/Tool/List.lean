/-
# Lists of files

Tools that show which files there are, what they are, and where links lead.
-/
import SpeechConfig.Shell.Tool.Files

namespace SpeechConfig.Shell.Tool

/-! ## Where paths lead -/

/-- Which parts of a path must be there. -/
inductive Existing where
  | all
  | allButLast
  | none
deriving DecidableEq, Repr

/-- The place that a path leads to over all links. -/
def canonicalPlace (existing : Existing) (path : String) : Act (Except FileSystem.Fault Location) := do
  match ← walkTo true path with
  | .ok (.present l n) =>
    if path.endsWith "/" && n ≠ .directory then return .error .notDirectory else return .ok l
  | .ok (.absent dir name) => if existing = .all then return .error .notFound else return .ok (name :: dir)
  | .error fault =>
    if existing ≠ .none then return .error fault
    else
      let here := (← Act.process).place
      let start : Location := if path.startsWith "/" then [] else here
      let parts := (splitAll '/' path).filter fun p => !p.isEmpty && p != "."
      let fs ← Act.files
      return .ok (parts.foldl (fun (l : Location) p =>
        if p = ".." then l.tail
        else match fs.walk .follow (pathOf (placeText (p :: l))) with
          | .ok (.present m _) => m
          | _ => p :: l) start)

def readlink : Tool := fun _ args =>
  let style : FlagStyle :=
    { plain := "femnqsvz"
      long := [⟨"canonicalize", 'f', false, false⟩, ⟨"canonicalize-existing", 'e', false, false⟩,
        ⟨"canonicalize-missing", 'm', false, false⟩, ⟨"no-newline", 'n', false, false⟩, ⟨"zero", 'z', false, false⟩] }
  withGiven "readlink" style args fun g => do
    if g.operands.isEmpty then misuse "readlink" "missing operand"
    else
      let ending := if g.has 'z' then "\x00" else if g.has 'n' && g.operands.length = 1 then "" else "\n"
      forAll g.operands fun path => do
        match g.lastOf "fem" with
        | none =>
          match ← walkTo false path with
          | .ok (.present _ (.link target)) => say "readlink" (Octets.ofText target.text ++ ending)
          | .ok (.present _ _) => if g.has 'v' then report "readlink" (path ++ ": Invalid argument") else return 1
          | _ => if g.has 'v' then report "readlink" (path ++ ": No such file or directory") else return 1
        | some letter =>
          let existing := if letter = 'e' then Existing.all else if letter = 'm' then .none else .allButLast
          match ← canonicalPlace existing path with
          | .ok l => say "readlink" (placeText l ++ ending)
          | .error fault => if g.has 'v' then report "readlink" (path ++ ": " ++ fault.reason) else return 1

/-- A place as it is seen from another. -/
def relativePath (here target : Location) : String :=
  let (a, b) := (here.reverse, target.reverse)
  let shared := ((a.zip b).takeWhile fun p => p.1 == p.2).length
  let parts := List.replicate (a.length - shared) ".." ++ b.drop shared
  if parts.isEmpty then "." else "/".intercalate parts

def realpath : Tool := fun _ args =>
  let style : FlagStyle :=
    { plain := "eELmPqsz"
      long := [⟨"canonicalize-existing", 'e', false, false⟩, ⟨"canonicalize-missing", 'm', false, false⟩,
        ⟨"no-symlinks", 's', false, false⟩, ⟨"strip", 's', false, false⟩, ⟨"quiet", 'q', false, false⟩,
        ⟨"relative-to", 'T', true, false⟩, ⟨"relative-base", 'B', true, false⟩, ⟨"zero", 'z', false, false⟩] }
  withGiven "realpath" style args fun g => do
    if g.operands.isEmpty then misuse "realpath" "missing operand"
    else
      let ending := if g.has 'z' then "\x00" else "\n"
      let existing := match g.lastOf "em" with
        | some 'e' => Existing.all
        | some _ => .none
        | none => .allButLast
      let base ← match g.value? 'T' with
        | some dir => (do return (← canonicalPlace .none dir).toOption)
        | none => pure none
      forAll g.operands fun path => do
        let found ← if g.has 's' then do
            let here := (← Act.process).here
            pure (Except.ok ((plainParts (if path.startsWith "/" then path else here ++ "/" ++ path)).reverse))
          else canonicalPlace existing path
        match found with
        | .ok l => say "realpath" ((match base with
          | some b => relativePath b l
          | none => placeText l) ++ ending)
        | .error fault => if g.has 'q' then return 1 else report "realpath" (quotedIfNeeded path ++ ": " ++ fault.reason)

/-! ## Lists -/

structure Entry where
  name : String
  path : String
  place : Location
  node : Node

def sizeOfNode : Node → Nat
  | .file content => content.size
  | .directory => 4096
  | .link target => (Octets.ofText target.text).length

/-- The sign behind a name that shows its kind. -/
def kindSign (onlyDirectories : Bool) (e : Entry) : Act String := do
  match e.node with
  | .directory => return "/"
  | .link _ => return if onlyDirectories then "" else "@"
  | .file _ => return if !onlyDirectories && (← isExecutable e.place e.node) then "*" else ""

/-- A number of octets in a short form. -/
def humanSize (n : Nat) : String :=
  let rec go : Nat → Nat → Nat → String
    | 0, _, _ => Nat.repr n
    | fuel + 1, unit, i =>
      if n < unit * 1024 then
        let tenths := (n * 10 + unit - 1) / unit
        let letter := String.singleton ("KMGTPE".toList.getD i 'K')
        if tenths < 100 then Nat.repr (tenths / 10) ++ "." ++ Nat.repr (tenths % 10) ++ letter
        else Nat.repr ((n + unit - 1) / unit) ++ letter
      else go fuel (unit * 1024) (i + 1)
  if n < 1024 then Nat.repr n else go 6 1024 0

/-- The letter of a kind of file in a long list. -/
def kindLetter : Node → String
  | .directory => "d"
  | .link _ => "l"
  | .file _ => "-"

def ls : Tool := fun _ args =>
  let style : FlagStyle :=
    { plain := "1aAbBcCdDfFgGhHiklLmnNopqQrRsStuUvxXZ", valued := "IwT", status := 2
      long := [⟨"all", 'a', false, false⟩, ⟨"almost-all", 'A', false, false⟩, ⟨"directory", 'd', false, false⟩,
        ⟨"classify", 'F', false, true⟩, ⟨"human-readable", 'h', false, false⟩, ⟨"inode", 'i', false, false⟩,
        ⟨"recursive", 'R', false, false⟩, ⟨"reverse", 'r', false, false⟩, ⟨"color", 'K', false, true⟩,
        ⟨"sort", 'O', true, false⟩, ⟨"quote-name", 'Q', false, false⟩, ⟨"literal", 'N', false, false⟩,
        ⟨"group-directories-first", 'J', false, false⟩, ⟨"full-time", 'V', false, false⟩,
        ⟨"time-style", 'Y', true, false⟩, ⟨"format", 'W', true, false⟩, ⟨"ignore", 'I', true, false⟩,
        ⟨"dereference", 'L', false, false⟩, ⟨"size", 's', false, false⟩, ⟨"file-type", 'E', false, false⟩] }
  withGiven "ls" style args fun g => do
    let isLong := (match g.lastOf "1lgonCxm" with
      | some c => "lgno".toList.contains c
      | none => false) || ((g.has 'l' || g.has 'g' || g.has 'o' || g.has 'n') && g.lastOf "1lgon" == some '1')
    let follow := g.has 'L'
    let order := match g.value? 'O', g.lastOf "tSUfvX" with
      | some "time", _ => some 't'
      | some "size", _ => some 'S'
      | some "none", _ => some 'U'
      | some "version", _ => some 'v'
      | some "extension", _ => some 'X'
      | _, c => c
    let shownName (name : String) : String :=
      if g.has 'Q' then "\"" ++ name.replace "\"" "\\\"" ++ "\""
      else if g.has 'b' then String.join (name.toList.map fun c =>
        if c = ' ' || c = '\\' then String.ofList ['\\', c] else if isGraph c then String.singleton c else octetSequence c)
      else if g.has 'q' then name.map fun c => if isGraph c || c == ' ' then c else '?'
      else name
    let sorted (es : List Entry) : Act (List Entry) := do
      let timed ← es.mapM fun e => do return (e, ← Act.timeOf e.place)
      let byName (a b : Entry × Int) : Bool := textLe a.1.name b.1.name
      let le (a b : Entry × Int) : Bool :=
        match order with
        | some 't' => if a.2 = b.2 then byName a b else a.2 > b.2
        | some 'S' =>
          let (m, n) := (sizeOfNode a.1.node, sizeOfNode b.1.node)
          if m = n then byName a b else m > n
        | some 'X' =>
          let ext (e : Entry) : String := match (splitAll '.' e.name).reverse with
            | last :: _ :: _ => last
            | _ => ""
          if ext a.1 = ext b.1 then byName a b else textLe (ext a.1) (ext b.1)
        | _ => byName a b
      let list := timed.mergeSort le
      let list := if g.has 'r' && order != some 'U' && order != some 'f' then list.reverse else list
      let list := if g.has 'J' then list.filter (fun e => e.1.node = .directory) ++ list.filter (fun e => e.1.node ≠ .directory) else list
      return list.map Prod.fst
    let showEntries (es : List Entry) : Act String := do
      if isLong then
        let rows ← es.mapM fun e => do
          let mode ← Act.modeOf e.place e.node
          let moment := Moment.ofSeconds (startOfTime + (← Act.timeOf e.place) / 1000000)
          let all := (← Act.world).files.nodes.toList
          let links := match e.node with
            | .directory => 2 + (all.filter fun n => n.1.tail = e.place && !n.1.isEmpty && n.2 = .directory).length
            | _ => 1
          let size := if g.has 'h' then humanSize (sizeOfNode e.node) else Nat.repr (sizeOfNode e.node)
          let sign ← if g.has 'F' then kindSign false e else if g.has 'p' then kindSign true e else pure ""
          let arrow := match e.node with
            | .link target => " -> " ++ Octets.ofText target.text
            | _ => ""
          let time := if g.has 'V' then moment.shown 0 "%Y-%m-%d %H:%M:%S.000000000 +0000".toList
            else match g.value? 'Y' with
              | some f => if f.startsWith "+" then moment.shown 0 (f.toList.drop 1) else moment.shown 0 "%Y-%m-%d %H:%M".toList
              | none => moment.shown 0 "%b %e %H:%M".toList
          let owners := (if g.has 'g' then [] else [if g.has 'n' then "0" else "root"]) ++
            (if g.has 'o' || g.has 'G' then [] else [if g.has 'n' then "0" else "root"])
          return (kindLetter e.node ++ modeLetters mode, Nat.repr links, owners, size, time,
            shownName e.name ++ (if arrow.isEmpty then sign else arrow))
        let width (f : String × String × List String × String × String × String → String) : Nat :=
          (rows.map fun r => (f r).length).foldl max 0
        let wl := width fun r => r.2.1
        let ws := width fun r => r.2.2.2.1
        return String.join (rows.map fun (mode, links, owners, size, time, name) =>
          " ".intercalate ([mode, padded wl false links] ++ owners ++ [padded ws false size, time, name]) ++ "\n")
      else
        let names ← es.mapM fun e => do
          let sign ← if g.has 'F' then kindSign false e else if g.has 'p' then kindSign true e else pure ""
          let number := if g.has 'i' then "1 " else ""
          return number ++ shownName e.name ++ sign
        match g.lastOf "1Cxm" with
        | some 'm' =>
          let (out, _) := (names.zip (List.range names.length)).foldl (fun (acc : String × Nat) (n, i) =>
            let piece := n ++ (if i + 1 < names.length then "," else "")
            if i = 0 then (piece, piece.length)
            else if acc.2 + 1 + piece.length < 80 then (acc.1 ++ " " ++ piece, acc.2 + 1 + piece.length)
            else (acc.1 ++ "\n" ++ piece, piece.length)) ("", 0)
          return if names.isEmpty then "" else out ++ "\n"
        | some c =>
          if c = 'C' || c = 'x' then
            let fits (rows : Nat) : Option (List Nat) :=
              let columns := (names.length + rows - 1) / rows
              let widths := (List.range columns).map fun k =>
                (((List.range rows).filterMap fun r => names[(if c = 'C' then k * rows + r else r * columns + k)]?).map
                  String.length).foldl max 0
              if widths.foldl (· + ·) 0 + 2 * (columns - 1) < 80 then some widths else none
            let rows := ((List.range names.length).map (· + 1)).find? (fun r => (fits r).isSome) |>.getD names.length
            let widths := (fits rows).getD []
            let columns := (names.length + rows - 1) / max 1 rows
            return String.join ((List.range rows).map fun r =>
              let cells := (List.range columns).filterMap fun k =>
                names[(if c = 'C' then k * rows + r else r * columns + k)]?
              String.join ((cells.zip (List.range cells.length)).map fun (n, k) =>
                if k + 1 = cells.length then n else padded (widths.getD k 0 + 2) true n) ++ "\n")
          else return unlines names
        | none => return unlines names
    let entriesOf (l : Location) (path : String) : Act (List Entry) := do
      let names ← namesBelow l
      let visible := names.filter fun n => (g.has 'a' || g.has 'A' || g.has 'f' || !n.startsWith ".") &&
        !(g.has 'B' && n.endsWith "~") &&
        !((g.values 'I').any fun p => Glob.accepts (Glob.ofMarks {} (p.toList.map fun c => ⟨c, false⟩)) n.toList)
      let own ← visible.filterMapM fun n => do
        let p := inside path n
        match ← walkTo follow p with
        | .ok (.present m node) => return some { name := n, path := p, place := m, node := node : Entry }
        | _ =>
          match (← Act.world).files.node? (n :: l) with
          | some node => return some { name := n, path := p, place := n :: l, node := node }
          | none => return none
      let dots : List Entry := if g.has 'a' || g.has 'f' then
          [{ name := ".", path := path, place := l, node := .directory },
            { name := "..", path := path, place := l.tail, node := .directory }] else []
      return dots ++ own
    let total (es : List Entry) : String :=
      if isLong || g.has 's' then
        "total " ++ Nat.repr ((es.map fun e => match e.node with
          | .link _ => 0
          | n => (sizeOfNode n + 4095) / 4096 * 4).foldl (· + ·) 0) ++ "\n"
      else ""
    let paths := if g.operands.isEmpty then ["."] else g.operands
    let mut status := 0
    let mut files : List Entry := []
    let mut dirs : List Entry := []
    for path in paths do
      let walked ← do
        match ← walkTo (!isLong || follow || path.endsWith "/") path with
        | .ok (.present l n) => pure (Except.ok (l, n))
        | .ok (.absent _ _) | .error .notFound =>
          match ← walkTo false path with
          | .ok (.present l n) => pure (.ok (l, n))
          | _ => pure (.error "No such file or directory")
        | .error fault => pure (.error fault.reason)
      match walked with
      | .error reason => status ← report "ls" ("cannot access " ++ quotedName path ++ ": " ++ reason) 2
      | .ok (l, n) =>
        let e : Entry := { name := path, path := path, place := l, node := n }
        if n = .directory && !g.has 'd' then dirs := e :: dirs
        else if path.endsWith "/" && n ≠ .directory then
          status ← report "ls" ("cannot access " ++ quotedName path ++ ": Not a directory") 2
        else
          let e ← if g.has 'd' && !follow then do
              match ← walkTo false path with
              | .ok (.present l n) => pure { e with place := l, node := n }
              | _ => pure e
            else pure e
          files := e :: files
    let plain ← sorted files.reverse
    let listed ← sorted dirs.reverse
    let first ← showEntries plain
    let titled := g.has 'R' || paths.length > 1
    let rec showDirs (isFirst : Bool) : Nat → List Entry → Act String
      | 0, _ => return ""
      | _, [] => return ""
      | n + 1, d :: rest => do
        let es ← sorted (← entriesOf d.place d.path)
        let here := (if isFirst then "" else "\n") ++ (if titled then d.path ++ ":\n" else "") ++ total es ++ (← showEntries es)
        let below := if g.has 'R' then es.filter fun e => e.node = .directory && e.name != "." && e.name != ".." else []
        return here ++ (← showDirs false n (below ++ rest))
    say "ls" (first ++ (← showDirs plain.isEmpty 10000 listed)) status

/-! ## Facts about files -/

def kindWord : Node → String
  | .directory => "directory"
  | .link _ => "symbolic link"
  | .file content => if content.size = 0 then "regular empty file" else "regular file"

def factsText (path : String) (l : Location) (n : Node) (escapes : Bool) : Nat → List Char → Act String
  | 0, _ => return ""
  | _, [] => return ""
  | fuel + 1, '%' :: c :: cs => do
    let mode ← Act.modeOf l n
    let time ← Act.timeOf l
    let moment := Moment.ofSeconds (startOfTime + time / 1000000)
    let fact := match c with
      | 'n' => path
      | 'N' => quotedName path ++ (match n with
        | .link target => " -> " ++ quotedName (Octets.ofText target.text)
        | _ => "")
      | 's' => Nat.repr (sizeOfNode n)
      | 'a' => digitsIn 8 mode
      | 'A' => kindLetter n ++ modeLetters mode
      | 'F' => kindWord n
      | 'f' => digitsIn 16 (mode + (match n with
        | .directory => 16384
        | .file _ => 32768
        | .link _ => 40960))
      | 'U' | 'G' => "root"
      | 'u' | 'g' => "0"
      | 'h' => (match n with
        | .directory => "2"
        | _ => "1")
      | 'i' => "1"
      | 'b' => Nat.repr ((sizeOfNode n + 511) / 512)
      | 'B' => "512"
      | 'o' => "4096"
      | 'm' => "/"
      | 'y' | 'z' | 'x' => moment.shown 0 "%Y-%m-%d %H:%M:%S.000000000 +0000".toList
      | 'Y' | 'Z' | 'X' => Int.repr (startOfTime + time / 1000000)
      | 'w' => "-"
      | 'W' => "0"
      | 't' | 'T' | 'd' => "0"
      | '%' => "%"
      | _ => "?"
    return fact ++ (← factsText path l n escapes fuel cs)
  | fuel + 1, '\\' :: c :: cs => do
    let rest ← factsText path l n escapes fuel cs
    if escapes then
      return (match c with
        | 'n' => "\n"
        | 't' => "\t"
        | '\\' => "\\"
        | '0' => "\x00"
        | c => String.ofList ['\\', c]) ++ rest
    else return String.ofList ['\\', c] ++ rest
  | fuel + 1, c :: cs => do return String.singleton c ++ (← factsText path l n escapes fuel cs)

def stat : Tool := fun _ args =>
  let style : FlagStyle :=
    { plain := "Lft", valued := "c"
      long := [⟨"format", 'c', true, false⟩, ⟨"printf", 'P', true, false⟩, ⟨"dereference", 'L', false, false⟩,
        ⟨"file-system", 'f', false, false⟩, ⟨"terse", 't', false, false⟩] }
  withGiven "stat" style args fun g => do
    if g.operands.isEmpty then misuse "stat" "missing operand"
    else forAll g.operands fun path => do
      match ← walkTo (g.has 'L') path with
      | .ok (.present l n) =>
        let text ← match g.value? 'P', g.value? 'c' with
          | some f, _ => factsText path l n true (f.length + 1) f.toList
          | none, some f => (do return (← factsText path l n false (f.length + 1) f.toList) ++ "\n")
          | none, none =>
            let f := "  File: %N\n  Size: %s\t\tBlocks: %b\tIO Block: %o   %F\nDevice: 0,0\tInode: %i  Links: %h\n" ++
              "Access: (0%a/%A)  Uid: (    0/    root)   Gid: (    0/    root)\nAccess: %x\nModify: %y\nChange: %z\n Birth: -\n"
            factsText path l n false (f.length + 1) f.toList
        say "stat" text
      | .ok (.absent _ _) => report "stat" ("cannot statx " ++ quotedName path ++ ": No such file or directory")
      | .error fault => report "stat" ("cannot statx " ++ quotedName path ++ ": " ++ fault.reason)

end SpeechConfig.Shell.Tool
