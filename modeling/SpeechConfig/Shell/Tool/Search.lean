/-
# Searching texts

Picks the lines of texts in which an expression is found, and shows them with their
numbers, their surroundings, or only in part.
-/
import SpeechConfig.Shell.Regex.Read
import SpeechConfig.Shell.Glob
import SpeechConfig.Shell.Tool.Find

namespace SpeechConfig.Shell.Tool

/-! ## Lines -/

/-- What is searched for, and what is shown of it. -/
structure Search where
  regex : Regex
  ignoreCase : Bool := false
  inverted : Bool := false
  ending : Char := '\n'
  only : Bool := false
  numbered : Bool := false
  offsets : Bool := false
  counting : Bool := false
  stopsAtFirst : Bool := false
  shows : Bool := true
  takesBinary : Bool := false
  most : Option Nat := none
  before : Nat := 0
  after : Nat := 0
  surrounded : Bool := false
  separator : Option String := some "--"
  nameEnd : String := ""

/-- A line of a text: its number, where it begins, and what it holds. -/
structure TextLine where
  number : Nat
  offset : Nat
  body : String

/-- A search on its way: what was shown, the last part first, how many lines were picked,
the last lines that were not shown, how many are still to be shown behind a picked one, the
number of the last shown line, and whether anything was shown before. -/
structure SearchState where
  shown : List String := []
  count : Nat := 0
  recent : List TextLine := []
  pending : Nat := 0
  last : Nat := 0
  used : Bool := false
  done : Bool := false
  stop : Nat := 0

namespace Search

/-- The matches in a line from a place on that are not empty; every step goes on. -/
def matchesFrom (q : Search) (t : Subject) : Nat → Nat → List Match
  | 0, _ => []
  | n + 1, start =>
    if t.text.size < start then []
    else match q.regex.search? t start with
      | none => []
      | some m =>
        if m.stop = m.start then matchesFrom q t n (m.start + 1)
        else m :: matchesFrom q t n m.stop

/-- What stands before a shown line or a part of it. -/
def front (q : Search) (name : Option String) (l : TextLine) (offset : Nat) (mark : String) : String :=
  (match name with
    | some n => n ++ (if q.nameEnd.isEmpty then mark else q.nameEnd)
    | none => "") ++
  (if q.numbered then Nat.repr l.number ++ mark else "") ++
  (if q.offsets then Nat.repr offset ++ mark else "")

def picked (q : Search) (name : Option String) (t : Subject) (l : TextLine) : String :=
  let ending := String.singleton q.ending
  if !q.only then q.front name l l.offset ":" ++ l.body ++ ending
  else if q.inverted then ""
  else String.join ((q.matchesFrom t (t.text.size + 2) 0).map fun m =>
    q.front name l (l.offset + m.start) ":" ++ m.text t ++ ending)

/-- A line as it is shown near a picked one. -/
def nearby (q : Search) (name : Option String) (l : TextLine) : String :=
  if q.only then "" else q.front name l l.offset "-" ++ l.body ++ String.singleton q.ending

def step (q : Search) (name : Option String) (s : SearchState) (l : TextLine) : SearchState :=
  if s.done then s
  else
    let t : Subject := { text := l.body.toList.toArray, ignoreCase := q.ignoreCase }
    let isPicked := q.regex.finds t != q.inverted
    let spent := q.most.any (· ≤ s.count)
    if spent && s.pending = 0 then { s with done := true }
    else if isPicked && !spent then
      let first := (s.recent.getLast?.map TextLine.number).getD l.number
      let gap := if q.surrounded && s.used && (s.last = 0 || s.last + 1 < first) then
          match q.separator with
          | some mark => [mark ++ "\n"]
          | none => []
        else []
      let lines := if !q.shows then [] else
        gap ++ s.recent.reverse.map (q.nearby name) ++ [q.picked name t l]
      { s with
        shown := lines.reverse ++ s.shown
        count := s.count + 1
        recent := []
        pending := q.after
        last := l.number
        used := s.used || q.shows
        done := q.stopsAtFirst
        stop := l.offset + l.body.length + 1 }
    else if s.pending > 0 then
      { s with
        shown := if q.shows then q.nearby name l :: s.shown else s.shown
        pending := s.pending - 1
        last := l.number }
    else { s with recent := (l :: s.recent).take q.before }

def linesOf (q : Search) (text : String) : List TextLine :=
  let parts := splitAll q.ending text
  let parts := if parts.getLast? == some "" then parts.dropLast else parts
  (parts.foldl (fun (acc : List TextLine × Nat × Nat) body =>
    (⟨acc.2.1, acc.2.2, body⟩ :: acc.1, acc.2.1 + 1, acc.2.2 + body.length + 1)) ([], 1, 0)).1.reverse

/-- Searches a text; `used` says that something was shown of earlier ones. -/
def run (q : Search) (name : Option String) (used : Bool) (text : String) : SearchState :=
  (q.linesOf text).foldl (q.step name) { used := used }

/-- Whether a text does not consist of lines. -/
def isBinary (q : Search) (text : String) : Bool :=
  !q.takesBinary && q.ending == '\n' && text.toList.contains '\x00'

end Search

/-! ## Expressions -/

/-- How the expressions of a search are spelt. -/
inductive Spelling where
  | basic
  | extended
  | literal
deriving DecidableEq, Repr

/-- The expression of one line of the patterns. -/
def Spelling.read (s : Spelling) (ignoreCase : Bool) (text : String) :
    Except RegexFault (Regex × List String) :=
  match s with
  | .literal => .ok (Regex.ofLiteral ignoreCase text, [])
  | s =>
    let style : RegexStyle :=
      { extended := s == .extended, ignoreCase := ignoreCase, strict := false, looseClosers := true
        repeatsAgain := true, namesClasses := true }
    (Regex.read style text).map fun r => (r.1, r.2.idle.reverse)

/-- An expression that matches where one of some does. -/
def anyOf : List Regex → Regex
  | [] => .set .empty
  | [r] => r
  | r :: rs => .either r (anyOf rs)

/-! ## The tool -/

def searchFlags : FlagStyle :=
  { plain := "0123456789EFGHILPTUVZabchilLnoqRrsuvwxyz", valued := "ABCDXdefm", status := 2
    long := [⟨"basic-regexp", 'G', false, false⟩, ⟨"extended-regexp", 'E', false, false⟩,
      ⟨"fixed-strings", 'F', false, false⟩, ⟨"perl-regexp", 'P', false, false⟩,
      ⟨"after-context", 'A', true, false⟩, ⟨"before-context", 'B', true, false⟩,
      ⟨"binary-files", 'Y', true, false⟩, ⟨"line-buffered", 'k', false, false⟩,
      ⟨"byte-offset", 'b', false, false⟩, ⟨"context", 'C', true, false⟩, ⟨"color", 'K', false, true⟩,
      ⟨"colour", 'K', false, true⟩, ⟨"count", 'c', false, false⟩, ⟨"directories", 'd', true, false⟩,
      ⟨"exclude", 'O', true, false⟩, ⟨"exclude-dir", 'Q', true, false⟩, ⟨"file", 'f', true, false⟩,
      ⟨"files-with-matches", 'l', false, false⟩, ⟨"files-without-match", 'L', false, false⟩,
      ⟨"group-separator", 'W', true, false⟩, ⟨"include", 'N', true, false⟩,
      ⟨"ignore-case", 'i', false, false⟩, ⟨"no-ignore-case", 'j', false, false⟩,
      ⟨"initial-tab", 'T', false, false⟩, ⟨"label", 'M', true, false⟩, ⟨"line-number", 'n', false, false⟩,
      ⟨"line-regexp", 'x', false, false⟩, ⟨"max-count", 'm', true, false⟩,
      ⟨"no-filename", 'h', false, false⟩, ⟨"no-group-separator", 'S', false, false⟩,
      ⟨"no-messages", 's', false, false⟩, ⟨"null", 'Z', false, false⟩, ⟨"null-data", 'z', false, false⟩,
      ⟨"only-matching", 'o', false, false⟩, ⟨"quiet", 'q', false, false⟩, ⟨"recursive", 'r', false, false⟩,
      ⟨"dereference-recursive", 'R', false, false⟩, ⟨"regexp", 'e', true, false⟩,
      ⟨"invert-match", 'v', false, false⟩, ⟨"silent", 'q', false, false⟩, ⟨"text", 'a', false, false⟩,
      ⟨"binary", 'U', false, false⟩, ⟨"with-filename", 'H', false, false⟩,
      ⟨"word-regexp", 'w', false, false⟩] }

/-- Reports a wrong use of a search. -/
def misuseSearch (message : Option String) : Act Nat := do
  if let some m := message then Act.warn ("grep: " ++ m)
  Act.warn "Usage: grep [OPTION]... PATTERNS [FILE]..."
  pointToHelp "grep"
  return 2

def patternLines (text : String) : List String :=
  splitAll '\n' text

/-- The patterns of a search, each with the place that names it in reports, and the files. -/
def searchPatterns (g : GivenFlags) : Act (Except Nat (List (String × String) × List String)) := do
  let mut patterns : List (String × String) := []
  let mut given := false
  for (c, value) in g.flags do
    if c = 'e' then
      given := true
      patterns := patterns ++ (patternLines value).map fun p => ("", p)
    else if c = 'f' then
      given := true
      match ← readInput value with
      | .error fault => return .error (← report "grep" (value ++ ": " ++ fault.reason) 2)
      | .ok text =>
        let lines := if text.isEmpty then [] else
          patternLines (if text.endsWith "\n" then takeText (text.length - 1) text else text)
        let name := if value = "-" then "(standard input)" else value
        patterns := patterns ++ (lines.zip (List.range lines.length)).map fun (p, i) =>
          (name ++ ":" ++ Nat.repr (i + 1) ++ ": ", p)
  if given then return .ok (patterns, g.operands)
  match g.operands with
  | [] => return .error (← misuseSearch none)
  | p :: files => return .ok ((patternLines p).map fun p => ("", p), files)

/-- How patterns are spelt; the flags for that must not contradict each other. -/
def spellingOf (g : GivenFlags) : Except String Spelling :=
  let given := (g.flags.map Prod.fst).filter "EFGP".toList.contains
  match given.eraseDups with
  | [] | ['G'] => .ok .basic
  | ['E'] => .ok .extended
  | ['F'] => .ok .literal
  | ['P'] => .ok .extended
  | _ => .error "conflicting matchers specified"

def searchRegex (g : GivenFlags) (spelling : Spelling) (ignoreCase : Bool) (patterns : List (String × String)) :
    Act (Option Regex) := do
  let mut found : List Regex := []
  for (place, text) in patterns do
    match spelling.read ignoreCase text with
    | .error fault =>
      let _ ← report "grep" (place ++ fault.message)
      return none
    | .ok (r, idle) =>
      for what in idle do
        let _ ← report "grep" ("warning: " ++ what ++ " at start of expression")
      found := r :: found
  let r := anyOf found.reverse
  if g.has 'x' then return some (.seq .lineStart (.seq r .lineEnd))
  else if g.has 'w' then return some (.seq (.wordFree true) (.seq r (.wordFree false)))
  else return some r

/-- Whether a name is one that a search is about. -/
def isWanted (g : GivenFlags) (isDirectory : Bool) (path : String) : Bool :=
  let accepts (pattern : String) : Bool :=
    Glob.accepts (Glob.ofMarks {} (Mark.bare pattern)) (lastPart path).toList
  if isDirectory then !(g.values 'Q').any accepts
  else
    let kept := g.values 'N'
    !(g.values 'O').any accepts && (kept.isEmpty || kept.any accepts)

/-- The files below a directory that a search visits. -/
def filesBelow (g : GivenFlags) : Nat → Location → String → Act (List String)
  | 0, _, _ => return []
  | n + 1, l, path => do
    let mut found : List String := []
    for name in ← namesBelow l do
      let inner := if path = "" then name else inside path name
      let target ← do
        match (← Act.files).node? (name :: l) with
        | some (.link _) =>
          if g.has 'R' then
            match ← walkTo true inner with
            | .ok (.present m node) => pure (some (m, node))
            | _ => pure none
          else pure none
        | some node => pure (some (name :: l, node))
        | none => pure none
      match target with
      | some (m, .directory) =>
        if isWanted g true inner then found := found ++ (← filesBelow g n m inner)
      | some _ => if isWanted g false inner then found := found ++ [inner]
      | none => pure ()
    return found

/-- Searches one input: whether lines were picked, whether something was shown, and whether
there was a fault. -/
def searchInput (q : Search) (g : GivenFlags) (names used : Bool) (path : String) :
    Act (Bool × Bool × Bool) := do
  let shownName := if path = "-" then (g.value? 'M').getD "(standard input)" else path
  let fault (reason : String) : Act (Bool × Bool × Bool) := do
    if !g.has 's' then Act.warn ("grep: " ++ shownName ++ ": " ++ reason)
    return (false, used, true)
  if q.shows && q.most != some 1 && (← writesTo path).isSome then
    Act.warn ("grep: " ++ shownName ++ ": input file is also the output")
    return (false, used, true)
  else
  let before ← Act.openedAt 0
  match ← readInput path with
  | .error e => fault e.reason
  | .ok text =>
    let binary := q.isBinary text
    if binary && g.has 'I' then return (false, used, false)
    else
    let name := if names then some shownName else none
    let q := if binary && q.shows then { q with shows := false, stopsAtFirst := true } else q
    let s := q.run name used (if binary then String.ofList (text.toList.map fun c => if c = '\x00' then '\n' else c) else text)
    let seekable := match before with
      | some (_, { target := .file _, .. }) => true
      | _ => false
    if path = "-" && (q.most.any (· ≤ s.count) || (s.done && !seekable)) then
      Act.giveBack before 32768 s.stop (text.toList.drop s.stop)
    let isFound := s.count > 0
    let out :=
      if g.has 'q' then ""
      else if g.has 'l' || g.has 'L' then
        if isFound == ((g.lastOf "lL") == some 'l') then shownName ++ (if g.has 'Z' then "\x00" else "\n") else ""
      else if q.counting then
        (match name with
          | some n => n ++ (if g.has 'Z' then "\x00" else ":")
          | none => "") ++ Nat.repr s.count ++ "\n"
      else if binary then ""
      else String.join s.shown.reverse
    let status ← say "grep" out
    if binary && isFound && !q.counting && !(g.has 'q' || g.has 'l' || g.has 'L') then
      Act.warn ("grep: " ++ shownName ++ ": binary file matches")
    return (isFound, s.used, status ≠ 0)

/-- What a search is set to by its flags, or what is wrong with them. -/
def searchOf (g : GivenFlags) (regex : Regex) : Except String Search := do
  let context (value : Option String) : Except String (Option Nat) :=
    match value with
    | none => .ok none
    | some v =>
      match count? v with
      | some n => .ok (some n)
      | none => .error (v ++ ": invalid context length argument")
  let digits := String.ofList ((g.flags.filter fun e => isDigit e.1).map Prod.fst)
  let around ← context ((g.value? 'C').or (if digits.isEmpty then none else some digits))
  let before := (← context (g.value? 'B')).or around
  let after := (← context (g.value? 'A')).or around
  let most ← match g.value? 'm' with
    | none => pure none
    | some v =>
      match integerOf? v with
      | some n => pure (if n < 0 then none else some n.toNat)
      | none => throw "invalid max count"
  let lists := g.has 'l' || g.has 'L' || g.has 'q'
  return {
    regex := regex
    ignoreCase := g.lastOf "iyj" == some 'i' || g.lastOf "iyj" == some 'y'
    inverted := g.has 'v'
    ending := if g.has 'z' then '\x00' else '\n'
    only := g.has 'o'
    numbered := g.has 'n'
    offsets := g.has 'b'
    counting := g.has 'c' && !lists
    stopsAtFirst := lists
    shows := !lists && !g.has 'c'
    takesBinary := g.has 'a' || g.value? 'Y' == some "text"
    most := most
    before := before.getD 0
    after := after.getD 0
    surrounded := before.isSome || after.isSome
    separator := if g.lastOf "SW" == some 'S' then none else some ((g.value? 'W').getD "--")
    nameEnd := if g.has 'Z' then "\x00" else "" }

def searchAll (q : Search) (g : GivenFlags) (files : List String) : Act Nat := do
  let recursive := g.has 'r' || g.has 'R' || g.value? 'd' == some "recurse"
  let operands := if files.isEmpty then (if recursive then ["."] else ["-"]) else files
  let namesFlag := g.lastOf "Hh"
  let mut picked := false
  let mut used := false
  let mut failed := false
  for operand in operands do
    let inner : Option (List String) ← do
      if !recursive || operand = "-" then pure none
      else match ← walkTo true operand with
        | .ok (.present l .directory) =>
          pure (some (← filesBelow g 1000 l (if files.isEmpty then "" else operand)))
        | _ => pure none
    let names := match namesFlag with
      | some c => c == 'H'
      | none => operands.length > 1 || inner.isSome
    let skipped ← do
      if inner.isSome || operand = "-" then pure false
      else match ← walkTo true operand with
        | .ok (.present _ .directory) => pure (g.value? 'd' == some "skip")
        | _ => pure (!isWanted g false operand)
    if !skipped then
      for path in inner.getD [operand] do
        let (found, nowUsed, fault) ← searchInput q g names used path
        used := nowUsed
        failed := failed || fault
        picked := picked || found
        if found && g.has 'q' then return 0
  return if failed then 2 else if picked then 0 else 1

/-- Shows the lines in which an expression is found; `flags` come before those that are
given. -/
def grep (flags : List String) : Tool := fun _ args => do
  match readGiven searchFlags (flags ++ args) with
  | .error e => misuseSearch (some e.message)
  | .ok g =>
    match spellingOf g with
    | .error message => report "grep" message 2
    | .ok spelling =>
      match searchOf g (.set .empty) with
      | .error message => report "grep" message 2
      | .ok q =>
        match ← searchPatterns g with
        | .error status => return status
        | .ok (patterns, files) =>
          match ← searchRegex g spelling q.ignoreCase patterns with
          | none => return 2
          | some regex =>
            if q.most = some 0 && !g.has 'L' then return 1
            else searchAll { q with regex := regex } g files

end SpeechConfig.Shell.Tool
