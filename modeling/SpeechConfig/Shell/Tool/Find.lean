/-
# Searching directories

A tool that walks through directories and tests what it finds, and one that builds
commands from what it reads.
-/
import SpeechConfig.Shell.Tool.List

namespace SpeechConfig.Shell.Tool

/-! ## Tests -/

inductive Comparison where
  | exactly
  | atLeast
  | atMost
deriving DecidableEq, Repr

def Comparison.holds (c : Comparison) (value wanted : Int) : Bool :=
  match c with
  | .exactly => value = wanted
  | .atLeast => wanted < value
  | .atMost => value < wanted

/-- What is asked of a file, or done with it. -/
inductive FindTest where
  | always
  | never
  | name (g : List Glob)
  | path (g : List Glob)
  | linkName (g : List Glob)
  | regex (r : Regex)
  | kind (letters : List Char)
  | empty
  | size (c : Comparison) (n unit : Nat)
  | age (c : Comparison) (n unit : Nat)
  | newer (time : Int)
  | mode (all any : Bool) (bits : Nat)
  | links (c : Comparison) (n : Nat)
  | executable
  | same (l : Location)
  | print (ending : String)
  | printf (format : String)
  | longLine
  | run (argv : List String) (inDirectory : Bool)
  | batch (argv : List String) (index : Nat)
  | delete
  | prune
  | quit
  | not (t : FindTest)
  | both (a b : FindTest)
  | either (a b : FindTest)
  | list (a b : FindTest)
deriving Inhabited

/-- Whether a test does something itself, so that nothing more is printed. -/
def FindTest.acts : FindTest → Bool
  | .print _ | .printf _ | .longLine | .run _ _ | .batch _ _ | .delete | .quit => true
  | .not t => t.acts
  | .both a b | .either a b | .list a b => a.acts || b.acts
  | _ => false

/-- What the words of a search ask for. -/
structure FindPlan where
  test : FindTest := .always
  most : Option Nat := none
  least : Nat := 0
  bottomUp : Bool := false
  follow : Bool := false
  batches : Nat := 0

/-- A reader of the words of a search. -/
abbrev FindRead (α : Type) := StateT (List String × FindPlan) (ExceptT String Act) α

/-- A number with a sign that says how to compare. -/
def comparison? (s : String) : Option (Comparison × String) :=
  match s.toList with
  | '+' :: cs => if cs.isEmpty then none else some (.atLeast, String.ofList cs)
  | '-' :: cs => if cs.isEmpty then none else some (.atMost, String.ofList cs)
  | cs => if cs.isEmpty then none else some (.exactly, s)

def findArgument (word : String) : FindRead String := do
  match ← get with
  | (w :: rest, p) =>
    set (rest, p)
    return w
  | ([], _) => throw ("missing argument to " ++ quotedName word)

def findGlob (ignoreCase : Bool) (s : String) : List Glob :=
  Glob.ofMarks { ignoreCase := ignoreCase } (s.toList.map fun c => ⟨c, false⟩)

/-- The command of a test: the words up to a semicolon or, behind braces, a plus. -/
def findCommand (word : String) : FindRead (List String × Bool) := do
  let (words, p) ← get
  let rec go (taken : List String) : List String → Option (List String × Bool × List String)
    | [] => none
    | ";" :: rest => some (taken.reverse, false, rest)
    | "+" :: rest => match taken with
      | "\x7b\x7d" :: before => some (before.reverse, true, rest)
      | _ => go ("+" :: taken) rest
    | w :: rest => go (w :: taken) rest
  match go [] words with
  | some (argv, batched, rest) =>
    if argv.isEmpty && !batched then throw ("invalid argument " ++ quotedName ";" ++ " to " ++ quotedName word)
    set (rest, p)
    return (argv, batched)
  | none => throw ("missing argument to " ++ quotedName word)

/-- The mode that a test of permissions names. -/
def findMode (s : String) : Option FindTest :=
  let (all, any, digits) := match s.toList with
    | '-' :: cs => (true, false, String.ofList cs)
    | '/' :: cs => (false, true, String.ofList cs)
    | _ => (false, false, s)
  (changedMode? false 0 0 digits).map fun bits => .mode all any bits

/-- A number of the tests that compare one. -/
def findNumber (word s : String) : FindRead (Comparison × Nat) := do
  match (comparison? s).bind fun (c, digits) => (count? digits).map fun n => (c, n) with
  | some r => return r
  | none => throw ("invalid argument " ++ quotedName s ++ " to " ++ quotedName word)

def findPrimary (word : String) : FindRead FindTest := do
  match word with
  | "-true" => return .always
  | "-false" => return .never
  | "-name" => return .name (findGlob false (← findArgument word))
  | "-iname" => return .name (findGlob true (← findArgument word))
  | "-path" | "-wholename" => return .path (findGlob false (← findArgument word))
  | "-ipath" | "-iwholename" => return .path (findGlob true (← findArgument word))
  | "-lname" => return .linkName (findGlob false (← findArgument word))
  | "-regex" | "-iregex" =>
    let s ← findArgument word
    match Regex.ofText { extended := false, ignoreCase := word = "-iregex" } s with
    | .ok (r, _) => return .regex r
    | .error f => throw f.message
  | "-type" | "-xtype" =>
    let s ← findArgument word
    let letters := s.toList.filter (· != ',')
    match letters.find? fun c => !("bcdpflsD".toList.contains c) with
    | some c => throw ("Unknown argument to -type: " ++ String.singleton c)
    | none => return .kind letters
  | "-empty" => return .empty
  | "-size" =>
    let s ← findArgument word
    let (body, unit) := match s.toList.reverse with
      | 'c' :: rest => (String.ofList rest.reverse, 1)
      | 'w' :: rest => (String.ofList rest.reverse, 2)
      | 'b' :: rest => (String.ofList rest.reverse, 512)
      | 'k' :: rest => (String.ofList rest.reverse, 1024)
      | 'M' :: rest => (String.ofList rest.reverse, 1048576)
      | 'G' :: rest => (String.ofList rest.reverse, 1073741824)
      | _ => (s, 512)
    match (comparison? body).bind fun (c, digits) => (count? digits).map fun n => (c, n) with
    | some (c, n) => return .size c n unit
    | none => throw ("Invalid argument " ++ quotedName s ++ " to -size")
  | "-mtime" | "-atime" | "-ctime" => do
    let (c, n) ← findNumber word (← findArgument word)
    return .age c n 86400
  | "-mmin" | "-amin" | "-cmin" => do
    let (c, n) ← findNumber word (← findArgument word)
    return .age c n 60
  | "-newer" | "-anewer" | "-cnewer" =>
    let s ← findArgument word
    match ← (walkTo true s : Act _) with
    | .ok (.present l _) => return .newer (← (Act.timeOf l : Act _))
    | _ => throw (quotedName s ++ ": No such file or directory")
  | "-samefile" =>
    let s ← findArgument word
    match ← (walkTo true s : Act _) with
    | .ok (.present l _) => return .same l
    | _ => throw (quotedName s ++ ": No such file or directory")
  | "-perm" =>
    let s ← findArgument word
    match findMode s with
    | some t => return t
    | none => throw ("invalid mode " ++ quotedName s)
  | "-links" => do
    let (c, n) ← findNumber word (← findArgument word)
    return .links c n
  | "-user" | "-group" =>
    let s ← findArgument word
    return if s = "root" || s = "0" then .always else .never
  | "-uid" | "-gid" | "-inum" => do
    let (c, n) ← findNumber word (← findArgument word)
    return if c.holds 0 n then .always else .never
  | "-nouser" | "-nogroup" => return .never
  | "-readable" | "-writable" => return .always
  | "-executable" => return .executable
  | "-print" => return .print "\n"
  | "-print0" => return .print "\x00"
  | "-printf" => return .printf (← findArgument word)
  | "-ls" => return .longLine
  | "-delete" =>
    modify fun (ws, p) => (ws, { p with bottomUp := true })
    return .delete
  | "-prune" => return .prune
  | "-quit" => return .quit
  | "-depth" | "-d" =>
    modify fun (ws, p) => (ws, { p with bottomUp := true })
    return .always
  | "-follow" =>
    modify fun (ws, p) => (ws, { p with follow := true })
    return .always
  | "-mount" | "-xdev" | "-noleaf" | "-nowarn" | "-warn" | "-ignore_readdir_race" | "-daystart" => return .always
  | "-regextype" => do
    let _ ← findArgument word
    return .always
  | "-maxdepth" | "-mindepth" =>
    let s ← findArgument word
    match count? s with
    | none => throw ("Expected a positive decimal integer argument to " ++ word ++ ", but got " ++ quotedName s)
    | some n =>
      modify fun (ws, p) => (ws, if word = "-maxdepth" then { p with most := some n } else { p with least := n })
      return .always
  | "-exec" | "-execdir" | "-ok" | "-okdir" =>
    let (argv, batched) ← findCommand word
    if batched then
      let (_, p) ← get
      modify fun (ws, p) => (ws, { p with batches := p.batches + 1 })
      return .batch argv p.batches
    else return .run argv (word = "-execdir" || word = "-okdir")
  | _ =>
    if word.startsWith "-" then throw ("unknown predicate " ++ quotedName word)
    else throw ("paths must precede expression: " ++ quotedName word)

mutual

def findList : Nat → FindRead FindTest
  | 0 => throw "expression too complicated"
  | n + 1 => do
    let a ← findEither n
    match ← get with
    | ("," :: rest, p) =>
      set (rest, p)
      return .list a (← findList n)
    | _ => return a

def findEither : Nat → FindRead FindTest
  | 0 => throw "expression too complicated"
  | n + 1 => do
    let a ← findBoth n
    match ← get with
    | (w :: rest, p) =>
      if w = "-o" || w = "-or" then
        set (rest, p)
        return .either a (← findEither n)
      else return a
    | _ => return a

/-- Reads tests that must all hold. -/
def findBoth : Nat → FindRead FindTest
  | 0 => throw "expression too complicated"
  | n + 1 => do
    let a ← findTerm n
    match ← get with
    | (w :: rest, p) =>
      if w = "-a" || w = "-and" then
        set (rest, p)
        return .both a (← findBoth n)
      else if w = "-o" || w = "-or" || w = "," || w = ")" then return a
      else return .both a (← findBoth n)
    | ([], _) => return a

/-- Reads one test, perhaps turned round or in parentheses. -/
def findTerm : Nat → FindRead FindTest
  | 0 => throw "expression too complicated"
  | n + 1 => do
    match ← get with
    | ([], _) => throw "expected an expression after '-a'"
    | (w :: rest, p) =>
      set (rest, p)
      if w = "!" || w = "-not" then return .not (← findTerm n)
      else if w = "(" then
        let t ← findList n
        match ← get with
        | (")" :: rest, p) =>
          set (rest, p)
          return t
        | _ => throw ("invalid expression; I was expecting to find a ')' somewhere but did not see one.")
      else if w = ")" then throw "invalid expression; you have too many ')'"
      else findPrimary w

end

/-! ## Walking -/

/-- What a search keeps while it walks. -/
structure FindState where
  status : Nat := 0
  stopped : Bool := false
  pruned : Bool := false
  batches : List (Nat × List String × List String) := []

abbrev Finding (α : Type) := StateT FindState Act α

structure Finding.Spot where
  path : String
  start : String
  depth : Nat
  place : Location
  node : Node

/-- The text of a format for a file that was found. -/
def foundText (s : Finding.Spot) : Nat → List Char → Act String
  | 0, _ => return ""
  | _, [] => return ""
  | n + 1, '%' :: c :: cs => do
    let mode ← Act.modeOf s.place s.node
    let rest ← foundText s n cs
    let below := dropText s.start.length s.path
    let fact := match c with
      | 'p' => s.path
      | 'f' => lastPart s.path
      | 'h' => if s.path.toList.contains '/' then
          String.ofList ((s.path.toList.reverse.dropWhile (· != '/')).drop 1).reverse else "."
      | 'P' => if below.startsWith "/" then dropText 1 below else below
      | 'H' => s.start
      | 'd' => Nat.repr s.depth
      | 's' => Nat.repr (sizeOfNode s.node)
      | 'm' => digitsIn 8 mode
      | 'M' => kindLetter s.node ++ modeLetters mode
      | 'y' => (match s.node with
        | .directory => "d"
        | .file _ => "f"
        | .link _ => "l")
      | 'l' => (match s.node with
        | .link target => Octets.ofText target.text
        | _ => "")
      | 'u' | 'g' => "root"
      | 'U' | 'G' => "0"
      | 'n' => (match s.node with
        | .directory => "2"
        | _ => "1")
      | '%' => "%"
      | c => String.ofList ['%', c]
    return fact ++ rest
  | n + 1, '\\' :: c :: cs => do
    let rest ← foundText s n cs
    return (match c with
      | 'n' => "\n"
      | 't' => "\t"
      | '0' => "\x00"
      | '\\' => "\\"
      | 'a' => "\x07"
      | c => String.ofList ['\\', c]) ++ rest
  | n + 1, c :: cs => do return String.singleton c ++ (← foundText s n cs)

/-- A command with a path put in the place of the braces. -/
def withBraces (path : String) (argv : List String) : List String :=
  argv.map fun w => w.replace "\x7b\x7d" path

/-- Starts a command for what was found. -/
def launchFound (launch : List String → Act Nat) (argv : List String) : Act Nat := do
  let program := argv.headD ""
  match ← programPath? program with
  | some _ => launch argv
  | none =>
    let reason ← if program.toList.contains '/' then (do return (← startFault program).1)
      else pure "No such file or directory"
    report "find" (quotedName program ++ ": " ++ reason) 127

/-- Tests a file that was found. -/
def tested (launch : List String → Act Nat) (s : Finding.Spot) : FindTest → Finding Bool
  | .always => return true
  | .never => return false
  | .name g => return Glob.accepts g (lastPart s.path).toList
  | .path g => return Glob.accepts g s.path.toList
  | .linkName g => return match s.node with
    | .link target => Glob.accepts g (Octets.ofText target.text).toList
    | _ => false
  | .regex r =>
    let t := Subject.ofText s.path
    return match Regex.matchAt? r t 0 with
      | some m => m.stop = s.path.length
      | none => false
  | .kind letters => return match s.node with
    | .directory => letters.contains 'd'
    | .file _ => if s.place.tail = ["dev"] then letters.contains 'c' else letters.contains 'f'
    | .link _ => letters.contains 'l'
  | .empty => do
    match s.node with
    | .directory => return (← (namesBelow s.place : Act _)).isEmpty
    | .file content => return content.size = 0
    | .link _ => return false
  | .size c n unit => return c.holds ((sizeOfNode s.node + unit - 1) / unit : Nat) n
  | .age c n unit => do
    let w ← (Act.world : Act _)
    let age := ((w.clock : Int) - (← (Act.timeOf s.place : Act _))) / 1000000 / unit
    return c.holds age n
  | .newer time => do return time < (← (Act.timeOf s.place : Act _))
  | .mode all any bits => do
    let mode ← (Act.modeOf s.place s.node : Act _)
    return if all then mode &&& bits = bits else if any then bits = 0 || mode &&& bits ≠ 0 else mode = bits
  | .links c n => do
    let links : Int := match s.node with
      | .directory => 2
      | _ => 1
    return c.holds links n
  | .executable => isExecutable s.place s.node
  | .same l => return s.place = l
  | .print ending => do
    Act.put 1 (s.path ++ ending)
    return true
  | .printf f => do
    Act.put 1 (← foundText s (f.length + 1) f.toList)
    return true
  | .longLine => do
    let mode ← (Act.modeOf s.place s.node : Act _)
    Act.put 1 ("        1      4 " ++ kindLetter s.node ++ modeLetters mode ++ "   1 root     root " ++
      padded 12 false (Nat.repr (sizeOfNode s.node)) ++ " " ++ s.path ++ "\n")
    return true
  | .run argv inDirectory => do
    let status ← (do
      if inDirectory then
        let p ← Act.process
        Act.update fun p => { p with place := s.place.tail, here := placeText s.place.tail }
        let status ← launchFound launch (withBraces ("./" ++ lastPart s.path) argv)
        Act.update fun q => { q with place := p.place, here := p.here }
        return status
      else launchFound launch (withBraces s.path argv) : Act Nat)
    return status = 0
  | .batch argv index => do
    modify fun f =>
      match f.batches.lookup index with
      | some (_, paths) => { f with batches := (index, argv, s.path :: paths) :: f.batches.filter fun e => e.1 != index }
      | none => { f with batches := (index, argv, [s.path]) :: f.batches }
    return true
  | .delete => do
    let isFull ← match s.node with
      | .directory => (do return !(← (namesBelow s.place : Act _)).isEmpty)
      | _ => pure false
    if isFull then
      Act.warn ("find: cannot delete " ++ quotedName s.path ++ ": Directory not empty")
      modify fun f => { f with status := 1 }
      return false
    else
      if lastPart s.path != "." then Act.dropNode s.place
      return true
  | .prune => do
    modify fun f => { f with pruned := true }
    return true
  | .quit => do
    modify fun f => { f with stopped := true }
    return true
  | .not t => do return !(← tested launch s t)
  | .both a b => do
    if ← tested launch s a then
      if (← get).stopped then return true else tested launch s b
    else return false
  | .either a b => do
    if ← tested launch s a then return true else tested launch s b
  | .list a b => do
    let _ ← tested launch s a
    tested launch s b

/-- Walks through what is at a place and below it. -/
def walkFound (launch : List String → Act Nat) (p : FindPlan) : Nat → Finding.Spot → Finding Unit
  | 0, _ => return ()
  | n + 1, s => do
    if (← get).stopped then return ()
    modify fun f => { f with pruned := false }
    if !p.bottomUp && p.least ≤ s.depth then
      let _ ← tested launch s p.test
    let pruned := (← get).pruned && !p.bottomUp
    let deeper := (p.most.map fun m => decide (s.depth < m)).getD true
    if deeper && !pruned then
      match s.node with
      | .directory =>
        for name in ← (namesBelow s.place : Act _) do
          let path := inside s.path name
          let spot ← (walkTo p.follow path : Act _)
          let fs ← (Act.files : Act _)
          match spot, fs.node? (name :: s.place) with
          | .ok (.present l node), _ =>
            walkFound launch p n { path := path, start := s.start, depth := s.depth + 1, place := l, node := node }
          | _, some node =>
            walkFound launch p n { path := path, start := s.start, depth := s.depth + 1, place := name :: s.place, node := node }
          | _, none => pure ()
      | _ => pure ()
    if p.bottomUp && p.least ≤ s.depth && !(← get).stopped then
      let _ ← tested launch s p.test

def find : Tool := fun launch args => do
  let globals := args.takeWhile fun a => ["-L", "-H", "-P"].contains a
  let args := args.drop globals.length
  let isExpression (a : String) : Bool := (a.startsWith "-" && a.length > 1) || a = "(" || a = "!" || a = ")" || a = ","
  let paths := args.takeWhile fun a => !isExpression a
  let words := args.drop paths.length
  let plan : FindPlan := { follow := globals.getLast? == some "-L" }
  let reading : FindRead FindTest := if words.isEmpty then pure FindTest.always else findList (4 * words.length + 8)
  match ← ((reading.run (words, plan)).run : Act _) with
  | .error message => report "find" message
  | .ok (_, (w :: _, _)) => report "find" (if w = ")" then "invalid expression; you have too many ')'"
      else "paths must precede expression: " ++ quotedName w)
  | .ok (test, ([], plan)) =>
    let plan := { plan with test := if test.acts then test else .both test (.print "\n") }
    let walk : Finding Unit := do
      for path in if paths.isEmpty then ["."] else paths do
        match ← (walkTo plan.follow path : Act _) with
        | .ok (.present l node) =>
          walkFound launch plan 1000 { path := path, start := path, depth := 0, place := l, node := node }
        | .ok (.absent _ _) =>
          Act.warn ("find: " ++ quotedName path ++ ": No such file or directory")
          modify fun f => { f with status := 1 }
        | .error fault =>
          Act.warn ("find: " ++ quotedName path ++ ": " ++ fault.reason)
          modify fun f => { f with status := 1 }
    let ((), final) ← walk.run {}
    let mut status := final.status
    for (_, argv, found) in final.batches.reverse do
      if (← launchFound launch (argv ++ found.reverse)) ≠ 0 then status := 1
    return status

/-! ## Commands from input -/

/-- The words of a text in which quotes and backslashes protect blanks; a fault is the
quote that is not closed. -/
def quotedWords : Nat → Option (List Char) → List Char → Except Char (List (String × Nat))
  | 0, _, _ => .ok []
  | _, none, [] => .ok []
  | _, some w, [] => .ok [(String.ofList w.reverse, 0)]
  | n + 1, word, c :: cs =>
    if c = '\n' || c = ' ' || c = '\t' then
      match word with
      | none =>
        if c = '\n' then (quotedWords n none cs).map fun ws => ("", 2) :: ws else quotedWords n none cs
      | some w => do
        let rest ← quotedWords n none cs
        return (String.ofList w.reverse, if c = '\n' then 1 else 0) :: rest
    else if c = '\'' || c = '"' then
      let inside := cs.takeWhile fun d => d != c && d != '\n'
      match cs.drop inside.length with
      | d :: rest => if d = c then quotedWords n (some (inside.reverse ++ word.getD [])) rest else .error c
      | [] => .error c
    else if c = '\\' then
      match cs with
      | d :: rest => quotedWords n (some (d :: word.getD [])) rest
      | [] => quotedWords n word []
    else quotedWords n (some (c :: word.getD [])) cs

/-- Groups words into lines: a word marked with 1 ends its line. -/
def linesOfWords : List (String × Nat) → List String → List (List String)
  | [], [] => []
  | [], acc => [acc.reverse]
  | (w, mark) :: rest, acc =>
    if mark = 2 then linesOfWords rest acc
    else if mark = 1 then (w :: acc).reverse :: linesOfWords rest []
    else linesOfWords rest (w :: acc)

def xargs : Tool := fun launch args =>
  let style : FlagStyle :=
    { plain := "0rtpxo", valued := "nILdPasEiel", stopsEarly := true
      long := [⟨"null", '0', false, false⟩, ⟨"no-run-if-empty", 'r', false, false⟩, ⟨"verbose", 't', false, false⟩,
        ⟨"max-args", 'n', true, false⟩, ⟨"max-lines", 'L', true, false⟩, ⟨"delimiter", 'd', true, false⟩,
        ⟨"replace", 'I', true, false⟩, ⟨"max-procs", 'P', true, false⟩, ⟨"arg-file", 'a', true, false⟩,
        ⟨"max-chars", 's', true, false⟩] }
  let args := args.map fun a => if a = "-i" then "-I\x7b\x7d" else if a = "-l" then "-L1" else a
  withGiven "xargs" style args fun g => do
    let input ← match g.value? 'a' with
      | some path => readInput path
      | none => Act.readAll 0
    match input with
    | .error fault => report "xargs" (match g.value? 'a' with
      | some path => "Cannot open input file " ++ quotedName path ++ ": " ++ fault.reason
      | none => fault.reason)
    | .ok text =>
      let number (c : Char) : Except String (Option Nat) :=
        match g.value? c with
        | none => .ok none
        | some s => match count? s with
          | some 0 => .error ("value for -" ++ String.singleton c ++ " option should be >= 1")
          | some n => .ok (some n)
          | none => .error ("invalid number \"" ++ s ++ "\" for -" ++ String.singleton c ++ " option")
      match number 'n', number 'L' with
      | .error m, _ | _, .error m => misuse "xargs" m
      | .ok most, .ok lines =>
        let replace := (g.value? 'I')
        let isRaw := g.has '0' || g.has 'd'
        let delimiter := if g.has '0' then '\x00' else
          match (unescape .format ((g.value? 'd').getD "\n")).text.toList with
          | c :: _ => c
          | [] => '\x00'
        let items : Except Char (List (List String)) :=
          if isRaw then
            let words := piecesAt delimiter text
            .ok (if lines.isSome || replace.isSome then words.map fun w => [w] else [words])
          else if replace.isSome then do
            let mut rows : List (List String) := []
            for line in linesOf text do
              let bare := String.ofList (line.toList.dropWhile isBlank)
              if !bare.isEmpty then
                let words ← quotedWords (bare.length + 1) none (bare.toList.flatMap fun c => if isBlank c then ['\\', c] else [c])
                rows := [String.join (words.map Prod.fst)] :: rows
            return rows.reverse
          else (quotedWords (text.length + 1) none text.toList).map fun words =>
            match g.value? 'E' with
            | some stop => [((words.filter fun w => w.2 != 2).map Prod.fst).takeWhile (· != stop)]
            | none => if lines.isSome then linesOfWords words [] else [(words.filter fun w => w.2 != 2).map Prod.fst]
        match items with
        | .error c =>
          report "xargs" ("unmatched " ++ (if c = '\'' then "single" else "double") ++
            " quote; by default quotes are special to xargs unless you use the -0 option")
        | .ok rows =>
          let command := if g.operands.isEmpty then ["echo"] else g.operands
          let sets : List (List String) :=
            match replace, lines with
            | some mark, _ => rows.map fun row =>
              let item := " ".intercalate row
              command.headD "" :: command.tail.map fun w => if mark.isEmpty then w else w.replace mark item
            | none, some n => (chunks n (rows.length + 1) rows).map fun part => command ++ part.flatten
            | none, none =>
              let words := rows.flatten
              match most with
              | some n => (chunks n (words.length + 1) words).map fun part => command ++ part
              | none => if words.isEmpty then [] else [command ++ words]
          let sets := if sets.isEmpty && replace.isNone && !g.has 'r' then [command] else sets
          let nothing ← Act.register { target := .nothing }
          Act.connect 0 nothing
          let mut status := 0
          for argv in sets do
            if g.has 't' then Act.warn (" ".intercalate (argv.map quotedIfNeeded))
            let one ← launchOr "xargs" launch argv
            if one = 127 || one = 126 then return one
            else if one = 255 then
              Act.warn ("xargs: " ++ argv.headD "" ++ ": exited with status 255; aborting")
              return 124
            else if one > 128 && one < 160 then
              Act.warn ("xargs: " ++ argv.headD "" ++ ": terminated by signal " ++ Nat.repr (one - 128))
              return 125
            else if one ≠ 0 then status := 123
          return status

end SpeechConfig.Shell.Tool
