/-
# Editing texts

Runs an edit script on the lines of texts.  A round takes a line into the pattern space,
runs the steps that are for it, and shows what has become of it.
-/
import SpeechConfig.Shell.Tool.EditScript
import SpeechConfig.Shell.Tool.Files

namespace SpeechConfig.Shell.Tool

/-! ## Replacing -/

/-- Adds a text in the present casing, which for one letter may be another. -/
def addCased (mode once : Casing) (text : String) (acc : List Char) : Casing × List Char :=
  text.toList.foldl (fun (s : Casing × List Char) c =>
    let shown := match s.1, mode with
      | .nextUpper, _ => upperOf c
      | .nextLower, _ => lowerOf c
      | _, .upper => upperOf c
      | _, .lower => lowerOf c
      | _, _ => c
    (.plain, shown :: s.2)) (once, acc)

def replacementText (pieces : List Replacement) (m : Match) (t : Subject) : String :=
  let (_, _, out) := pieces.foldl (fun (s : Casing × Casing × List Char) p =>
    let (mode, once, out) := s
    let add (text : String) : Casing × Casing × List Char :=
      let (once, out) := addCased mode once text out
      (mode, once, out)
    match p with
    | .text text => add text
    | .group n => add (m.groupText t n)
    | .casing .nextUpper => (mode, .nextUpper, out)
    | .casing .nextLower => (mode, .nextLower, out)
    | .casing c => (c, .plain, out)) (.plain, .plain, ([] : List Char))
  String.ofList out.reverse

/-- A part of a subject, in front of what follows in reverse. -/
def addPart (t : Subject) (i j : Nat) (acc : List Char) : List Char :=
  (t.text.extract i j).foldl (fun acc c => c :: acc) acc

/-- Replaces matches from a place on; every step goes on by a character.  None says that
nothing was replaced. -/
def substitutedFrom (s : Substitution) (r : Regex) (t : Subject) :
    Nat → Nat → Nat → Option Nat → Bool → List Char → Option (List Char)
  | 0, start, _, _, done, acc => if done then some (addPart t start t.text.size acc) else none
  | n + 1, start, count, former, done, acc =>
    let finish (start : Nat) (done : Bool) (acc : List Char) : Option (List Char) :=
      if done then some (addPart t start t.text.size acc) else none
    if t.text.size < start then finish start done acc
    else match r.search? t start with
      | none => finish start done acc
      | some m =>
        let acc := addPart t start m.start acc
        let isEmpty := m.stop == m.start
        let resume := if isEmpty then m.stop + 1 else m.stop
        let past (acc : List Char) : List Char :=
          if isEmpty then addPart t m.stop (m.stop + 1) acc else acc
        if isEmpty && former == some m.start then
          substitutedFrom s r t n resume count none done (past acc)
        else if count + 1 < s.number then
          substitutedFrom s r t n resume (count + 1) (some m.stop) done (past (addPart t m.start m.stop acc))
        else
          let acc := (replacementText s.pieces m t).toList.foldl (fun acc c => c :: acc) acc
          if s.all then substitutedFrom s r t n resume (count + 1) (some m.stop) true (past acc)
          else finish m.stop true acc

/-- A text with matches replaced; none if there is none to replace. -/
def substituted? (s : Substitution) (r : Regex) (t : Subject) : Option String :=
  (substitutedFrom s r t (2 * t.text.size + 3) 0 0 none false []).map fun cs => String.ofList cs.reverse

/-! ## State -/

/-- What is shown behind a line: a text, a file, or the next line of a file. -/
inductive Queued where
  | text (s : String)
  | file (path : String)
  | lineOf (path : String)

structure EditSetting where
  steps : Array EditStep
  silent : Bool := false
  separate : Bool := false
  inPlace : Option String := none
  ending : Char := '\n'
  width : Nat := 70
  launch : List String → Act Nat

/-- A script that runs.  `space` is the pattern space and `held` the hold space, `ended` says
that the line in the pattern space had an end, and `ranges` holds for each step whether its
range is open and where it ends.  `rest` is what is left of the present input, and `out`
what was written for a file that is edited in place. -/
structure EditState where
  space : String := ""
  held : String := ""
  ended : Bool := true
  line : Nat := 0
  changed : Bool := false
  ranges : Array (Bool × Nat) := #[]
  queue : List Queued := []
  former : Option (Regex × Bool × Bool) := none
  rest : List Char := []
  used : Nat := 0
  name : String := "-"
  isOpen : Bool := false
  files : List String := []
  readers : List (String × List Char) := []
  writers : List (String × Nat) := []
  openEnds : List String := []
  out : List String := []
  status : Nat := 0

/-- A part of the run of a script. -/
abbrev EditRun (α : Type) := StateT EditState (ExceptT Nat Act) α

namespace EditRun

def act {α : Type} (a : Act α) : EditRun α :=
  fun s => ExceptT.lift (a.map fun x => (x, s))

def fail {α : Type} (message : String) (status : Nat) : EditRun α := do
  act (Act.warn ("sed: " ++ message))
  throw status

/-- Writes a text as it is: to the file that is edited, or to the standard output. -/
def putRaw (q : EditSetting) (target text : String) : EditRun Unit := do
  if target = "" && q.inPlace.isSome then modify fun s => { s with out := text :: s.out }
  else if target = "" || target = "/dev/stdout" then act (Act.put 1 text)
  else if target = "/dev/stderr" then act (Act.put 2 text)
  else match (← get).writers.lookup target with
    | some i =>
      match (← act Act.world).opened[i]? with
      | some f =>
        let _ ← act (Act.writeOpened i f text)
      | none => pure ()
    | none => pure ()

/-- The name under which it is kept that the last line of a target has no end. -/
def targetKey (q : EditSetting) (target : String) : String :=
  if target = "/dev/stdout" && q.inPlace.isNone then "" else target

/-- Ends the last line of a target that has no end yet. -/
def endLine (q : EditSetting) (target : String) : EditRun Unit := do
  let key := targetKey q target
  if (← get).openEnds.contains key then
    modify fun s => { s with openEnds := s.openEnds.filter (· != key) }
    putRaw q target (String.singleton q.ending)

/-- Writes a text behind whole lines. -/
def put (q : EditSetting) (target text : String) : EditRun Unit := do
  endLine q target
  putRaw q target text

/-- Writes a line, which gets an end if the line that was read had one. -/
def putLine (q : EditSetting) (target text : String) : EditRun Unit := do
  endLine q target
  if (← get).ended then putRaw q target (text ++ String.singleton q.ending)
  else
    putRaw q target text
    modify fun s => { s with openEnds := targetKey q target :: s.openEnds }

def showQueue (q : EditSetting) : EditRun Unit := do
  let items := (← get).queue.reverse
  modify fun s => { s with queue := [] }
  for item in items do
    match item with
    | .text t => put q "" t
    | .file path =>
      match ← act (readInput (if path = "/dev/stdin" then "-" else path)) with
      | .ok text => if !text.isEmpty then put q "" text
      | .error _ => pure ()
    | .lineOf path =>
      let known := (← get).readers.lookup path
      let text ← match known with
        | some cs => pure cs
        | none =>
          match ← act (readInput path) with
          | .ok text => pure text.toList
          | .error _ => pure []
      if !text.isEmpty then
        let line := text.takeWhile (· != q.ending)
        put q "" (String.ofList line ++ String.singleton q.ending)
        modify fun s => { s with
          readers := (path, text.drop (line.length + 1)) :: s.readers.filter fun e => e.1 != path }
      else if known.isNone then modify fun s => { s with readers := (path, []) :: s.readers }

/-! ## Inputs -/

/-- Whether a path leads to a file with content. -/
def hasContent (path : String) : Act Bool := do
  match ← walkTo true path with
  | .ok (.present _ (.file content)) => return content.size > 0
  | _ => return path = "-"

/-- Puts the edited text in the place of a file. -/
def finishFile (q : EditSetting) : EditRun Unit := do
  let s ← get
  if let some suffix := q.inPlace then
    if s.isOpen then
      let text := String.join s.out.reverse
      set { s with out := [], openEnds := s.openEnds.filter (· != "") }
      match ← act (walkTo false s.name) with
      | .ok (.present l node) =>
        if !suffix.isEmpty then
          let base := lastPart s.name
          let backup := if suffix.toList.contains '*' then
              String.join (suffix.toList.map fun c => if c = '*' then base else String.singleton c)
            else base ++ suffix
          let path := if backup.toList.contains '/' then backup else
            if s.name.toList.contains '/' then inside (frontPart s.name) backup else backup
          match ← act (walkTo false path) with
          | .ok (.present m _) =>
            act (Act.putNode m node)
            act (copyManners l m node)
          | .ok (.absent dir name) =>
            act (Act.putNode (name :: dir) node)
            act (copyManners l (name :: dir) node)
          | .error _ => pure ()
        act (Act.putNode l (.file (Octets.toBytes text)))
      | _ => pure ()
  modify fun s => { s with isOpen := false }

/-- Opens the next input that can be read. -/
def openNext (q : EditSetting) : Nat → EditRun Bool
  | 0 => return false
  | n + 1 => do
    match (← get).files with
    | [] => return false
    | path :: files =>
      modify fun s => { s with files := files }
      let spot ← act (walkTo true path)
      let refused ← match q.inPlace, spot with
        | some _, .ok (.present _ (.file _)) => pure none
        | some _, .ok (.present _ _) => pure (some ("couldn't edit " ++ path ++ ": not a regular file"))
        | _, _ => pure none
      match refused with
      | some message =>
        act (Act.warn ("sed: " ++ message))
        modify fun s => { s with status := 4 }
        openNext q n
      | none =>
        match ← act (readInput path) with
        | .error .isDirectory => fail ("read error on " ++ path ++ ": Is a directory") 4
        | .error e =>
          act (Act.warn ("sed: can't read " ++ path ++ ": " ++ e.reason))
          modify fun s => { s with status := 2 }
          openNext q n
        | .ok text =>
          if q.separate then
            modify fun s => { s with
              line := 0, held := "", ranges := s.ranges.mapIdx fun i r =>
                match (q.steps[i]?).bind EditStep.first with
                | some (.line 0) => (true, 0)
                | _ => (false, r.2) }
          modify fun s => { s with rest := text.toList, used := 0, name := path, isOpen := true }
          if text.isEmpty then
            finishFile q
            openNext q n
          else return true

/-- Whether the line in the pattern space is the last one. -/
def isLast (q : EditSetting) : EditRun Bool := do
  let s ← get
  if !s.rest.isEmpty then return false
  else if q.separate then return true
  else return !(← act (s.files.anyM hasContent))

def takeLine (q : EditSetting) (adds : Bool) : EditRun Bool := do
  let isThere ← do
    if !(← get).rest.isEmpty then pure true
    else
      finishFile q
      openNext q ((← get).files.length + 1)
  if isThere then
    modify fun s =>
      let line := s.rest.takeWhile (· != q.ending)
      let behind := s.rest.drop line.length
      let text := String.ofList line
      { s with
        space := if adds then s.space ++ text else text
        rest := behind.drop 1
        used := s.used + line.length + 1
        ended := !behind.isEmpty
        line := s.line + 1 }
  return isThere

/-! ## Steps -/

/-- The expression of a pattern, which from now on is the last one. -/
def resolve (p : EditPattern) : EditRun (Regex × Bool × Bool) := do
  match p.regex with
  | some r =>
    let used := (r, p.ignoreCase, p.lines)
    modify fun s => { s with former := some used }
    return used
  | none =>
    match (← get).former with
    | some used => return used
    | none => fail "-e expression #1, char 0: no previous regular expression" 1

/-- The pattern space as the subject of a search. -/
def subject (ignoreCase lines : Bool) : EditRun Subject := do
  return { text := (← get).space.toList.toArray, ignoreCase := ignoreCase, lines := lines }

/-- Whether the present line is at a place. -/
def isAt (q : EditSetting) (p : EditPlace) : EditRun Bool := do
  match p with
  | .line n => return (← get).line = n
  | .stepped first step =>
    let line := (← get).line
    return first ≤ line && (line - first) % step = 0
  | .last => isLast q
  | .matching p =>
    let (r, ignoreCase, lines) ← resolve p
    return r.finds (← subject ignoreCase lines)

/-- Opens or closes the range of a step. -/
def setRange (i : Nat) (isOpen : Bool) (stop : Nat) : EditRun Unit :=
  modify fun s => { s with ranges := s.ranges.setIfInBounds i (isOpen, stop) }

/-- Whether a step is for the present line. -/
def isChosen (q : EditSetting) (i : Nat) (step : EditStep) : EditRun Bool := do
  match step.first, step.last with
  | none, _ => return true
  | some first, none => isAt q first
  | some first, some last =>
    let line := (← get).line
    let (isOpen, stop) := ((← get).ranges[i]?).getD (false, 0)
    if isOpen then
      match last with
      | .place (.line n) =>
        if n ≤ line then setRange i false 0
        return line ≤ n
      | .place p =>
        if ← isAt q p then setRange i false 0
        return true
      | _ =>
        if stop ≤ line then setRange i false 0
        return line ≤ stop
    else if ← isAt q first then
      match last with
      | .place (.line n) => if line < n then setRange i true n
      | .place _ => setRange i true 0
      | .further n => if n > 0 then setRange i true (line + n)
      | .multiple n => if n > 0 then setRange i true (line + (n - line % n))
      return true
    else return false

def captured (launch : List String → Act Nat) (argv : List String) : Act String := do
  let former := (← Act.process).streams
  let b ← Act.newBuffer {}
  let i ← Act.register { target := .buffer b }
  Act.connect 1 i
  let _ ← launch argv
  Act.update fun p => { p with streams := former }
  Act.bufferText b

def listed (c : Char) : String :=
  match c.toNat with
  | 92 => "\\\\"
  | 7 => "\\a"
  | 8 => "\\b"
  | 12 => "\\f"
  | 10 => "\\n"
  | 13 => "\\r"
  | 9 => "\\t"
  | 11 => "\\v"
  | n => if isGraph c || c == ' ' then String.singleton c else "\\" ++ Floating.zeroFilled 3 (digitsIn 8 n)

/-- A text as it is listed, in lines of a width. -/
def listing (width : Nat) (text : String) : String :=
  let r := text.toList.foldl (fun (acc : List String × Nat) c =>
    let shown := listed c
    if width > 0 && acc.2 + shown.length > width - 1 then (shown :: "\\\n" :: acc.1, shown.length)
    else (shown :: acc.1, acc.2 + shown.length)) ([], 0)
  String.join r.1.reverse ++ "$\n"

/-- How a round goes on behind a step: at a step, with the next line with or without the
pattern space being shown, with the same pattern space, or not at all. -/
inductive Turn where
  | goOn (i : Nat)
  | showNext
  | dropNext
  | again
  | quit (status : Nat) (shows : Bool)

def runSubstitution (q : EditSetting) (c : Substitution) : EditRun Unit := do
  let (r, ignoreCase, lines) ← resolve c.pattern
  match substituted? c r (← subject ignoreCase lines) with
  | none => pure ()
  | some text =>
    modify fun s => { s with space := text, changed := true }
    if c.shows = 1 && c.runs then putLine q "" text
    if c.runs then
      let out ← act (captured q.launch ["sh", "-c", text])
      modify fun s => { s with space := if out.endsWith "\n" then takeText (out.length - 1) out else out }
    if c.shows = 2 || (c.shows = 1 && !c.runs) then putLine q "" (← get).space
    if let some file := c.file then putLine q file (← get).space

def runStep (q : EditSetting) (i : Nat) (step : EditStep) : EditRun Turn := do
  let queue (item : Queued) : EditRun Unit := modify fun s => { s with queue := item :: s.queue }
  let firstLine (s : EditState) : String := String.ofList (s.space.toList.takeWhile (· != q.ending))
  match step.action with
  | .opening _ | .nothing => pure ()
  | .number => put q "" (Nat.repr (← get).line ++ "\n")
  | .append text => queue (.text text)
  | .insert text => put q "" text
  | .change text =>
    let isOpen := (((← get).ranges[i]?).getD (false, 0)).1
    if step.last.isNone || step.negated || !isOpen then put q "" text
    return .dropNext
  | .jump kind (.place goal) =>
    act (Act.pass 1)
    let changed := (← get).changed
    match kind with
    | .always => return .goOn goal
    | .changed =>
      if changed then
        modify fun s => { s with changed := false }
        return .goOn goal
    | .unchanged =>
      if changed then modify fun s => { s with changed := false } else return .goOn goal
  | .jump _ _ => pure ()
  | .delete => return .dropNext
  | .deleteFirst =>
    let s ← get
    let line := firstLine s
    if line.length = s.space.length then return .dropNext
    else
      set { s with space := dropText (line.length + 1) s.space }
      return .again
  | .runText (some command) => put q "" (← act (captured q.launch ["sh", "-c", command]))
  | .runText none =>
    let out ← act (captured q.launch ["sh", "-c", (← get).space])
    modify fun s => { s with space := if out.endsWith "\n" then takeText (out.length - 1) out else out }
  | .fileName => put q "" ((← get).name ++ "\n")
  | .get adds =>
    modify fun s => { s with space := if adds then s.space ++ String.singleton q.ending ++ s.held else s.held }
  | .hold adds =>
    modify fun s => { s with held := if adds then s.held ++ String.singleton q.ending ++ s.space else s.space }
  | .exchange => modify fun s => { s with space := s.held, held := s.space }
  | .list width => put q "" (listing (width.getD q.width) (← get).space)
  | .next =>
    if ← isLast q then return .quit 0 true
    if !q.silent then putLine q "" (← get).space
    showQueue q
    if !(← takeLine q false) then return .quit 0 false
  | .nextAdded =>
    if ← isLast q then return .quit 0 true
    showQueue q
    modify fun s => { s with space := s.space.push q.ending }
    if !(← takeLine q true) then return .quit 0 false
  | .print => putLine q "" (← get).space
  | .printFirst =>
    let s ← get
    put q "" (firstLine s ++ String.singleton q.ending)
  | .quit status isSilent => return .quit status (!isSilent)
  | .readFile path => queue (.file path)
  | .readLine path => queue (.lineOf path)
  | .substitute c => runSubstitution q c
  | .write path firstOnly =>
    let s ← get
    if firstOnly then put q path (firstLine s ++ String.singleton q.ending) else putLine q path s.space
  | .translate table =>
    modify fun s => { s with space := s.space.map fun c => (table.lookup c).getD c }
  | .clear => modify fun s => { s with space := "" }
  return .goOn (i + 1)

def runSteps (q : EditSetting) : Nat → Nat → EditRun Turn
  | 0, _ => return .quit 0 false
  | n + 1, i => do
    match q.steps[i]? with
    | none => return .showNext
    | some step =>
      if (← isChosen q i step) != step.negated then
        match ← runStep q i step with
        | .goOn j => runSteps q n j
        | turn => return turn
      else match step.action with
        | .opening stop => runSteps q n stop
        | _ => runSteps q n (i + 1)

/-- How many steps a round may take. -/
def stepLimit : Nat := 20000000

/-- Runs round after round; `reads` says that a round begins with the next line. -/
def runRounds (q : EditSetting) : Nat → Bool → EditRun Nat
  | 0, _ => return 1
  | n + 1, reads => do
    let isThere ← if reads then takeLine q false else pure true
    if !isThere then return (← get).status
    else
      let showSpace : EditRun Unit := do
        if !q.silent then putLine q "" (← get).space
      match ← runSteps q stepLimit 0 with
      | .showNext | .goOn _ =>
        showSpace
        showQueue q
        modify fun s => { s with changed := false }
        runRounds q n true
      | .dropNext =>
        showQueue q
        modify fun s => { s with changed := false }
        runRounds q n true
      | .again =>
        showQueue q
        runRounds q n false
      | .quit status shows =>
        if shows then showSpace
        showQueue q
        finishFile q
        let faults := (← get).status
        return if status = 0 then faults else status

end EditRun

/-! ## The tool -/

def editFlags : FlagStyle :=
  { plain := "bsnrzuE", valued := "efl", status := 1
    long := [⟨"binary", 'b', false, false⟩, ⟨"regexp-extended", 'r', false, false⟩, ⟨"debug", 'D', false, false⟩,
      ⟨"in-place", 'i', false, true⟩, ⟨"expression", 'e', true, false⟩, ⟨"file", 'f', true, false⟩,
      ⟨"line-length", 'l', true, false⟩, ⟨"null-data", 'z', false, false⟩, ⟨"quiet", 'n', false, false⟩,
      ⟨"posix", 'p', false, false⟩, ⟨"silent", 'n', false, false⟩, ⟨"sandbox", 'S', false, false⟩,
      ⟨"separate", 's', false, false⟩, ⟨"unbuffered", 'u', false, false⟩,
      ⟨"follow-symlinks", 'F', false, false⟩] }

/-- Arguments in which the flag for editing in place, whose value stands in the same word,
is spelt out. -/
def spelledOut (args : List String) : List String :=
  (args.foldl (fun (acc : List String × Nat) a =>
    if acc.2 = 2 then (a :: acc.1, 2)
    else if acc.2 = 1 then (a :: acc.1, 0)
    else if a = "--" then (a :: acc.1, 2)
    else match a.toList with
      | '-' :: c :: cs =>
        if c = '-' then (a :: acc.1, if a = "--expression" || a = "--file" || a = "--line-length" then 1 else 0)
        else
          let letters := c :: cs
          let front := letters.takeWhile "bsnrzuE".toList.contains
          match letters.drop front.length with
          | 'i' :: suffix =>
            let flag := if suffix.isEmpty then "--in-place" else "--in-place=" ++ String.ofList suffix
            (flag :: (if front.isEmpty then acc.1 else ("-" ++ String.ofList front) :: acc.1), 0)
          | [_] => (a :: acc.1, 1)
          | _ => (a :: acc.1, 0)
      | _ => (a :: acc.1, 0)) ([], 0)).1.reverse

/-- Shows how the editor is used. -/
def misuseEdit (message : Option String) : Act Nat := do
  if let some m := message then Act.warn ("sed: " ++ m)
  Act.warn "Usage: sed [OPTION]... \x7bscript-only-if-no-other-script\x7d [input-file]..."
  return 1

/-- The parts of a script that flags give, in order. -/
def scriptParts (g : GivenFlags) : Act (Except Nat (List (EditOrigin × String))) := do
  let mut parts : List (EditOrigin × String) := []
  let mut number := 0
  for (c, value) in g.flags do
    if c = 'e' then
      number := number + 1
      parts := parts ++ [(.expression number, value)]
    else if c = 'f' then
      match ← readInput value with
      | .error e =>
        return .error (← report "sed" ("couldn't open file " ++ value ++ ": " ++ e.reason) 4)
      | .ok text =>
        let text := if text.endsWith "\n" then takeText (text.length - 1) text else text
        parts := parts ++ [(.file value, text)]
  return .ok parts

/-- Opens the files that a script writes to. -/
def openWriters (names : List String) : Act (Except String (List (String × Nat))) := do
  let mut found : List (String × Nat) := []
  for name in names do
    if name ≠ "/dev/stdout" && name ≠ "/dev/stderr" then
      match ← Act.openToWrite name .fresh with
      | .ok i => found := (name, i) :: found
      | .error e => return .error ("couldn't open file " ++ name ++ ": " ++ e.reason)
  return .ok found

def sed : Tool := fun launch args => do
  match readGiven editFlags (spelledOut args) with
  | .error e => misuseEdit (some e.message)
  | .ok g =>
    match ← scriptParts g with
    | .error status => return status
    | .ok given =>
      let (parts, files) := if given.isEmpty then
          (g.operands.take 1 |>.map fun s => (EditOrigin.expression 1, s), g.operands.drop 1)
        else (given, g.operands)
      if parts.isEmpty then misuseEdit none
      else
        let reading : EditRead Unit := parts.forM fun part => readEditPart part.1 part.2
        match reading.run { extended := g.has 'E' || g.has 'r' } with
        | .error message => report "sed" message (if message.startsWith "-e" || message.startsWith "file " then 1 else 4)
        | .ok ((), draft) =>
          match draft.resolved with
          | .error message => report "sed" message (if message.startsWith "can't" then 4 else 1)
          | .ok steps =>
            match ← openWriters draft.files with
            | .error message => report "sed" message 4
            | .ok writers =>
              let inPlace := g.value? 'i'
              if inPlace.isSome && files.isEmpty then report "sed" "no input files" 4
              else
                let before ← Act.openedAt 0
                let q : EditSetting :=
                  { steps := steps, silent := g.has 'n' || draft.silent
                    separate := g.has 's' || inPlace.isSome
                    inPlace := inPlace, ending := if g.has 'z' then '\x00' else '\n'
                    width := ((g.value? 'l').bind count?).getD 70, launch := launch }
                let start : EditState :=
                  { files := if files.isEmpty then ["-"] else files
                    ranges := steps.map fun s => match s.first with
                      | some (.line 0) => (true, 0)
                      | _ => (false, 0)
                    writers := writers }
                match ← ((EditRun.runRounds q 20000000 true).run start).run with
                | .error status => return status
                | .ok (status, s) =>
                  if s.name = "-" && !s.rest.isEmpty then
                    Act.giveBack before (if g.has 'u' then 0 else 4096) s.used s.rest
                  return status

end SpeechConfig.Shell.Tool
