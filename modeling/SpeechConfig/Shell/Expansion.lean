/-
# Expansion

What the expansions in a word stand for.  Running commands, and expanding what stands
inside something else, is left to the executor of the next depth.
-/
import SpeechConfig.Shell.Arithmetic
import SpeechConfig.Shell.Brace
import SpeechConfig.Shell.Escape
import SpeechConfig.Shell.Field
import SpeechConfig.Shell.Quoting

namespace SpeechConfig.Shell

/-- How a word is expanded: whether it stands in double quotes, and whether it may become
several fields. -/
structure Manner where
  doubled : Bool := false
  splits : Bool := true
deriving DecidableEq, Repr

/-- Which of the commands in the background are to be run to their end now: all, those that
are over by now, those that write to a buffer, or those with certain numbers. -/
inductive Settling where
  | all
  | due
  | holding (buffer : Nat)
  | these (numbers : List Nat)
deriving DecidableEq, Repr

/-- What the next depth does: it runs commands, runs texts under a name and from a line
on, runs commands that wait in the background, expands pieces, and starts programs. -/
structure Executor where
  run : Command → Act Unit
  text : String → Nat → String → Act Unit
  settle : Settling → Act Unit
  pieces : Manner → List Piece → Act (List Shard)
  launch : List String → Act Nat

/-! ## Processes of their own -/

def statusOf (stop : Stop) (status : Nat) : Nat :=
  match stop with
  | .exit n => n
  | .killed n => 128 + n
  | .leaveCall n => n
  | .abandon => if status = 0 then 1 else status
  | .deadline => 143
  | .leaveLoop _ | .nextRound _ => status

/-- Runs what is set for the end of a shell, once. -/
def runExitTrap (x : Executor) : Act Unit := do
  match (← Act.process).traps.lookup "EXIT" with
  | none => pure ()
  | some action =>
    Act.update fun p => { p with traps := p.traps.filter fun t => t.1 != "EXIT", inTrap := [] }
    if !action.isEmpty then
      let status ← Act.status
      x.text "exit trap" 1 action
      Act.setStatus status

/-- The signals that end a shell before it can do anything more. -/
def uncaughtSignals : List Nat := [3, 9, 16, 29, 30]

/-- Runs a part to its end, with what is set for the end, and returns how it stopped. -/
def toTheEnd (x : Executor) (part : Act Unit) : Act (Option Stop) := do
  let guarded (part : Act Unit) : Act (Option Stop) := do
    match ← Act.attempt part with
    | .ok () => return none
    | .error e => return some e
  let first ← guarded part
  let status ← Act.status
  Act.setStatus (match first with
    | some stop => statusOf stop status
    | none => status)
  match first with
  | some .deadline => return first
  | some (.killed n) =>
    if (← Act.isBash) && !uncaughtSignals.contains n then
      let _ ← guarded (runExitTrap x)
    return some (.killed n)
  | _ =>
    match ← guarded (runExitTrap x) with
    | some (.exit n) =>
      Act.setStatus n
      return some (.exit n)
    | some (.killed n) => return some (.killed n)
    | some .deadline => return some .deadline
    | _ => return first

/-- Runs a part in a process of its own, and returns its status. -/
def apart (x : Executor) (part : Act Unit) : Act Nat := do
  let outer ← Act.process
  let number ← Act.freshNumber
  Act.update fun p =>
    { p with
      number := number
      parent := outer.number
      traps := p.traps.filter fun t => t.2.isEmpty
      isSubshell := true
      depth := p.depth + 1
      loops := 0
      lastJob := p.lastJob }
  let stop ← toTheEnd x part
  let inner ← Act.process
  let status := match stop with
    | some (.killed n) => 128 + n
    | some (.exit n) => n
    | _ => inner.status
  Act.update fun _ => outer
  if stop == some .deadline then throw .deadline
  return status % 256

/-- Runs a part in a process of its own and returns what it writes to its output. -/
def captured (x : Executor) (part : Act Unit) : Act (String × Nat) := do
  let buffer ← Act.newBuffer {}
  let opened ← Act.register { target := .buffer buffer }
  let status ← apart x do
    Act.connect 1 opened
    part
  x.settle (.holding buffer)
  let text ← Act.bufferText buffer
  Act.updateBuffer buffer fun _ => {}
  return (text, status)

/-- A text without the line ends at its end. -/
def withoutTrailingLines (s : String) : String :=
  String.ofList (s.toList.reverse.dropWhile (· == '\n')).reverse

/-- The output of commands as an expansion takes it.  The large language forgets there that
it is to end at the first failure. -/
def outputOf (x : Executor) (part : Act Unit) : Act String := do
  let (text, status) ← captured x do
    if (← Act.isBash) && !(← Act.hasSwitch "inherit_errexit") then
      Act.update fun p => { p with options := p.options.filter (· != "errexit") }
    part
  Act.update fun p => { p with status := status, substituted := some status }
  let text ← do
    if text.toList.contains '\x00' then
      if ← Act.isBash then
        Act.complain "warning: command substitution: ignored null byte in input"
      pure (String.ofList (text.toList.filter (· != '\x00')))
    else pure text
  return withoutTrailingLines text

/-! ## Failing expansions -/

/-- Ends the present command because of what is wrong in it; the small language ends the
shell. -/
def abandonWith {α : Type} (message : String) : Act α := do
  Act.complain message
  if ← Act.isBash then
    Act.setStatus 1
    throw .abandon
  else throw (.exit 2)

/-- Ends the shell because of what is wrong in a word. -/
def exitWith {α : Type} (message : String) : Act α := do
  Act.complain message
  throw (.exit (if ← Act.isBash then 1 else 2))

/-- The name under which a command reports what is wrong in an expression. -/
def calculateOrAbandon (label text : String) : Act Int := do
  match ← (calculate text).run with
  | .ok n => return n
  | .error m =>
    if ← Act.isBash then
      abandonWith (if label.isEmpty then m.message else label ++ ": " ++ m.message)
    else abandonWith m.smallMessage

/-! ## Texts -/

/-- What stands between the texts of a list that become one. -/
def joiner : Act String := do
  match ← Act.textOf "IFS" with
  | none => return " "
  | some s => return takeText 1 s

def separators : Act (List Char) := do
  match ← Act.textOf "IFS" with
  | none => return [' ', '\t', '\n']
  | some s => return s.toList

def textOfPieces (x : Executor) (doubled : Bool) (pieces : List Piece) : Act String := do
  return Shard.plain (← x.pieces { doubled := doubled, splits := false } pieces)

def marksOfPieces (x : Executor) (pieces : List Piece) : Act (List Mark) := do
  return Shard.marks (← x.pieces { doubled := false, splits := false } pieces)

/-- How patterns are read at present. -/
def globStyle : Act Glob.Style := do
  if ← Act.isBash then
    return { groups := ← Act.hasSwitch "extglob", ignoreCase := ← Act.hasSwitch "nocasematch" }
  else return {}

/-! ## Tildes -/

/-- The directory that a tilde with a name stands for. -/
def homeOf? (name : String) : Act (Option String) := do
  match name with
  | "" => return some (← Act.textOr "HOME" "/root")
  | "+" => return some (← Act.process).here
  | "-" => Act.textOf "OLDPWD"
  | "root" => return some "/root"
  | _ => return none

/-- Resolves the tilde at the start of a text, if there is one; `isLast` says that nothing
is behind the text. -/
def withoutTilde (stops : List Char) (isLast : Bool) (s : String) : Act (List Piece) := do
  match s.toList with
  | '~' :: cs =>
    let name := cs.takeWhile fun c => !stops.contains c
    if name.length = cs.length && !isLast then return [.text s]
    else match ← homeOf? (String.ofList name) with
    | some dir => return [.quoted dir, .text (String.ofList (cs.drop name.length))]
    | none => return [.text s]
  | _ => return [.text s]

/-- Resolves a tilde at the start of a word. -/
def tildeInWord (pieces : List Piece) : Act (List Piece) := do
  match pieces with
  | .text s :: rest => return (← withoutTilde ['/'] rest.isEmpty s) ++ rest
  | pieces => return pieces

/-- Resolves tildes at the start of a value and behind its colons. -/
def tildesInValue (pieces : List Piece) : Act (List Piece) := do
  let rec go (atStart : Bool) : List Piece → Act (List Piece)
    | [] => return []
    | .text s :: rest => do
      let parts := splitAll ':' s
      let count := parts.length
      let mut pieces : List Piece := []
      for (part, i) in parts.zip (List.range count) do
        let isLast := i + 1 < count || rest.isEmpty
        let here ← if (atStart || i > 0) && part.startsWith "~" then withoutTilde ['/', ':'] isLast part
          else pure [.text part]
        pieces := pieces ++ (if i > 0 then [Piece.text ":"] else []) ++ here
      return pieces ++ (← go (s.endsWith ":") rest)
    | p :: rest => do return p :: (← go false rest)
  go true pieces

/-! ## Parameters -/

/-- How the texts of an expansion belong together: it is one text, or each stands for
itself, or they are joined. -/
inductive Shape where
  | one
  | each
  | joined
deriving DecidableEq, Repr

/-- The texts that a parameter expands to; none if it is missing. -/
structure Expanded where
  texts : List String
  shape : Shape
  isSet : Bool

namespace Expanded

def ofText (s : Option String) : Expanded :=
  ⟨[s.getD ""], .one, s.isSome⟩

def ofList (texts : List String) (joined : Bool) : Expanded :=
  ⟨texts, if joined then .joined else .each, !texts.isEmpty⟩

def shards (m : Manner) (e : Expanded) : Act (List Shard) := do
  let origin : Origin := if m.doubled then .quoted else .expanded
  match e.shape with
  | .one => return [.text (e.texts.headD "") origin]
  | shape =>
    if !m.splits then
      let between ← if shape = .joined then joiner else pure " "
      return [.text (between.intercalate e.texts) origin]
    else if m.doubled && shape == .joined then
      return [.text ((← joiner).intercalate e.texts) .quoted]
    else return (e.texts.map fun s => Shard.text s origin).intersperse .gap

end Expanded

/-- The index that a subscript means in a variable. -/
def indexOf (x : Executor) (name : String) (subscript : List Piece) : Act Index := do
  let target ← Act.resolve name
  match (← Act.knownVariable? target).map Variable.value with
  | some (.table _) => return .key (← textOfPieces x false subscript)
  | _ =>
    let text ← textOfPieces x true subscript
    let calculated : Act (Except Miscalculation Index) := (indexWith calculate target text).run
    match ← calculated with
    | .ok i => return i
    | .error m => abandonWith m.message

def expandedOf (x : Executor) (name : String) (subscript : Subscript) : Act Expanded := do
  match name, subscript with
  | "@", _ => return .ofList (← Act.process).parameters false
  | "*", _ => return .ofList (← Act.process).parameters true
  | _, .absent => return .ofText (← Act.textOf name)
  | _, .all joined => return .ofList (← Act.valueOf name).texts joined
  | _, .at pieces =>
    let i ← indexOf x name pieces
    return .ofText ((← Act.valueOf name).at? i)

/-- The parameter that a text names, with the subscript in it. -/
def referenceOf (s : String) : String × Subscript :=
  match splitFirst? '[' s with
  | some (name, rest) =>
    if rest.endsWith "]" then
      let inside := takeText (rest.length - 1) rest
      if inside = "@" then (name, .all false)
      else if inside = "*" then (name, .all true)
      else (name, .at [.text inside])
    else (s, .absent)
  | none => (s, .absent)

/-- Whether a text can name a parameter. -/
def isReference (s : String) : Bool :=
  let name := (referenceOf s).1
  isName name || (!name.isEmpty && name.toList.all isDigit) ||
    ["@", "*", "#", "?", "-", "$", "!"].contains name

/-- Refuses a missing parameter where that is an error. -/
def refuseMissing (name : String) : Act Unit := do
  if ← Act.hasOption "nounset" then
    exitWith (name ++ (if ← Act.isBash then ": unbound variable" else ": parameter not set"))

def shownName (name : String) (subscript : Subscript) (source : String) : String :=
  match subscript with
  | .absent => name
  | _ =>
    let inner := String.ofList ((source.toList.drop 2).dropWhile fun c => c == '#' || c == '!')
    let upTo := inner.toList.takeWhile (· != ']')
    String.ofList upTo ++ "]"

/-! ## Operations -/

/-- A text in which characters that a pattern matches changed their case. -/
def recase (casing : Recasing) (everywhere : Bool) (pattern : List Glob) (s : String) : String :=
  let change (c : Char) : Char :=
    match casing with
    | .upper => upperOf c
    | .lower => lowerOf c
    | .toggled => if isLower c then upperOf c else lowerOf c
  let apply (c : Char) : Char := if Glob.accepts pattern [c] then change c else c
  match s.toList with
  | [] => s
  | c :: cs => String.ofList (apply c :: (if everywhere then cs.map apply else cs))

/-- The replacement of a match: an unquoted ampersand stands for the match, and a backslash
before one or before a backslash protects it. -/
def replacementFor (matched : List Char) (afterBackslash : Bool) : List Mark → List Char
  | [] => if afterBackslash then ['\\'] else []
  | m :: rest =>
    if afterBackslash then
      if m.char = '&' ∨ m.char = '\\' then m.char :: replacementFor matched false rest
      else if m.isBare '\\' then '\\' :: replacementFor matched true rest
      else '\\' :: m.char :: replacementFor matched false rest
    else if m.isBare '&' then matched ++ replacementFor matched false rest
    else if m.isBare '\\' then replacementFor matched true rest
    else m.char :: replacementFor matched false rest

/-- Replaces all matches of a pattern from a place on. -/
def replaceAll (g : List Glob) (cs : List Char) (replacement : List Mark) : Nat → Nat → List Char
  | 0, start => cs.drop start
  | n + 1, start =>
    match Glob.first? g cs start with
    | none => cs.drop start
    | some (i, j) =>
      if j = i then
        match cs.drop start with
        | [] => []
        | c :: _ => c :: replaceAll g cs replacement n (start + 1)
      else
        (cs.drop start).take (i - start) ++ replacementFor ((cs.drop i).take (j - i)) false replacement ++
          (if j < cs.length then replaceAll g cs replacement n j else [])

/-- A text with matches of a pattern replaced. -/
def replaced (which : Matches) (g : List Glob) (replacement : List Mark) (s : String) : String :=
  let cs := s.toList
  let part (i j : Nat) : List Char :=
    cs.take i ++ replacementFor ((cs.drop i).take (j - i)) false replacement ++ cs.drop j
  match which with
  | .first =>
    match Glob.first? g cs 0 with
    | some (i, j) => if i = j then s else String.ofList (part i j)
    | none => s
  | .all => String.ofList (replaceAll g cs replacement (cs.length + 1) 0)
  | .atStart =>
    match Glob.atStart? g true cs with
    | some j => String.ofList (part 0 j)
    | none => s
  | .atEnd =>
    match Glob.atEnd? g true cs with
    | some i => String.ofList (part i cs.length)
    | none => s

/-- A text without a match at one of its ends. -/
def trimmed (atStart longest : Bool) (g : List Glob) (s : String) : String :=
  let cs := s.toList
  if atStart then
    match Glob.atStart? g longest cs with
    | some k => String.ofList (cs.drop k)
    | none => s
  else
    match Glob.atEnd? g longest cs with
    | some k => String.ofList (cs.take k)
    | none => s

def flagLetters (v : Variable) : String :=
  let kind := match v.value with
    | .list _ => "a"
    | .table _ => "A"
    | _ => ""
  kind ++ (if v.integer then "i" else "") ++ (if v.lower then "l" else "") ++
    (if v.refers then "n" else "") ++ (if v.readonly then "r" else "") ++
    (if v.upper then "u" else "") ++ (if v.exported then "x" else "")

/-- The value of a variable as a list of declarations shows it. -/
def shownValue (v : Value) : String :=
  match v with
  | .missing => ""
  | .text s => declared s
  | .list entries =>
    "(" ++ " ".intercalate (entries.map fun e => "[" ++ Nat.repr e.1 ++ "]=" ++ declared e.2) ++ ")"
  | .table entries =>
    "(" ++ String.join ((shownEntries entries).map fun e =>
      let key := if needsDollarQuotes e.1 then dollarQuoted e.1
        else if e.1.isEmpty || hasMeaning e.1 then doubleQuoted e.1 else e.1
      "[" ++ key ++ "]=" ++ declared e.2 ++ " ") ++ ")"

/-- The command that would declare a variable again. -/
def declaration (name : String) (v : Variable) : String :=
  let flags := flagLetters v
  let value := match v.value with
    | .missing => ""
    | w => "=" ++ shownValue w
  "declare -" ++ (if flags.isEmpty then "-" else flags) ++ " " ++ name ++ value

def transformText (letter : Char) (s : String) : String :=
  match letter with
  | 'Q' => reusable s
  | 'E' => (unescape .dollar s).text
  | 'U' => uppered s
  | 'u' => (match s.toList with
    | c :: cs => String.ofList (upperOf c :: cs)
    | [] => s)
  | 'L' => lowered s
  | _ => s

def sliceText (s : String) (offset : Int) (length : Option Int) : Except Int String :=
  let size : Int := s.length
  let start := if offset < 0 then offset + size else offset
  if start < 0 ∨ size < start then .ok ""
  else
    match length with
    | none => .ok (dropText start.toNat s)
    | some n =>
      let stop := if n < 0 then size + n else min size (start + n)
      if stop < start then (if n < 0 then .error n else .ok "")
      else .ok (takeText (stop - start).toNat (dropText start.toNat s))

/-- The shards of an operand in the place of a value: outside quotes its text falls apart
like an expansion. -/
def operandShards (m : Manner) (shards : List Shard) : List Shard :=
  shards.map fun s => match s with
    | .text t .literal => .text t (if m.doubled then .quoted else .expanded)
    | s => s

def expandOperation (x : Executor) (m : Manner) (source name : String) (subscript : Subscript)
    (operation : Operation) : Act (List Shard) := do
  let value (e : Expanded) : Act (List Shard) := e.shards m
  let one (s : String) : Act (List Shard) := value (.ofText (some s))
  let plainValue : Act Expanded := do
    let e ← expandedOf x name subscript
    if !e.isSet && e.shape == .one then refuseMissing (shownName name subscript source)
    return e
  match operation with
  | .invalid =>
    if ← Act.isBash then abandonWith (source ++ ": bad substitution")
    else exitWith "Bad substitution"
  | .value => value (← plainValue)
  | .length =>
    let e ← plainValue
    match e.shape with
    | .one => one (Nat.repr ((e.texts.headD "").length))
    | _ => one (Nat.repr e.texts.length)
  | .keys =>
    let joined := match subscript with
      | .all joined => joined
      | _ => false
    value (.ofList (← Act.valueOf name).keys joined)
  | .names joined =>
    let p ← Act.process
    let names := (p.bindings.filter fun e => e.1.startsWith name && e.2.value != .missing).map Prod.fst
    value (.ofList (names.mergeSort textLe) joined)
  | .fallback kind emptyToo operand =>
    let e ← expandedOf x name subscript
    let isThere := e.isSet && !(emptyToo && (e.texts.all String.isEmpty) &&
      (e.shape == .one || e.texts.length ≤ 1))
    let operandHere : Act (List Shard) := do
      let pieces ← if m.doubled then pure operand else tildeInWord operand
      return operandShards m (← x.pieces m pieces)
    match kind with
    | .use => if isThere then value e else operandHere
    | .replace => if isThere then operandHere else value { e with texts := if e.shape == .one then [""] else [] }
    | .assign =>
      if isThere then value e
      else
        let text ← textOfPieces x m.doubled operand
        if !isName name then
          abandonWith ("$" ++ name ++ ": cannot assign in this way")
        else
          let i ← match subscript with
            | .at pieces => some <$> indexOf x name pieces
            | _ => pure none
          if !(← Act.assignText name i text) then abandonWith (← Act.readonlyMessage name)
          one text
    | .complain =>
      if isThere then value e
      else
        let text ← textOfPieces x m.doubled operand
        let isBash ← Act.isBash
        let reason := if !text.isEmpty then text
          else if !isBash && emptyToo then "parameter not set or null"
          else if !isBash then "parameter not set"
          else if emptyToo then "parameter null or not set"
          else "parameter not set"
        exitWith (shownName name subscript source ++ ": " ++ reason)
  | .trim atStart longest pattern =>
    let e ← plainValue
    let g := Glob.ofMarks (← globStyle) (← marksOfPieces x pattern)
    value { e with texts := e.texts.map (trimmed atStart longest g) }
  | .replace which pattern replacement =>
    let e ← plainValue
    let ms ← marksOfPieces x pattern
    let new ← marksOfPieces x replacement
    if ms.isEmpty && (which == .first || which == .all) then value e
    else
      let g := Glob.ofMarks (← globStyle) ms
      value { e with texts := e.texts.map (replaced which g new) }
  | .recase casing everywhere pattern =>
    let e ← plainValue
    let ms ← marksOfPieces x pattern
    let style ← globStyle
    let g := if ms.isEmpty then [Glob.set .full] else Glob.ofMarks style ms
    value { e with texts := e.texts.map (recase casing everywhere g) }
  | .slice offset length =>
    let e ← plainValue
    let start ← calculateOrAbandon "" (← textOfPieces x true offset)
    let count ← length.mapM fun ps => do calculateOrAbandon "" (← textOfPieces x true ps)
    match e.shape with
    | .one =>
      match sliceText (e.texts.headD "") start count with
      | .ok s => value { e with texts := [s] }
      | .error n => abandonWith (Int.repr n ++ ": substring expression < 0")
    | _ =>
      if (count.getD 0) < 0 then abandonWith (Int.repr (count.getD 0) ++ ": substring expression < 0")
      else
        let numbered : List (Int × String) ← match name with
          | "@" | "*" => do
            let p ← Act.process
            let texts := p.name :: p.parameters
            pure ((List.range texts.length).map Int.ofNat |>.zip texts)
          | _ => do
            match ← Act.valueOf name with
            | .list entries => pure (entries.map fun e => (Int.ofNat e.1, e.2))
            | v => pure ((List.range v.texts.length).map Int.ofNat |>.zip v.texts)
        let size : Int := (numbered.getLast?.map fun e => e.1 + 1).getD 0
        let start := if start < 0 then start + size else start
        let isParameters := name == "@" || name == "*"
        let rest := if start < 0 then []
          else numbered.filter fun e => start ≤ e.1 && !(isParameters && start > 0 && e.1 == 0)
        let chosen := match count with
          | some n => rest.take n.toNat
          | none => rest
        value { e with texts := chosen.map Prod.snd }
  | .transform letter =>
    let e ← expandedOf x name subscript
    let target ← Act.resolve name
    let v := (← Act.knownVariable? target).getD {}
    match letter with
    | 'a' => value { e with texts := e.texts.map fun _ => flagLetters v }
    | 'A' =>
      if !e.isSet then value e
      else match v.value, e.shape with
      | .text s, .one =>
        let flags := flagLetters v
        one ((if flags.isEmpty then "" else "declare -" ++ flags ++ " ") ++ target ++ "=" ++ reusable s)
      | _, .one => one (declaration target v)
      | _, _ => one (declaration target v)
    | 'K' | 'k' =>
      match v.value with
      | .list entries =>
        value { e with texts := entries.flatMap fun p => [Nat.repr p.1, if letter = 'K' then declared p.2 else p.2] }
      | .table entries =>
        value { e with texts := (shownEntries entries).flatMap fun p => [p.1, if letter = 'K' then declared p.2 else p.2] }
      | _ => value { e with texts := e.texts.map reusable }
    | 'Q' | 'E' | 'U' | 'u' | 'L' | 'P' =>
      if !e.isSet then value { e with texts := if e.shape == .one then [""] else [] }
      else value { e with texts := e.texts.map (transformText letter) }
    | _ => abandonWith (source ++ ": bad substitution")

def expandParameter (x : Executor) (m : Manner) : Parameter → Act (List Shard)
  | .mk source indirect name subscript operation => do
    if !indirect then expandOperation x m source name subscript operation
    else
      let v ← Act.knownVariable? name
      match v with
      | some ⟨.text target, _, _, _, _, _, true⟩ => return [.text target (if m.doubled then .quoted else .expanded)]
      | _ =>
        let e ← expandedOf x name subscript
        let target := e.texts.headD ""
        if !e.isSet && e.shape == .one then
          match operation with
          | .fallback _ _ _ => expandOperation x m source name subscript operation
          | _ => abandonWith (name ++ ": invalid indirect expansion")
        else if !isReference target then abandonWith (target ++ ": invalid variable name")
        else
          let (inner, part) := referenceOf target
          expandOperation x m source inner part operation

/-! ## Pieces -/

/-- The path of the file whose content commands only repeat. -/
def onlyReads? : Command → Option Word
  | .sequence [.simple _ [] [] [.mk _ .usual .read w]] => some w
  | _ => none

/-- Expands pieces to fields that are one word each time. -/
def oneText (x : Executor) (pieces : List Piece) : Act String := do
  textOfPieces x false (← tildeInWord pieces)

def expandPiece (x : Executor) (m : Manner) (p : Piece) : Act (List Shard) := do
  let origin : Origin := if m.doubled then .quoted else .expanded
  match p with
  | .text s => return [.text s (if m.doubled then .quoted else .literal)]
  | .quoted s => return [.text s .quoted]
  | .doubled pieces =>
    let shards ← x.pieces { m with doubled := true } pieces
    if shards.isEmpty && !pieces.isEmpty then return []
    else return .text "" .quoted :: shards
  | .parameter p => expandParameter x m p
  | .output body =>
    match (← Act.isBash), onlyReads? body with
    | true, some w =>
      let path ← oneText x w.pieces
      match ← Act.openToRead path with
      | .error e =>
        Act.complain (path ++ ": " ++ e.reason)
        Act.update fun p => { p with status := 1, substituted := some 1 }
        return []
      | .ok i =>
        let text ← match (← Act.world).opened[i]? with
          | some f => pure ((← Act.restOf f).toOption.getD "")
          | none => pure ""
        Act.update fun p => { p with status := 0, substituted := some 0 }
        return [.text (withoutTrailingLines (String.ofList (text.toList.filter (· != '\x00')))) origin]
    | isBash, _ =>
      let shift : Act Unit := if isBash then
          Act.update fun p => { p with lineShift := (p.line : Int) - body.firstLine }
        else pure ()
      return [.text (← outputOf x (do shift; x.run body)) origin]
  | .backquoted source =>
    let line := (← Act.process).line
    return [.text (← outputOf x (x.text "command substitution" line source)) origin]
  | .arithmetic expression =>
    let text ← textOfPieces x true expression
    let value ← calculateOrAbandon "" text
    return [.text (Int.repr value) origin]
  | .process isTarget body =>
    let used := (← Act.process).streams.map Prod.fst
    let stream := ((List.range 54).map fun i => 63 - i).find? fun n => !used.contains n
    let stream := stream.getD 63
    let buffer ← Act.newBuffer {}
    let opened ← Act.register { target := .buffer buffer }
    if isTarget then
      Act.connect stream opened
      Act.update fun p => { p with helpers := (stream, some body) :: p.helpers }
    else
      let _ ← apart x do
        Act.connect 1 opened
        x.run body
      x.settle (.holding buffer)
      Act.connect stream opened
      Act.update fun p => { p with helpers := (stream, none) :: p.helpers }
    return [.text ("/dev/fd/" ++ Nat.repr stream) .quoted]
  | .elements _ _ => return []

def expandPieces (x : Executor) (m : Manner) (pieces : List Piece) : Act (List Shard) := do
  let mut shards : Array Shard := #[]
  for p in pieces do
    for s in ← expandPiece x m p do
      shards := shards.push s
  return shards.toList

/-! ## Words -/

/-- The file names that a field stands for, or its text. -/
def namesOf (field : List Mark) : Act (List String) := do
  if ← Act.hasOption "noglob" then return [Mark.text field]
  else
    let isBash ← Act.isBash
    let style : NameStyle :=
      { glob := { groups := isBash && (← Act.hasSwitch "extglob"),
                  ignoreCase := isBash && (← Act.hasSwitch "nocaseglob") }
        hidden := isBash && (← Act.hasSwitch "dotglob")
        deep := isBash && (← Act.hasSwitch "globstar")
        dots := !isBash }
    if !Glob.isPattern style.glob.groups field then return [Mark.text field]
    else
      match matchingPaths (← Act.files) style field with
      | [] =>
        if ← Act.hasSwitch "failglob" then abandonWith ("no match: " ++ Mark.text field)
        else if ← Act.hasSwitch "nullglob" then return []
        else return [Mark.text field]
      | paths => return paths

def fieldsOfPieces (x : Executor) (pieces : List Piece) : Act (List String) := do
  match pieces with
  | [.text s] =>
    if !s.startsWith "~" && s.toList.all (fun c => !"*?[\\(".toList.contains c) then return [s]
    else
      let shards ← expandPieces x {} (← tildeInWord pieces)
      return (← (fieldsOf (← separators) shards).mapM namesOf).flatten
  | _ =>
    let shards ← expandPieces x {} (← tildeInWord pieces)
    return (← (fieldsOf (← separators) shards).mapM namesOf).flatten

def fieldsOfWord (x : Executor) (w : Word) : Act (List String) := do
  let words := if (← Act.isBash) && (← Act.hasOption "braceexpand") then withoutBraces w.pieces else [w.pieces]
  return (← words.mapM (fieldsOfPieces x)).flatten

def fieldsOfWords (x : Executor) (ws : List Word) : Act (List String) := do
  return (← ws.mapM (fieldsOfWord x)).flatten

/-- A word as one text that does not fall apart. -/
def textOfWord (x : Executor) (w : Word) : Act String := do
  return Shard.plain (← expandPieces x { splits := false } (← tildeInWord w.pieces))

def marksOfWord (x : Executor) (w : Word) : Act (List Mark) := do
  return Shard.marks (← expandPieces x { splits := false } (← tildeInWord w.pieces))

def textOfValue (x : Executor) (w : Word) : Act String := do
  return Shard.plain (← expandPieces x { splits := false } (← tildesInValue w.pieces))

end SpeechConfig.Shell
