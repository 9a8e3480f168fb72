/-
# Words

A word is read into its pieces: plain and quoted text, and the expansions that stand for
something else.  What an expansion holds is read by the reader of the next depth, which is
handed in as `Inner`.
-/
import SpeechConfig.Shell.Escape
import SpeechConfig.Shell.Syntax.Source

namespace SpeechConfig.Shell

/-- How far pieces are read, and what counts as a quote on the way. -/
structure Scan where
  /-- Whether the pieces end before a text. -/
  stops : List Char → Bool
  /-- Whether everything is quoted already. -/
  doubled : Bool := false
  /-- Whether single quotes are quotes. -/
  singles : Bool := true
  /-- Whether double quotes are quotes. -/
  doubles : Bool := true
  /-- The characters that a backslash quotes where everything is quoted already. -/
  escaped : List Char := ['$', '\x60', '"', '\\']
  /-- Whether a process may stand in for a file. -/
  processes : Bool := false

/-- The readers of the next depth. -/
structure Inner where
  commands : Read Command
  pieces : Scan → Read (List Piece)

/-- Whether a text begins with one of some characters. -/
def startsWithAny (stops : List Char) (cs : List Char) : Bool :=
  cs.head?.any stops.contains

/-- A word up to a blank or an operator. -/
def Scan.word (isBash : Bool) : Scan where
  stops := fun cs => match cs with
    | c :: d :: _ => endsWord c && !(isBash && (c == '<' || c == '>') && d == '(')
    | [c] => endsWord c
    | [] => true
  processes := isBash

def Scan.inQuotes : Scan where
  stops := startsWithAny ['"']
  doubled := true
  singles := false
  doubles := false

/-- The whole of a text in which quotes are no quotes. -/
def Scan.document : Scan where
  stops := fun _ => false
  doubled := true
  singles := false
  doubles := false
  escaped := ['$', '\x60', '\\']

def Scan.expression : Scan where
  stops := fun _ => false
  doubled := true
  singles := false
  doubles := true

def Scan.whole : Scan where
  stops := fun _ => false

/-- What stands behind an operator in braces, up to one of some characters. -/
def Scan.operand (doubled isPattern : Bool) (stops : List Char) : Scan where
  stops := startsWithAny stops
  doubled := doubled
  singles := !doubled || isPattern
  doubles := true
  escaped := ['$', '\x60', '"', '\\', '\x7d']

namespace Read

/-- Runs a reader on a text of its own. -/
def within {α : Type} (text : List Char) (read : Read α) : Read α := do
  let s ← get
  set { s with rest := text, position := 0, hidden := 0 }
  let x ← read
  let inside ← get
  set { s with openDocuments := inside.openDocuments }
  return x

/-- Takes characters up to a closer that no backslash stands before, and the closer. -/
def takeThrough (closer : Char) : Read (List Char) := do
  let start ← line
  let (taken, closed) ← repeatWhile (([], false) : List Char × Bool) fun (taken, _) => do
    match ← next with
    | none => return ((taken, false), false)
    | some c =>
      if c = closer then return ((taken, true), false)
      else if c = '\\' then
        match ← next with
        | none => return ((c :: taken, false), false)
        | some d => return ((d :: c :: taken, false), true)
      else return ((c :: taken, false), true)
  if closed then return taken.reverse
  else throw (.unclosed (String.singleton closer) start)

end Read

/-- The inside of an arithmetic expansion whose two parentheses are open, and what is
behind the two that close it; none if only one closes. -/
def arithmeticInside (depth : Nat) (taken : List Char) :
    List Char → Option (List Char × List Char)
  | [] => none
  | '\\' :: c :: cs => arithmeticInside depth (c :: '\\' :: taken) cs
  | c :: cs =>
    if c = '(' then arithmeticInside (depth + 1) (c :: taken) cs
    else if c = ')' then
      match depth with
      | d + 1 => arithmeticInside d (c :: taken) cs
      | 0 =>
        match cs with
        | ')' :: rest => some (taken.reverse, rest)
        | _ => none
    else arithmeticInside depth (c :: taken) cs

/-- Whether a text ends before the parentheses in it that are open are closed. -/
def unmatchedParenthesis (depth : Nat) : List Char → Bool
  | [] => true
  | '\\' :: _ :: cs => unmatchedParenthesis depth cs
  | c :: cs =>
    if c = '(' then unmatchedParenthesis (depth + 1) cs
    else if c = ')' then
      match depth with
      | d + 1 => unmatchedParenthesis d cs
      | 0 => false
    else unmatchedParenthesis depth cs

/-- The inside of a bracket that is open, and what is behind the one that closes it. -/
def bracketInside (depth : Nat) (quote : Option Char) (taken : List Char) :
    List Char → Option (List Char × List Char)
  | [] => none
  | '\\' :: c :: cs => bracketInside depth quote (c :: '\\' :: taken) cs
  | c :: cs =>
    match quote with
    | some q => bracketInside depth (if c = q then none else quote) (c :: taken) cs
    | none =>
      if c = '\'' ∨ c = '"' then bracketInside depth (some c) (c :: taken) cs
      else if c = '[' then bracketInside (depth + 1) none (c :: taken) cs
      else if c = ']' then
        match depth with
        | 0 => some (taken.reverse, cs)
        | d + 1 => bracketInside d none (c :: taken) cs
      else bracketInside depth none (c :: taken) cs

/-- Adds pieces behind others, given last one first; texts next to each other become one. -/
def pushPieces (acc : List Piece) (more : List Piece) : List Piece :=
  more.foldl (fun acc p =>
    match p, acc with
    | .text s, .text t :: before => .text (t ++ s) :: before
    | .quoted s, .quoted t :: before => .quoted (t ++ s) :: before
    | p, acc => p :: acc) acc

/-- Reads pieces up to the end of a scan, step by step. -/
def collectPieces (step : Read (Option (List Piece))) : Read (List Piece) := do
  let pieces ← Read.repeatWhile ([] : List Piece) fun acc => do
    match ← step with
    | none => return (acc, false)
    | some more => return (pushPieces acc more, true)
  return pieces.reverse

/-! ## Parameters -/

/-- A character that is a parameter of its own. -/
def isSpecialParameter (c : Char) : Bool :=
  "@*#?-$!".toList.contains c || isDigit c

/-- Takes the name of a variable or a parameter, digits as far as they go. -/
def takeParameterName : Read String := do
  match ← Read.peek with
  | none => return ""
  | some c =>
    if isDigit c then return String.ofList (← Read.takeWhile isDigit)
    else if startsName c then return String.ofList (← Read.takeWhile isNameChar)
    else if isSpecialParameter c then
      let _ ← Read.next
      return String.singleton c
    else return ""

/-- Reads a subscript, if one stands behind a name. -/
def takeSubscript (inner : Inner) (name : String) : Read Subscript := do
  if !isName name || (← Read.peek) ≠ some '[' || !(← Read.isBash) then return .absent
  else
    match bracketInside 0 none [] ((← Read.rest).drop 1) with
    | none => return .absent
    | some (inside, _) =>
      Read.advance (inside.length + 2)
      match inside with
      | ['@'] => return .all false
      | ['*'] => return .all true
      | _ => return .at (← Read.within inside (inner.pieces .whole))

def operandOf (inner : Inner) (doubled isPattern : Bool) : Read (List Piece) :=
  inner.pieces (.operand doubled isPattern ['\x7d'])

/-- Reads an operator behind a name in braces, with its operand. -/
def takeOperation (inner : Inner) (doubled : Bool) : Read Operation := do
  let pattern := operandOf inner doubled true
  let fallback (kind : Fallback) (emptyToo : Bool) : Read Operation := do
    Read.advance (if emptyToo then 2 else 1)
    return .fallback kind emptyToo (← operandOf inner doubled false)
  let isBash ← Read.isBash
  match ← Read.rest with
  | '\x7d' :: _ => return .value
  | ':' :: '-' :: _ => fallback .use true
  | ':' :: '=' :: _ => fallback .assign true
  | ':' :: '?' :: _ => fallback .complain true
  | ':' :: '+' :: _ => fallback .replace true
  | '-' :: _ => fallback .use false
  | '=' :: _ => fallback .assign false
  | '?' :: _ => fallback .complain false
  | '+' :: _ => fallback .replace false
  | '#' :: '#' :: _ => do Read.advance 2; return .trim true true (← pattern)
  | '#' :: _ => do Read.advance 1; return .trim true false (← pattern)
  | '%' :: '%' :: _ => do Read.advance 2; return .trim false true (← pattern)
  | '%' :: _ => do Read.advance 1; return .trim false false (← pattern)
  | c :: rest =>
    if !isBash then return .invalid
    else if c = '/' then
      let (which, size) : Matches × Nat := match rest with
        | '/' :: _ => (.all, 2)
        | '#' :: _ => (.atStart, 2)
        | '%' :: _ => (.atEnd, 2)
        | _ => (.first, 1)
      Read.advance size
      let first := if (← Read.peek) = some '/' then
          do Read.advance 1; return .text "/" :: (← inner.pieces (.operand doubled true ['/', '\x7d']))
        else inner.pieces (.operand doubled true ['/', '\x7d'])
      let p ← first
      if ← Read.taken "/" then return .replace which p (← operandOf inner doubled true)
      else return .replace which p []
    else if c = '^' ∨ c = ',' ∨ c = '~' then
      let casing : Recasing := if c = '^' then .upper else if c = ',' then .lower else .toggled
      let everywhere := rest.head? == some c
      Read.advance (if everywhere then 2 else 1)
      return .recase casing everywhere (← pattern)
    else if c = '@' then
      match rest with
      | letter :: '\x7d' :: _ => do Read.advance 2; return .transform letter
      | _ => return .invalid
    else if c = ':' then
      Read.advance 1
      let offset ← inner.pieces (.operand doubled false [':', '\x7d'])
      if ← Read.taken ":" then return .slice offset (some (← operandOf inner doubled false))
      else return .slice offset none
    else return .invalid
  | [] => return .invalid

/-- Reads what stands between braces behind a dollar sign, up to the closing one. -/
def takeBraced (inner : Inner) (doubled : Bool) : Read (Bool × String × Subscript × Operation) := do
  let plain (name : String) : Read (Bool × String × Subscript × Operation) := do
    let subscript ← takeSubscript inner name
    if name.isEmpty then return (false, name, .absent, .invalid)
    else return (false, name, subscript, ← takeOperation inner doubled)
  match ← Read.rest with
  | '#' :: '\x7d' :: _ => do Read.advance 1; return (false, "#", .absent, .value)
  | '#' :: _ =>
    let before ← get
    Read.advance 1
    let name ← takeParameterName
    let subscript ← takeSubscript inner name
    if !name.isEmpty && (← Read.peek) = some '\x7d' then return (false, name, subscript, .length)
    else
      set before
      Read.advance 1
      plain "#"
  | '!' :: '\x7d' :: _ => do Read.advance 1; return (false, "!", .absent, .value)
  | '!' :: c :: _ =>
    if !(← Read.isBash) || !(isNameChar c || isSpecialParameter c) then
      Read.advance 1
      plain "!"
    else
      Read.advance 1
      let name ← takeParameterName
      match ← Read.rest with
      | '*' :: '\x7d' :: _ => do Read.advance 1; return (false, name, .absent, .names true)
      | '@' :: '\x7d' :: _ => do Read.advance 1; return (false, name, .absent, .names false)
      | _ =>
        let subscript ← takeSubscript inner name
        match subscript, ← Read.peek with
        | .all joined, some '\x7d' => return (false, name, .all joined, .keys)
        | _, _ => return (true, name, subscript, ← takeOperation inner doubled)
  | _ => plain (← takeParameterName)

def takeParameter (inner : Inner) (doubled : Bool) : Read Piece := do
  let start ← Read.line
  let ((indirect, name, subscript, operation), source) ← Read.withText (takeBraced inner doubled)
  if ← Read.taken "\x7d" then
    return .parameter (.mk ("$\x7b" ++ source ++ "\x7d") indirect name subscript operation)
  else
    let (_, more) ← Read.withText (inner.pieces (.operand doubled false ['\x7d']))
    if ← Read.taken "\x7d" then
      return .parameter (.mk ("$\x7b" ++ source ++ more ++ "\x7d") false name .absent .invalid)
    else throw (.unclosed "\x7d" start)

/-! ## Expansions -/

/-- Reads commands in parentheses whose opening one was taken. -/
def takeCommands (inner : Inner) : Read Command := do
  let body ← inner.commands
  Read.skipLines
  if ← Read.taken ")" then return body
  else if (← Read.peek).isNone && (← Read.isBash) then throw (.unclosed ")" (← Read.endLine))
  else refuse (some ")")

/-- Reads an arithmetic expansion or, where only one parenthesis closes, commands. -/
def takeParenthesized (inner : Inner) : Read Piece := do
  match ← Read.rest with
  | '(' :: rest =>
    match arithmeticInside 0 [] rest with
    | some (inside, _) =>
      let expression ← Read.within inside (inner.pieces .expression)
      Read.advance (inside.length + 3)
      return .arithmetic expression
    | none =>
      if (unmatchedParenthesis 0 rest) then
        throw (.unclosed (if ← Read.isBash then ")" else "))") (← Read.line))
      else return .output (← takeCommands inner)
  | _ => return .output (← takeCommands inner)

/-- The text between backticks without the backslashes that only protect it. -/
def backquotedText (doubled : Bool) : List Char → List Char
  | '\\' :: c :: cs =>
    if c = '$' ∨ c = '\x60' ∨ c = '\\' ∨ (doubled ∧ c = '"') then c :: backquotedText doubled cs
    else '\\' :: c :: backquotedText doubled cs
  | c :: cs => c :: backquotedText doubled cs
  | [] => []

/-- Reads what a dollar sign stands for, once it is taken; alone it is text. -/
def takeDollar (inner : Inner) (doubled : Bool) : Read Piece := do
  let isBash ← Read.isBash
  match ← Read.rest with
  | '(' :: _ => do Read.advance 1; takeParenthesized inner
  | '\x7b' :: _ => do Read.advance 1; takeParameter inner doubled
  | '\'' :: _ =>
    if doubled || !isBash then return .text "$"
    else
      Read.advance 1
      let source ← Read.takeThrough '\''
      return .quoted (unescape .dollar (String.ofList source)).text
  | '"' :: _ =>
    if doubled || !isBash then return .text "$"
    else
      let start ← Read.line
      Read.advance 1
      let pieces ← inner.pieces .inQuotes
      if ← Read.taken "\"" then return .doubled pieces else throw (.unclosed "\"" start)
  | '[' :: rest =>
    match isBash, bracketInside 0 none [] rest with
    | true, some (inside, _) =>
      let expression ← Read.within inside (inner.pieces .expression)
      Read.advance (inside.length + 2)
      return .arithmetic expression
    | _, _ => return .text "$"
  | c :: _ =>
    if isSpecialParameter c then
      Read.advance 1
      return .parameter (.mk (String.ofList ['$', c]) false (String.singleton c) .absent .value)
    else if startsName c then
      let name := String.ofList (← Read.takeWhile isNameChar)
      return .parameter (.mk ("$" ++ name) false name .absent .value)
    else return .text "$"
  | [] => return .text "$"

def groupAhead : Read Bool := do
  match ← Read.rest with
  | c :: '(' :: _ => return (← get).groups && "?*+@!".toList.contains c
  | _ => return false

/-- Reads the next pieces of a scan, if it has not ended. -/
def nextPieces (inner : Inner) (scan : Scan) : Read (Option (List Piece)) := do
  let rest ← Read.rest
  match rest with
  | [] => return none
  | c :: more =>
    if !scan.doubled && (← groupAhead) then
      Read.advance 2
      let pieces ← inner.pieces { scan with stops := startsWithAny [')'] }
      if ← Read.taken ")" then
        return some ([.text (String.ofList [c, '('])] ++ pieces ++ [.text ")"])
      else return some (.text (String.ofList [c, '(']) :: pieces)
    else if scan.stops rest then return none
    else
      Read.advance 1
      if c = '\\' then
        match more with
        | [] => return some [.quoted "\\"]
        | '\n' :: _ => do Read.advance 1; return some []
        | d :: _ =>
          if !scan.doubled then
            Read.advance 1
            return some [.quoted (String.singleton d)]
          else if scan.escaped.contains d then
            Read.advance 1
            return some [.quoted (String.singleton d)]
          else return some [.text "\\"]
      else if c = '\'' && scan.singles then
        let start ← Read.line
        let text ← Read.takeWhile (· != '\'')
        if ← Read.taken "'" then return some [.quoted (String.ofList text)]
        else throw (.unclosed "'" start)
      else if c = '"' && scan.doubles then
        let start ← Read.line
        let pieces ← inner.pieces .inQuotes
        if ← Read.taken "\"" then return some [.doubled pieces] else throw (.unclosed "\"" start)
      else if c = '$' then return some [← takeDollar inner (scan.doubled)]
      else if c = '\x60' then
        let line ← Read.line
        let source ← Read.takeThrough '\x60'
        let text := backquotedText scan.doubled source
        if ← Read.isBash then return some [.backquoted (String.ofList text)]
        else
          let after ← get
          set { after with line := line }
          let body ← Read.within text do
            let body ← inner.commands
            Read.skipLines
            if (← Read.peek).isSome then refuse else return body
          modify fun s => { s with line := after.line }
          return some [.output body]
      else if scan.processes && (c = '<' || c = '>') && more.head? = some '(' then
        Read.advance 1
        return some [.process (c == '>') (← takeCommands inner)]
      else
        return some [.text (String.singleton c)]

def takePieces (inner : Inner) (scan : Scan) : Read (List Piece) :=
  collectPieces (nextPieces inner scan)

def takeWord (inner : Inner) : Read Word := do
  let (pieces, source) ← Read.withText (takePieces inner (.word (← Read.isBash)))
  return .mk source pieces

def wordAhead : Read Bool := do
  match ← Read.rest with
  | [] => return false
  | c :: more =>
    return !endsWord c || ((← Read.isBash) && (c == '<' || c == '>') && more.head? == some '(')

/-- Reads a word, or refuses what stands in its place. -/
def expectWord (inner : Inner) : Read Word := do
  Read.skipBlanks
  if ← wordAhead then takeWord inner else refuse

/-! ## Assignments -/

/-- What stands before the value of an assignment: the name, the text of the subscript,
whether the value is to be added, and how many characters it all takes. -/
structure AssignmentHead where
  name : String
  subscript : Option (List Char)
  extend : Bool
  size : Nat

/-- The head of the assignment that a text begins with. -/
def assignmentHead? (isBash : Bool) (cs : List Char) : Option AssignmentHead :=
  let name := cs.takeWhile isNameChar
  if !(name.head?.any startsName) then none
  else
    let finish (subscript : Option (List Char)) (size : Nat) (rest : List Char) :
        Option AssignmentHead :=
      match rest with
      | '=' :: _ => some ⟨String.ofList name, subscript, false, size + 1⟩
      | '+' :: '=' :: _ =>
        if isBash then some ⟨String.ofList name, subscript, true, size + 2⟩ else none
      | _ => none
    match cs.drop name.length with
    | '[' :: rest =>
      if !isBash then none
      else match bracketInside 0 none [] rest with
        | some (inside, after) => finish (some inside) (name.length + inside.length + 2) after
        | none => none
    | rest => finish none name.length rest

/-- Reads the elements of a list, up to the parenthesis that closes it. -/
def takeElements (inner : Inner) : Read (List Element) := do
  let start ← Read.line
  let elements ← Read.repeatWhile ([] : List Element) fun acc => do
    Read.skipLines
    if (← Read.peek) = some '[' then
      match bracketInside 0 none [] ((← Read.rest).drop 1) with
      | some (inside, '=' :: _) =>
        let index ← Read.within inside (inner.pieces .whole)
        Read.advance (inside.length + 3)
        return (.mk (some index) false (← takeWord inner) :: acc, true)
      | some (inside, '+' :: '=' :: _) =>
        let index ← Read.within inside (inner.pieces .whole)
        Read.advance (inside.length + 4)
        return (.mk (some index) true (← takeWord inner) :: acc, true)
      | _ => return (.mk none false (← takeWord inner) :: acc, true)
    else if ← wordAhead then return (.mk none false (← takeWord inner) :: acc, true)
    else return (acc, false)
  if ← Read.taken ")" then return elements.reverse
  else if (← Read.peek).isNone then throw (.unclosed ")" start)
  else refuse

/-- Reads an assignment, if one begins here. -/
def takeAssignment (inner : Inner) : Read (Option Assignment) := do
  let isBash ← Read.isBash
  match assignmentHead? isBash (← Read.rest) with
  | none => return none
  | some head =>
    let (assigned, source) ← Read.withText do
      Read.advance head.size
      if isBash && head.subscript.isNone && (← Read.taken "(") then
        return Assigned.many (← takeElements inner)
      else return Assigned.one (← takeWord inner)
    let subscript ← head.subscript.mapM fun cs => Read.within cs (inner.pieces .whole)
    return some (.mk source head.name subscript head.extend assigned)

/-- Reads an argument of a command that declares variables: a word, or an assignment of a
list. -/
def takeDeclaration (inner : Inner) : Read Word := do
  match assignmentHead? (← Read.isBash) (← Read.rest) with
  | none => takeWord inner
  | some head =>
    if head.subscript.isSome || ((← Read.rest).drop head.size).head? ≠ some '(' then takeWord inner
    else
      let (elements, source) ← Read.withText do
        Read.advance (head.size + 1)
        takeElements inner
      return .mk source [.text head.name, .elements head.extend elements]

/-! ## Redirections -/

/-- The characters up to the end of the line outside quotes, and what is behind the end if
there is one. -/
def splitAtLineEnd (quote : Option Char) (taken : List Char) :
    List Char → List Char × Option (List Char)
  | [] => (taken.reverse, none)
  | '\\' :: c :: cs =>
    if quote = some '\'' then
      splitAtLineEnd (if c = '\'' then none else quote) (c :: '\\' :: taken) cs
    else splitAtLineEnd quote (c :: '\\' :: taken) cs
  | c :: cs =>
    match quote with
    | some q => splitAtLineEnd (if c = q then none else quote) (c :: taken) cs
    | none =>
      if c = '\n' then (taken.reverse, some cs)
      else if c = '\'' ∨ c = '"' then splitAtLineEnd (some c) (c :: taken) cs
      else splitAtLineEnd none (c :: taken) cs

/-- The lines of a document up to the one that ends it: the document, how many lines were
taken, whether it was ended, and what is behind it. -/
def takeDocument (steps : Nat) (dropTabs : Bool) (delimiter : List Char) (taken : List Char)
    (count : Nat) (cs : List Char) : List Char × Nat × Bool × List Char :=
  match steps with
  | 0 => (taken.reverse, count, false, cs)
  | n + 1 =>
    if cs.isEmpty then (taken.reverse, count, false, [])
    else
      let whole := cs.takeWhile (· != '\n')
      let rest := cs.drop whole.length
      let line := if dropTabs then whole.dropWhile (· == '\t') else whole
      if line = delimiter then (taken.reverse, count + 1, true, rest.drop 1)
      else
        let ended := line ++ (if rest.isEmpty then [] else ['\n'])
        takeDocument n dropTabs delimiter (ended.reverse ++ taken) (count + 1) (rest.drop 1)

/-- A delimiter without its quotes, and whether it has any. -/
def unquotedDelimiter : List Char → List Char × Bool
  | [] => ([], false)
  | '\\' :: c :: cs => (c :: (unquotedDelimiter cs).1, true)
  | c :: cs =>
    let (rest, quoted) := unquotedDelimiter cs
    if c = '\'' ∨ c = '"' then (rest, true) else (c :: rest, quoted)

/-- Reads the document that two angle brackets announce.  It is taken out of the script
behind the end of the line. -/
def takeHereDocument (inner : Inner) (dropTabs : Bool) : Read Word := do
  Read.skipBlanks
  if !(← wordAhead) then refuse
  else
    let start ← Read.line
    let raw := roughWord ((← Read.rest).length) (← Read.rest)
    Read.advance raw.length
    let (delimiter, quoted) := unquotedDelimiter raw
    let s ← get
    let (before, behind) := splitAtLineEnd none [] s.rest
    let (body, count, ended, after) :=
      takeDocument (s.rest.length + 1) dropTabs delimiter [] 0 (behind.getD [])
    let unended : List OpenDocument := if ended then []
      else [⟨start, start + count, String.ofList delimiter⟩]
    set { s with
      rest := before ++ (if behind.isSome then '\n' :: after else [])
      hidden := s.hidden + count
      openDocuments := s.openDocuments ++ unended }
    let text := String.ofList body
    if quoted then return .mk text [.quoted text]
    else return .mk text [.doubled (← Read.within body (inner.pieces .document))]

/-- The operators of redirections, longer ones first, with what they do. -/
def directions : List (String × Direction) :=
  [("<<<", .line), ("&>>", .appendBoth), ("<<-", .document), ("<<", .document), (">>", .append),
    ("<&", .duplicateInput), (">&", .duplicateOutput), ("<>", .readWrite), (">|", .overwrite),
    ("&>", .writeBoth), ("<", .read), (">", .write)]

/-- The redirection operator that a text begins with. -/
def directionAhead? (isBash : Bool) (cs : List Char) : Option (String × Direction) :=
  match cs with
  | '<' :: '(' :: _ => if isBash then none else some ("<", .read)
  | '>' :: '(' :: _ => if isBash then none else some (">", .write)
  | _ => directions.find? fun d =>
    d.1.toList.isPrefixOf cs &&
      (isBash || !(d.2 == .line || d.2 == .appendBoth || d.2 == .writeBoth))

/-- The stream and the operator of the redirection that a text begins with, and how many
characters they take. -/
def redirectAhead? (isBash : Bool) (cs : List Char) : Option (StreamName × String × Direction × Nat) :=
  let digits := cs.takeWhile isDigit
  match digits, cs with
  | [], '\x7b' :: rest =>
    let name := rest.takeWhile isNameChar
    match rest.drop name.length with
    | '\x7d' :: behind =>
      if isBash && name.head?.any startsName then
        (directionAhead? isBash behind).map fun d =>
          (.heldBy (String.ofList name), d.1, d.2, name.length + 2 + d.1.length)
      else none
    | _ => none
  | [], _ => (directionAhead? isBash cs).map fun d => (.usual, d.1, d.2, d.1.length)
  | _, _ =>
    match directionAhead? isBash (cs.drop digits.length) with
    | some (op, d) =>
      if op.startsWith "&" then none
      else some (.number ((numberIn? 10 digits).getD 0), op, d, digits.length + op.length)
    | none => none

/-- Reads a redirection, if one begins here. -/
def takeRedirect (inner : Inner) : Read (Option Redirect) := do
  match redirectAhead? (← Read.isBash) (← Read.rest) with
  | none => return none
  | some (stream, op, direction, size) =>
    let line ← Read.line
    Read.advance size
    if direction = .document then
      return some (.mk line stream direction (← takeHereDocument inner (op == "<<-")))
    else return some (.mk line stream direction (← expectWord inner))

end SpeechConfig.Shell
