/-
# The grammar of commands

Lists of pipelines, simple commands, and the commands built from others.  A reader goes
down one depth with every list that stands inside something.
-/
import SpeechConfig.Shell.Syntax.Word

namespace SpeechConfig.Shell

/-- Commands that declare variables; their arguments may assign lists. -/
def declaringCommands : List String :=
  ["declare", "typeset", "local", "export", "readonly"]

/-- Whether a word does nothing but quote: it has no expansions. -/
def Word.isLiteral (w : Word) : Bool :=
  w.pieces.all fun p => match p with
    | .text _ | .quoted _ => true
    | _ => false

/-! ## Simple commands -/

/-- The parts of a simple command, last ones first. -/
structure SimpleDraft where
  assignments : List Assignment := []
  words : List Word := []
  redirects : List Redirect := []

/-- Whether nothing of a simple command was read. -/
def SimpleDraft.isEmpty (d : SimpleDraft) : Bool :=
  d.assignments.isEmpty && d.words.isEmpty && d.redirects.isEmpty

/-- Puts the text of an alias in the place of its name, if the next word is one.  An alias
is not put in its own text. -/
def expandAlias : Read Bool := do
  let s ← get
  if s.aliases.isEmpty then return false
  else
    let raw := roughWord s.rest.length s.rest
    let name := String.ofList raw
    match s.aliases.lookup name with
    | some text =>
      if s.spent.contains name then return false
      else
        set { s with rest := text.toList ++ s.rest.drop raw.length, spent := name :: s.spent }
        return true
    | none => return false

def takeSimple (inner : Inner) (draft : SimpleDraft) : Read SimpleDraft :=
  Read.repeatWhile draft fun d => do
    Read.skipBlanks
    match ← takeRedirect inner with
    | some r => return ({ d with redirects := r :: d.redirects }, true)
    | none =>
      if !(← wordAhead) then return (d, false)
      else if d.words.isEmpty then
        match ← takeAssignment inner with
        | some a => return ({ d with assignments := a :: d.assignments }, true)
        | none =>
          if ← expandAlias then
            Read.skipBlanks
            match ← takeAssignment inner with
            | some a => return ({ d with assignments := a :: d.assignments }, true)
            | none =>
              if ← wordAhead then return ({ d with words := [← takeWord inner] }, true)
              else return (d, true)
          else return ({ d with words := [← takeWord inner] }, true)
      else
        let declares := (d.words.getLast?.bind Word.plain?).any declaringCommands.contains
        let w ← if declares && (← Read.isBash) then takeDeclaration inner else takeWord inner
        return ({ d with words := w :: d.words }, true)

def SimpleDraft.command (d : SimpleDraft) (line : Nat) : Command :=
  .simple line d.assignments.reverse d.words.reverse d.redirects.reverse

def takeRedirects (inner : Inner) : Read (List Redirect) := do
  let list ← Read.repeatWhile ([] : List Redirect) fun acc => do
    Read.skipBlanks
    match ← takeRedirect inner with
    | some r => return (r :: acc, true)
    | none => return (acc, false)
  return list.reverse

def withRedirects (inner : Inner) (line : Nat) (c : Command) : Read Command := do
  let redirects ← takeRedirects inner
  if redirects.isEmpty then return c else return .redirected line c redirects

/-! ## Conditions in double brackets -/

def unaryTests : List String :=
  ["-a", "-b", "-c", "-d", "-e", "-f", "-g", "-h", "-k", "-n", "-o", "-p", "-r", "-s", "-t", "-u",
    "-v", "-w", "-x", "-z", "-G", "-L", "-N", "-O", "-R", "-S"]

def binaryTests : List String :=
  ["==", "!=", "=~", "=", "<", ">", "-eq", "-ne", "-lt", "-le", "-gt", "-ge", "-nt", "-ot", "-ef"]

/-- Takes blanks and ends of lines inside double brackets. -/
def skipInCondition : Read Unit := Read.skipLines

/-- The text of what comes next in a condition, for a report. -/
def conditionToken : Read String := do
  match ← found with
  | .newline | .nothing => return "newline"
  | .operator op => return op
  | .word w => return w

/-- Refuses a condition that begins on a line; `former` is the word before what is wrong. -/
def refuseCondition {α : Type} (line : Nat) (former : String) (message : Option String) : Read α := do
  let near := match ← found with
    | .newline | .nothing => former
    | .operator op => takeText 1 op
    | .word w => w
  throw (.condition message line near (← Read.peek).isNone)

/-- Whether a word stands next in a condition, and not the brackets that close it. -/
def conditionWordAhead : Read Bool := do
  if !(← wordAhead) then return false
  else
    let rest ← Read.rest
    return String.ofList (rest.takeWhile fun c => !endsWord c) != "]]"

/-- Reads a regular expression: blanks end it only outside parentheses. -/
def takeExpressionWord (inner : Inner) : Read Word := do
  let stops (depth : Nat) (cs : List Char) : Bool :=
    match cs with
    | c :: _ => if depth = 0 then isSpace c || c == ')' else false
    | [] => true
  let ((pieces, _), source) ← Read.withText do
    Read.repeatWhile (([], 0) : List Piece × Nat) fun (acc, depth) => do
      let rest ← Read.rest
      match rest with
      | [] => return ((acc, depth), false)
      | c :: _ =>
        if stops depth rest then return ((acc, depth), false)
        else if c = '(' then
          Read.advance 1
          return ((pushPieces acc [.text "("], depth + 1), true)
        else if c = ')' then
          Read.advance 1
          return ((pushPieces acc [.text ")"], depth - 1), true)
        else if c = '[' then
          match bracketInside 0 none [] (rest.drop 1) with
          | some (inside, _) =>
            if inside.any fun d => d == '$' || d == '\x60' || d == '"' || d == '\'' || d == '\\' then
              Read.advance 1
              return ((pushPieces acc [.text "["], depth), true)
            else
              Read.advance (inside.length + 2)
              return ((pushPieces acc [.text ("[" ++ String.ofList inside ++ "]")], depth), true)
          | none =>
            Read.advance 1
            return ((pushPieces acc [.text "["], depth), true)
        else
          match ← nextPieces inner { stops := fun _ => false } with
          | some more => return ((pushPieces acc more, depth), true)
          | none => return ((acc, depth), false)
  return .mk source pieces.reverse

/-- Reads one test of a condition that begins on a line. -/
def takeTest (inner : Inner) (line : Nat) : Read Condition := do
  skipInCondition
  let single ← do
    let rest ← Read.rest
    pure (String.ofList (rest.takeWhile fun c => !endsWord c))
  if unaryTests.contains single then
    let operator ← takeWord inner
    Read.skipBlanks
    if ← conditionWordAhead then return .unary operator.source (← takeWord inner)
    else
      let token ← conditionToken
      refuseCondition line operator.source
        (some ("unexpected argument \x60" ++ token ++ "' to conditional unary operator"))
  else
    let left ← takeWord inner
    Read.skipBlanks
    let operator? ← do
      if ← Read.startsWith "<" then pure (some "<")
      else if ← Read.startsWith ">" then pure (some ">")
      else
        let rest ← Read.rest
        let word := String.ofList (rest.takeWhile fun c => !endsWord c)
        pure (if binaryTests.contains word then some word else none)
    match operator? with
    | some operator =>
      Read.advance operator.length
      Read.skipBlanks
      if operator = "=~" then return .binary operator left (← takeExpressionWord inner)
      else
        let s ← get
        if ← conditionWordAhead then
          set { s with groups := true }
          let right ← takeWord inner
          modify fun t => { t with groups := s.groups }
          return .binary operator left right
        else
          let token ← conditionToken
          refuseCondition line operator
            (some ("unexpected argument \x60" ++ token ++ "' to conditional binary operator"))
    | none =>
      if (← Read.startsWith "]]") || (← Read.startsWith "&&") || (← Read.startsWith "||") ||
          (← Read.startsWith ")") then
        return .word left
      else
        let token ← conditionToken
        refuseCondition line left.source (some
          (if ← wordAhead then "conditional binary operator expected"
          else "unexpected token \x60" ++ token ++ "', conditional binary operator expected"))

/-- The readers of conditions of the next depth. -/
abbrev ConditionReader := Read Condition

/-- Reads a test, a negation or a condition in parentheses. -/
def takeConditionTerm (inner : Inner) (line : Nat) (condition : ConditionReader) : Read Condition := do
  let (negations, _) ← Read.repeatWhile ((0, ()) : Nat × Unit) fun (n, u) => do
    skipInCondition
    let rest ← Read.rest
    match rest with
    | '!' :: c :: _ =>
      if isSpace c || c == '(' then
        Read.advance 1
        return ((n + 1, u), true)
      else return ((n, u), false)
    | _ => return ((n, u), false)
  let base ← do
    if ← Read.taken "(" then
      let c ← condition
      skipInCondition
      if ← Read.taken ")" then pure (Condition.grouped c)
      else
        let token ← conditionToken
        refuseCondition line token (some
          (if ← conditionWordAhead then "expected \x60)'"
          else "unexpected token \x60" ++ token ++ "', expected \x60)'"))
    else if ← conditionWordAhead then takeTest inner line
    else
      let token ← conditionToken
      refuseCondition line "" (if token = "]]" then none
        else some ("unexpected token \x60" ++ token ++ "' in conditional command"))
  return (List.range negations).foldl (fun c _ => .negated c) base

/-- Reads tests joined by `&&`. -/
def takeConditionBoth (inner : Inner) (line : Nat) (condition : ConditionReader) : Read Condition := do
  let first ← takeConditionTerm inner line condition
  Read.repeatWhile first fun acc => do
    skipInCondition
    if ← Read.taken "&&" then
      return (.both acc (← takeConditionTerm inner line condition), true)
    else return (acc, false)

/-- Reads tests joined by `||`; what stands in parentheses is read a depth below. -/
def takeCondition (inner : Inner) (line : Nat) : Nat → Read Condition
  | 0 => throw .tooDeep
  | n + 1 => do
    let first ← takeConditionBoth inner line (takeCondition inner line n)
    Read.repeatWhile first fun acc => do
      skipInCondition
      if ← Read.taken "||" then
        return (.either acc (← takeConditionBoth inner line (takeCondition inner line n)), true)
      else return (acc, false)

/-- How deep conditions may stand in each other. -/
def conditionDepth : Nat := 100

/-! ## Compound commands -/

/-- Reads commands that may not be missing. -/
def takeBody (inner : Inner) : Read Command := do
  let c ← inner.commands
  match c with
  | .sequence [] => refuse
  | c => return c

def takeLoopBody (inner : Inner) : Read Command := do
  Read.skipLines
  if (← reservedAhead) = some "\x7b" then
    expectReserved "\x7b"
    let body ← takeBody inner
    expectReserved "\x7d"
    return body
  else
    expectReserved "do"
    let body ← takeBody inner
    expectReserved "done"
    return body

/-- Reads what follows the test of a condition, up to its end. -/
def takeChoice (inner : Inner) : Nat → Read Command
  | 0 => throw .tooDeep
  | n + 1 => do
    let test ← takeBody inner
    expectReserved "then"
    let whenTrue ← takeBody inner
    Read.skipBlanks
    match ← reservedAhead with
    | some "elif" =>
      Read.advance 4
      return .choose test whenTrue (some (← takeChoice inner n))
    | some "else" =>
      Read.advance 4
      let whenFalse ← takeBody inner
      expectReserved "fi"
      return .choose test whenTrue (some whenFalse)
    | _ =>
      expectReserved "fi"
      return .choose test whenTrue none

/-- Reads the words of a loop, up to the end of the line or a semicolon. -/
def takeLoopWords (inner : Inner) : Read (List Word) := do
  let words ← Read.repeatWhile ([] : List Word) fun acc => do
    Read.skipBlanks
    if ← wordAhead then return ((← takeWord inner) :: acc, true)
    else return (acc, false)
  Read.skipBlanks
  match ← Read.peek with
  | some ';' =>
    if (← operatorAhead) = some ";" then Read.advance 1 else refuse
  | some '\n' => pure ()
  | _ => refuse
  return words.reverse

/-- Splits the head of a counted loop at its semicolons. -/
def countedParts (cs : List Char) : List (List Char) :=
  (splitAll ';' (String.ofList cs)).map String.toList

/-- Reads a loop over words behind its keyword. -/
def takeFor (inner : Inner) (menu : Bool) : Read Command := do
  let line ← Read.line
  Read.skipBlanks
  match (← Read.isBash) && !menu, ← Read.rest with
  | true, '(' :: '(' :: rest =>
    match arithmeticInside 0 [] rest with
    | none => refuse
    | some (inside, _) =>
      let head := "((" ++ String.ofList inside ++ "))"
      Read.advance (inside.length + 4)
      match countedParts inside with
      | [a, b, c] =>
        let part (cs : List Char) : Read (List Piece) := Read.within cs (inner.pieces .expression)
        let start ← part a
        let test ← part b
        let next ← part c
        Read.skipBlanks
        if (← operatorAhead) = some ";" then Read.advance 1
        return .counted line start test next (← takeLoopBody inner)
      | _ => throw (.badLoopHead head)
  | _, _ =>
    let w ← expectWord inner
    let isBash ← Read.isBash
    if !isBash && !isName (w.plain?.getD "") then throw (.badLoopName w.source)
    let name := w.source
    Read.skipLines
    let words ← do
      if (← reservedAhead) = some "in" then
        Read.advance 2
        pure (some (← takeLoopWords inner))
      else
        if (← operatorAhead) = some ";" then Read.advance 1
        pure none
    let body ← takeLoopBody inner
    return if menu then .menu line name words body else .forEach line name words body

/-- Reads the patterns of a branch, up to their parenthesis. -/
def takePatterns (inner : Inner) : Read (List Word) := do
  let words ← Read.repeatWhile ([] : List Word) fun acc => do
    let w ← expectWord inner
    Read.skipBlanks
    if (← operatorAhead) = some "|" then
      Read.advance 1
      return (w :: acc, true)
    else return (w :: acc, false)
  expectOperator ")"
  return words.reverse

/-- Reads the branches of a choice by patterns, up to its end. -/
def takeBranches (inner : Inner) : Read (List Branch) := do
  let branches ← Read.repeatWhile ([] : List Branch) fun acc => do
    Read.skipLines
    if (← reservedAhead) = some "esac" then
      Read.advance 4
      return (acc, false)
    else
      Read.skipBlanks
      if (← Read.peek) = some '(' then Read.advance 1
      let patterns ← takePatterns inner
      let body ← inner.commands
      Read.skipLines
      match ← operatorAhead with
      | some ";;" =>
        Read.advance 2
        return (.mk patterns body .stop :: acc, true)
      | some ";&" =>
        Read.advance 2
        return (.mk patterns body .fallThrough :: acc, true)
      | some ";;&" =>
        Read.advance 3
        return (.mk patterns body .goOn :: acc, true)
      | _ =>
        expectReserved "esac"
        return (.mk patterns body .stop :: acc, false)
  return branches.reverse

/-- Reads a choice by patterns behind its keyword. -/
def takeCase (inner : Inner) : Read Command := do
  let line ← Read.line
  let subject ← expectWord inner
  Read.skipLines
  expectReserved "in"
  return .branches line subject (← takeBranches inner)

/-- Reads commands in parentheses whose opening one was taken. -/
def takeSubshell (inner : Inner) (line : Nat) : Read Command := do
  let body ← takeBody inner
  Read.skipBlanks
  expectOperator ")"
  return .subshell line body

/-- Reads a compound command, if one begins here. -/
def takeCompound (inner : Inner) : Read (Option Command) := do
  let line ← Read.line
  match ← reservedAhead with
  | some "if" => do Read.advance 2; return some (← takeChoice inner 1000)
  | some "while" =>
    Read.advance 5
    let test ← takeBody inner
    return some (.repeated false test (← takeLoopBody inner))
  | some "until" =>
    Read.advance 5
    let test ← takeBody inner
    return some (.repeated true test (← takeLoopBody inner))
  | some "for" => do Read.advance 3; return some (← takeFor inner false)
  | some "select" => do Read.advance 6; return some (← takeFor inner true)
  | some "case" => do Read.advance 4; return some (← takeCase inner)
  | some "\x7b" =>
    Read.advance 1
    let body ← takeBody inner
    expectReserved "\x7d"
    return some (.group body)
  | some "[[" =>
    Read.advance 2
    let c ← takeCondition inner line conditionDepth
    skipInCondition
    if ← Read.taken "]]" then return some (.conditional line c)
    else
      if (← Read.peek).isNone then throw (.openCondition line)
      else if ← wordAhead then refuseCondition line "" (some "syntax error in conditional expression")
      else
        let token ← conditionToken
        refuseCondition line ""
          (some ("syntax error in conditional expression: unexpected token \x60" ++ token ++ "'"))
  | _ =>
    match ← Read.isBash, ← Read.rest with
    | true, '(' :: '(' :: rest =>
      match arithmeticInside 0 [] rest with
      | some (inside, _) =>
        let expression ← Read.within inside (inner.pieces .expression)
        Read.advance (inside.length + 4)
        return some (.arithmetic (← Read.line) (String.ofList inside) expression)
      | none =>
        if unmatchedParenthesis 0 rest then throw (.unclosed ")" line)
        else
          Read.advance 1
          return some (← takeSubshell inner line)
    | _, '(' :: _ => do Read.advance 1; return some (← takeSubshell inner line)
    | _, _ => return none

/-! ## Functions -/

def takeFunctionBody (inner : Inner) : Read Command := do
  Read.skipLines
  let line ← Read.line
  match ← takeCompound inner with
  | some c => withRedirects inner line c
  | none =>
    if ← Read.isBash then refuse
    else
      let d ← takeSimple inner {}
      if d.isEmpty then refuse else return d.command line

/-- Reads the definition of a function behind its keyword. -/
def takeFunction (inner : Inner) : Read Command := do
  let line ← Read.line
  let name ← expectWord inner
  Read.skipBlanks
  if (← Read.peek) = some '(' then
    Read.advance 1
    expectOperator ")"
  return .define line name.source (← takeFunctionBody inner)

/-- Reads the second word of a simple command, if one comes, because a command counts as
standing where that word ends. -/
def takeSecondWord (inner : Inner) (draft : SimpleDraft) : Read SimpleDraft := do
  if (← Read.isBash) && draft.words.length = 1 then
    Read.skipBlanks
    if (redirectAhead? true (← Read.rest)).isSome || !(← wordAhead) then return draft
    else
      let declares := (draft.words.head?.bind Word.plain?).any declaringCommands.contains
      let w ← if declares then takeDeclaration inner else takeWord inner
      return { draft with words := w :: draft.words }
  else return draft

/-- Reads a simple command, or the definition of a function. -/
def takeSimpleOrFunction (inner : Inner) : Read Command := do
  modify fun s => { s with spent := [] }
  let first ← do
    Read.skipBlanks
    match ← takeRedirect inner with
    | some r => pure ({ redirects := [r] } : SimpleDraft)
    | none =>
      match ← takeAssignment inner with
      | some a => pure { assignments := [a] }
      | none =>
        let _ ← Read.repeatWhile () fun _ => do
          let again ← expandAlias
          if again then Read.skipBlanks
          return ((), again)
        match ← takeAssignment inner with
        | some a => pure { assignments := [a] }
        | none => if ← wordAhead then pure { words := [← takeWord inner] } else pure {}
  let finish : Read Command := do
    let second ← takeSecondWord inner first
    let line ← Read.line
    let d ← takeSimple inner second
    return d.command line
  match first.words with
  | [w] =>
    let line ← Read.line
    Read.skipBlanks
    if (← Read.peek) = some '(' then
      if w.isLiteral then
        Read.advance 1
        Read.skipBlanks
        if ← Read.taken ")" then
          if !(← Read.isBash) && !isName w.source then throw (.badFunctionName w.source)
          else return .define line w.source (← takeFunctionBody inner)
        else refuse (some ")")
      else refuse
    else finish
  | _ => if first.isEmpty then refuse else finish

/-! ## Pipelines and lists -/

def takeCommand (inner : Inner) : Read Command := do
  Read.skipBlanks
  let line ← Read.line
  match ← reservedAhead with
  | some "function" => do Read.advance 8; takeFunction inner
  | some word =>
    match ← takeCompound inner with
    | some c => withRedirects inner line c
    | none => if word = "in" ∨ word = "coproc" then takeSimpleOrFunction inner else refuse
  | none =>
    match ← takeCompound inner with
    | some c => withRedirects inner line c
    | none => takeSimpleOrFunction inner

/-- A command whose error output goes where its output goes. -/
def joiningErrors (line : Nat) (c : Command) : Command :=
  let joined : Redirect := .mk line (.number 2) .duplicateOutput (.mk "1" [.text "1"])
  match c with
  | .simple line assignments words redirects =>
    .simple line assignments words (redirects ++ [joined])
  | .redirected line body redirects => .redirected line body (redirects ++ [joined])
  | c => .redirected line c [joined]

def takePipeline (inner : Inner) : Read Command := do
  let (negated, timed) ← Read.repeatWhile ((false, false) : Bool × Bool) fun (negated, timed) => do
    Read.skipBlanks
    match ← reservedAhead with
    | some "!" => do Read.advance 1; return ((!negated, timed), true)
    | some "time" =>
      Read.advance 4
      Read.skipBlanks
      match ← Read.rest with
      | '-' :: 'p' :: c :: _ => if isSpace c then Read.advance 2
      | _ => pure ()
      return ((negated, true), true)
    | _ => return ((negated, timed), false)
  Read.skipBlanks
  let isBare ← do
    match ← Read.rest with
    | [] => pure true
    | c :: _ => pure (c == '\n' || c == ';')
  if (negated || timed) && isBare && (← Read.isBash) then return .pipeline negated timed []
  else
    let first ← takeCommand inner
    let stages ← Read.repeatWhile [first] fun acc => do
      Read.skipBlanks
      let line ← Read.line
      let more (acc : List Command) (size : Nat) : Read (List Command × Bool) := do
        Read.advance size
        Read.skipLines
        if (← reservedAhead) = some "!" && !(← Read.isBash) then refuse
        return ((← takeCommand inner) :: acc, true)
      match ← operatorAhead with
      | some "|" => more acc 1
      | some "|&" => more ((acc.head?.map (joiningErrors line)).toList ++ acc.tail) 2
      | _ => return (acc, false)
    match negated || timed, stages with
    | false, [c] => return c
    | _, _ => return .pipeline negated timed stages.reverse

/-- Reads pipelines joined by conditions, from the left. -/
def takeConditions (inner : Inner) : Read Command := do
  let first ← takePipeline inner
  Read.repeatWhile first fun acc => do
    Read.skipBlanks
    match ← operatorAhead with
    | some "&&" =>
      Read.advance 2
      Read.skipLines
      return (.both acc (← takePipeline inner), true)
    | some "||" =>
      Read.advance 2
      Read.skipLines
      return (.either acc (← takePipeline inner), true)
    | _ => return (acc, false)

/-- Whether a list of commands ends here: at the end of the text, at an operator that
closes something, or at a word that does. -/
def listEnds : Read Bool := do
  match ← Read.rest with
  | [] => return true
  | _ =>
    match ← operatorAhead with
    | some op => return op == ")" || op == ";;" || op == ";&" || op == ";;&"
    | none =>
      return (← reservedAhead).any
        (["then", "else", "elif", "fi", "do", "done", "esac", "\x7d"].contains)

/-- Reads the separator behind a command: whether there is one, and whether it sends the
command to the background. -/
def takeSeparator (lineEnds : Bool) : Read (Bool × Bool) := do
  Read.skipBlanks
  match ← operatorAhead with
  | some ";" => do Read.advance 1; return (true, false)
  | some "&" => do Read.advance 1; return (true, true)
  | _ =>
    if (← Read.peek) = some '\n' && !lineEnds then
      let _ ← Read.next
      return (true, false)
    else return (false, false)

/-- Reads a list of commands, up to something that is none of its parts or, if lines end
it, to the end of the line. -/
def takeList (inner : Inner) (lineEnds : Bool) : Read Command := do
  let commands ← Read.repeatWhile ([] : List Command) fun acc => do
    if lineEnds then Read.skipBlanks else Read.skipLines
    if (← listEnds) || (lineEnds && (← Read.peek) = some '\n') then return (acc, false)
    else
      let c ← takeConditions inner
      let (separated, apart) ← takeSeparator lineEnds
      return ((if apart then .background c else c) :: acc, separated)
  return .sequence commands.reverse

/-- The readers of a depth; at depth zero nothing more can stand inside. -/
def readers : Nat → Inner
  | 0 => ⟨throw .tooDeep, fun _ => throw .tooDeep⟩
  | n + 1 => ⟨takeList (readers n) false, takePieces (readers n)⟩

/-- How deep commands may stand in each other. -/
def grammarDepth : Nat := 500

/-- What the front of a script gives: commands to run, the end, or a fault. -/
inductive NextCommand where
  | command (c : Command) (rest : Source)
  | finished (rest : Source)
  | fault (f : SyntaxFault) (rest : Source)

def nextCommand (s : Source) : NextCommand :=
  let read : Read (Option Command) := do
    Read.skipLines
    if (← Read.peek).isNone then return none
    else
      let c ← takeList (readers grammarDepth) true
      Read.skipBlanks
      match ← Read.peek with
      | none => return some c
      | some '\n' =>
        let _ ← Read.next
        return some c
      | some _ => refuse
  match read.run s with
  | .ok (some c) rest => .command c rest
  | .ok none rest => .finished rest
  | .error f rest => .fault f rest

def Source.ofText (dialect : Dialect) (text : String) : Source :=
  { rest := text.toList, lineText := text.toList, dialect := dialect }

end SpeechConfig.Shell
