/-
# Scripts as they are read

A script is read from the front.  The reader keeps the number and the text of the line it
has come to, because faults are reported with both.
-/
import SpeechConfig.Shell.Octets
import SpeechConfig.Shell.Syntax.Command

namespace SpeechConfig.Shell

/-- What stands where something else is wanted. -/
inductive Found where
  | operator (text : String)
  | word (text : String)
  | newline
  | nothing
deriving DecidableEq, Repr

/-- Why a script is no sequence of commands. -/
inductive SyntaxFault where
  | unexpected (found : Found) (wanted : Option String)
  | unclosed (closer : String) (line : Nat)
  | condition (message : Option String) (line : Nat) (near : String) (atEnd : Bool)
  | openCondition (line : Nat)
  | badLoopHead (text : String)
  | badLoopName (name : String)
  | badFunctionName (name : String)
  | badSubstitution (source : String)
  | tooDeep
deriving DecidableEq, Repr

/-- A here-document without an end: the line it begins on, the line where the script ends,
and the line that was to end it. -/
structure OpenDocument where
  start : Nat
  last : Nat
  delimiter : String
deriving DecidableEq, Repr

/-- What is left of a script.  `lineText` starts with the text of the current line; `hidden`
counts lines of here-documents that were taken out behind the end of the line. -/
structure Source where
  rest : List Char
  position : Nat := 0
  line : Nat := 1
  lineText : List Char
  hidden : Nat := 0
  openDocuments : List OpenDocument := []
  dialect : Dialect := .bash
  groups : Bool := false
  aliases : List (String × String) := []
  spent : List String := []
deriving Inhabited

abbrev Read (α : Type) := EStateM SyntaxFault Source α

namespace Read

def rest : Read (List Char) := do
  return (← get).rest

def peek : Read (Option Char) := do
  return (← get).rest.head?

def next : Read (Option Char) := do
  let s ← get
  match s.rest with
  | [] => return none
  | c :: cs =>
    if c = '\n' then
      set { s with
        rest := cs
        position := s.position + 1
        line := s.line + 1 + s.hidden
        hidden := 0
        lineText := cs }
    else set { s with rest := cs, position := s.position + 1 }
    return some c

def advance : Nat → Read Unit
  | 0 => return ()
  | n + 1 => do
    let _ ← next
    advance n

/-- Whether the text begins with another. -/
def startsWith (s : String) : Read Bool := do
  return s.toList.isPrefixOf (← get).rest

/-- Takes a text if the script goes on with it. -/
def taken (s : String) : Read Bool := do
  if ← startsWith s then
    advance s.length
    return true
  else return false

/-- Takes the characters that a test picks. -/
def takeWhile (p : Char → Bool) : Read (List Char) := do
  let cs := (← get).rest.takeWhile p
  advance cs.length
  return cs

/-- Repeats a step as long as it asks to go on, at most as often as there are characters. -/
def repeatWhile {σ : Type} (start : σ) (step : σ → Read (σ × Bool)) : Read σ := do
  let rec go : Nat → σ → Read σ
    | 0, s => return s
    | n + 1, s => do
      let (s, more) ← step s
      if more then go n s else return s
  go ((← rest).length + 2) start

/-- Runs a reader, and returns also the text it took. -/
def withText {α : Type} (read : Read α) : Read (α × String) := do
  let before ← get
  let x ← read
  let after ← get
  return (x, String.ofList (before.rest.take (after.position - before.position)))

def line : Read Nat := do
  return (← get).line

/-- The number of the line behind the last one. -/
def endLine : Read Nat := do
  let s ← get
  return s.line + (if s.lineText.isEmpty then 0 else 1)

/-- Whether the script is in the large language. -/
def isBash : Read Bool := do
  return (← get).dialect == .bash

/-- Takes blanks, joined lines, and a comment. -/
def skipBlanks : Read Unit := do
  repeatWhile () fun _ => do
    match (← rest) with
    | '\\' :: '\n' :: _ => do
      advance 2
      return ((), true)
    | c :: _ =>
      if isBlank c then do
        let _ ← takeWhile isBlank
        return ((), true)
      else if c = '#' then do
        let _ ← takeWhile (· != '\n')
        return ((), false)
      else return ((), false)
    | [] => return ((), false)

/-- Takes blanks, comments and ends of lines. -/
def skipLines : Read Unit := do
  skipBlanks
  repeatWhile () fun _ => do
    if (← peek) = some '\n' then
      let _ ← next
      skipBlanks
      return ((), true)
    else return ((), false)

end Read

def endsWord (c : Char) : Bool :=
  " \t\n;&|<>()".toList.contains c

def operators : List String :=
  [";;&", "<<<", "<<-", "&>>", "&&", "||", ";;", ";&", "|&", "<<", ">>", "<&", ">&", "<>",
    ">|", "&>", ";", "&", "|", "<", ">", "(", ")"]

/-- The operators of the small language, longer ones first. -/
def smallOperators : List String :=
  ["<<-", "&&", "||", ";;", "<<", ">>", "<&", ">&", "<>", ">|", ";", "&", "|", "<", ">", "(", ")"]

def operatorAhead : Read (Option String) := do
  let list := if ← Read.isBash then operators else smallOperators
  let rest ← Read.rest
  return list.find? fun op => op.toList.isPrefixOf rest

/-- The text between a quote and its end, in a rough look ahead. -/
def skipQuoted (q : Char) : List Char → List Char
  | [] => []
  | '\\' :: c :: cs => if q = '"' then skipQuoted q cs else if c = q then cs else skipQuoted q cs
  | c :: cs => if c = q then cs else skipQuoted q cs

/-- The text of the word that comes next, as far as a look ahead without expansions goes. -/
def roughWord (steps : Nat) (cs : List Char) : List Char :=
  match steps with
  | 0 => []
  | n + 1 =>
    match cs with
    | [] => []
    | '\\' :: c :: rest => '\\' :: c :: roughWord n rest
    | c :: rest =>
      if endsWord c then []
      else if c = '\'' ∨ c = '"' then
        let left := skipQuoted c rest
        c :: rest.take (rest.length - left.length) ++ roughWord n left
      else c :: roughWord n rest

/-- What comes next, for a report. -/
def found : Read Found := do
  Read.skipBlanks
  match ← Read.peek with
  | none => return .nothing
  | some '\n' => return .newline
  | some _ =>
    match ← operatorAhead with
    | some op => return .operator op
    | none =>
      let rest ← Read.rest
      return .word (String.ofList (roughWord rest.length rest))

def refuse {α : Type} (wanted : Option String := none) : Read α := do
  let f ← found
  throw (.unexpected f wanted)

/-- Takes an operator, or refuses what stands in its place. -/
def expectOperator (op : String) : Read Unit := do
  Read.skipBlanks
  if (← operatorAhead) = some op then Read.advance op.length
  else refuse (some op)

/-- The words with a meaning of their own where a command begins. -/
def reservedWords : List String :=
  ["if", "then", "else", "elif", "fi", "for", "while", "until", "do", "done", "case", "esac",
    "\x7b", "\x7d", "!", "in"]

/-- Those of them that only the large language has. -/
def largeReservedWords : List String :=
  ["select", "function", "time", "[[", "coproc"]

/-- The reserved word that comes next. -/
def reservedAhead : Read (Option String) := do
  let rest ← Read.rest
  let word := String.ofList (rest.takeWhile fun c => !endsWord c)
  if reservedWords.contains word || ((← Read.isBash) && largeReservedWords.contains word) then
    return some word
  else return none

/-- Takes a reserved word, or refuses what stands in its place. -/
def expectReserved (word : String) : Read Unit := do
  Read.skipBlanks
  if (← reservedAhead) = some word then Read.advance word.length
  else refuse (some word)

end SpeechConfig.Shell
