/-
# Scripts

A script is read and run command by command.  What cannot be read is reported, and ends
the script.
-/
import SpeechConfig.Shell.Assignment

namespace SpeechConfig.Shell

/-! ## Reports of faults -/

/-- What was found, as the small language names it. -/
def Found.small (wanted : Option String) : Found → String
  | .operator op =>
    if ["<", ">", ">>", "<<", "<<-", "<&", ">&", "<>", ">|"].contains op then "redirection"
    else if wanted = some ")" && op = "(" then "\"(\""
    else "\"" ++ op ++ "\""
  | .word w =>
    if (reservedWords.contains w && w != "!" && w != "in" && w != "\x7b") || w == "!" then "\"" ++ w ++ "\"" else "word"
  | .newline => "newline"
  | .nothing => "end of file"

/-- The line of a script that the reader has come to. -/
def presentLine (s : Source) : String :=
  String.ofList (s.lineText.takeWhile (· != '\n'))

/-- The number of the line behind the last one. -/
def lineBehind (s : Source) : Nat :=
  s.line + (if s.lineText.isEmpty then 0 else 1)

/-- The lines that report a fault in the large language. -/
def largeReport (label : String) (f : SyntaxFault) (s : Source) : List String :=
  let on (line : Nat) (message : String) : String := label ++ ": line " ++ Nat.repr line ++ ": " ++ message
  let here := on s.line ("\x60" ++ presentLine s ++ "'")
  match f with
  | .unexpected .nothing _ => [on (lineBehind s) "syntax error: unexpected end of file"]
  | .unexpected found _ =>
    let token := match found with
      | .operator op => op
      | .word w => w
      | _ => "newline"
    [on s.line ("syntax error near unexpected token \x60" ++ token ++ "'"), here]
  | .unclosed closer line => [on line ("unexpected EOF while looking for matching \x60" ++ closer ++ "'")]
  | .condition message line near atEnd =>
    let first := message.toList.map (on line)
    if atEnd then first else first ++ [on s.line ("syntax error near \x60" ++ near ++ "'"), here]
  | .openCondition line =>
    [on line "unexpected EOF while looking for \x60]]'",
      on (lineBehind s) "syntax error: unexpected end of file"]
  | .badLoopHead text =>
    [on s.line "syntax error: arithmetic expression required",
      on s.line ("syntax error: \x60" ++ text ++ "'")]
  | .badLoopName name => [on s.line ("\x60" ++ name ++ "': not a valid identifier")]
  | .badFunctionName name => [on s.line ("\x60" ++ name ++ "': not a valid identifier")]
  | .badSubstitution source => [on s.line (source ++ ": bad substitution")]
  | .tooDeep => [on s.line "maximum nesting depth exceeded"]

/-- The line that reports a fault in the small language. -/
def smallReport (label command : String) (f : SyntaxFault) (s : Source) : String :=
  let message := match f with
    | .unexpected found wanted =>
      found.small wanted ++ " unexpected" ++ (match wanted with
        | some w => " (expecting \"" ++ w ++ "\")"
        | none => "")
    | .unclosed closer _ =>
      if closer = "\x7d" then "Missing '\x7d'"
      else if closer = "\x60" then "EOF in backquote substitution"
      else if closer = "))" then "Missing '))'"
      else if closer = ")" then "end of file unexpected (expecting \")\")"
      else "Unterminated quoted string"
    | .badLoopName _ | .badLoopHead _ => "Bad for loop variable"
    | .badFunctionName _ => "Bad function name"
    | .badSubstitution _ => "Bad substitution"
    | .condition _ _ _ _ | .openCondition _ => "bad condition"
    | .tooDeep => "too deep"
  label ++ ": " ++ Nat.repr s.line ++ ": " ++ (if command.isEmpty then "" else command ++ ": ") ++
    "Syntax error: " ++ message

/-- Reports a fault in a text that is named by a label of its own. -/
def reportFault (origin : String) (f : SyntaxFault) (s : Source) : Act Unit := do
  let p ← Act.process
  if p.dialect = .bash then
    let label := if origin.isEmpty then p.label else p.label ++ ": " ++ origin
    for line in largeReport label f s do
      Act.warn line
  else Act.warn (smallReport p.label p.command f s)

/-- Warns of here-documents that have no end. -/
def warnOfDocuments (documents : List OpenDocument) : Act Unit := do
  if ← Act.isBash then
    let p ← Act.process
    for d in documents do
      Act.warn (p.label ++ ": line " ++ Nat.repr d.last ++ ": warning: here-document at line " ++
        Nat.repr d.start ++ " delimited by end-of-file (wanted \x60" ++ d.delimiter ++ "')")

/-! ## Running -/

/-- How the rest of a text is read at present. -/
def refreshSource (s : Source) : Act Source := do
  let p ← Act.process
  let knowsAliases := p.dialect == .dash || p.switches.contains "expand_aliases"
  return { s with
    groups := p.dialect == .bash && p.switches.contains "extglob"
    aliases := if knowsAliases then p.aliases else []
    openDocuments := [] }

/-- Writes the lines that were read, if the shell is asked to show them. -/
def showInput (before after : Source) : Act Unit := do
  if ← Act.hasOption "verbose" then
    let text := String.ofList (before.rest.take (before.rest.length - after.rest.length))
    Act.put 2 (if text.endsWith "\n" || text.isEmpty then text else text ++ "\n")

/-- Takes over the line to which a text was read: a command stands there until a part of it
is run. -/
def reachLine (s : Source) : Act Unit := do
  if ← Act.isBash then
    let line := if s.lineText.length = s.rest.length then s.line - 1 else s.line
    Act.update fun p => { p with line := line }

/-- Runs the commands of a text one after another; every step takes a character.  A fault
ends the text: `onFault` says what becomes of the shell then. -/
def runCommands (x : Executor) (origin : String) (onAbandon : Act Unit) (onFault : Act Unit) :
    Nat → Source → Act Unit
  | 0, _ => return ()
  | n + 1, source => do
    let source ← refreshSource source
    match nextCommand source with
    | .finished rest => showInput source rest
    | .fault f rest =>
      showInput source rest
      reportFault origin f rest
      onFault
    | .command c rest =>
      showInput source rest
      warnOfDocuments rest.openDocuments
      reachLine rest
      let isSilent ← Act.hasOption "noexec"
      if isSilent then runCommands x origin onAbandon onFault n rest
      else
        match ← Act.attempt (x.run c) with
        | .ok () => runCommands x origin onAbandon onFault n rest
        | .error .abandon =>
          onAbandon
          runCommands x origin onAbandon onFault n rest
        | .error e => throw e

/-- Runs a text inside a running shell: it is named in reports, and its first line has a
number. -/
def runText (x : Executor) (origin : String) (line : Nat) (text : String) : Act Unit := do
  let p ← Act.process
  let source := { Source.ofText p.dialect text with line := line }
  let deeper := origin == "eval" || origin == "command substitution"
  if deeper then Act.update fun p => { p with traceDepth := p.traceDepth + 1 }
  Act.update fun p => { p with lineShift := 0 }
  Act.ensuring
    (runCommands x origin (throw .abandon)
      (do
        Act.setStatus 2
        if !(← Act.isBash) then throw (.exit 2))
      (text.length + 2) source)
    (Act.update fun q => { q with traceDepth := p.traceDepth, lineShift := p.lineShift })

/-- Runs a script from its first line to its last. -/
def runScript (x : Executor) (origin text : String) (stopsOnAbandon : Bool) : Act Unit := do
  let p ← Act.process
  runCommands x origin
    (do
      if (← Act.status) = 0 then Act.setStatus 1
      let p ← Act.process
      if stopsOnAbandon || p.isSubshell then throw (.exit p.status))
    (throw (.exit 2))
    (text.length + 2) (Source.ofText p.dialect text)

end SpeechConfig.Shell
