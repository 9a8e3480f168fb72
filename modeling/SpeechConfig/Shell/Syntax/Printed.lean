/-
# Commands as text

A command as a shell shows it: in one line, or as the body of a function with a line for
each command.
-/
import SpeechConfig.Shell.Syntax.Command
import SpeechConfig.Shell.Octets

namespace SpeechConfig.Shell

/-- The start of a line at a level of indentation. -/
def newLine (level : Nat) : String :=
  "\n" ++ String.ofList (List.replicate (4 * level) ' ')

/-- A text with a semicolon behind it, unless it ends in a character that separates. -/
def separated (s : String) : String :=
  if s.endsWith "&" || s.endsWith "\n" then s else s ++ ";"

def Direction.sign : Direction → String
  | .read => "<"
  | .write => ">"
  | .overwrite => ">|"
  | .append => ">>"
  | .readWrite => "<>"
  | .duplicateInput => "<&"
  | .duplicateOutput => ">&"
  | .writeBoth => "&>"
  | .appendBoth => "&>>"
  | .document => "<<"
  | .line => "<<<"

def Redirect.shown : Redirect → String
  | .mk _ stream direction target =>
    let usual := match direction with
      | .duplicateInput => "0"
      | .duplicateOutput => "1"
      | _ => ""
    let number := match stream with
      | .usual => usual
      | .number n => Nat.repr n
      | .heldBy name => "\x7b" ++ name ++ "\x7d"
    let number := match stream, direction with
      | .number 0, .read | .number 1, .write | .number 1, .append => ""
      | _, _ => number
    match direction with
    | .duplicateInput | .duplicateOutput => number ++ direction.sign ++ target.source
    | .document => number ++ "<<EOF\n" ++ target.source ++ "EOF\n"
    | _ => number ++ direction.sign ++ " " ++ target.source

def shownRedirects (redirects : List Redirect) : String :=
  String.join (redirects.map fun r => " " ++ r.shown)

def Assignment.source : Assignment → String
  | .mk source _ _ _ _ => source

/-- The text of pieces that have no expansions. -/
def plainText (pieces : List Piece) : String :=
  String.join (pieces.map fun p => match p with
    | .text s | .quoted s => s
    | .parameter (.mk source _ _ _ _) => source
    | _ => "")

def Condition.shown : Condition → String
  | .word w => "-n " ++ w.source
  | .unary operator w => operator ++ " " ++ w.source
  | .binary operator a b => a.source ++ " " ++ operator ++ " " ++ b.source
  | .negated c => "! " ++ c.shown
  | .both a b => a.shown ++ " && " ++ b.shown
  | .either a b => a.shown ++ " || " ++ b.shown
  | .grouped c => "( " ++ c.shown ++ " )"

def shownLoop (keyword name : String) (words : Option (List Word)) (level : Nat) : String :=
  let list := match words with
    | some ws => " ".intercalate (ws.map Word.source)
    | none => "\"$@\""
  keyword ++ name ++ " in " ++ list ++ ";" ++ newLine level ++ "do" ++ newLine (level + 1)

mutual

/-- A command as text; its first line is not indented, and the others are. -/
def Command.shown (inFunction : Bool) (level : Nat) : Command → String
  | .simple _ assignments words redirects =>
    " ".intercalate (assignments.map Assignment.source ++ words.map Word.source ++
      redirects.map Redirect.shown)
  | .pipeline negated timed stages =>
    (if timed then "time " else "") ++ (if negated then "! " else "") ++
      shownStages inFunction level stages
  | .both a b => a.shown inFunction level ++ " && " ++ b.shown inFunction level
  | .either a b => a.shown inFunction level ++ " || " ++ b.shown inFunction level
  | .sequence commands => shownSequence inFunction level commands
  | .background body => body.shown inFunction level ++ " &"
  | .redirected _ body redirects => body.shown inFunction level ++ shownRedirects redirects
  | .subshell _ body => "( " ++ body.shown inFunction level ++ " )"
  | .group body =>
    if inFunction then
      "\x7b " ++ newLine (level + 1) ++ body.shown inFunction (level + 1) ++ newLine level ++ "\x7d"
    else "\x7b " ++ separated (body.shown inFunction level) ++ " \x7d"
  | .choose test whenTrue none =>
    "if " ++ separated (test.shown inFunction level) ++ " then" ++ newLine (level + 1) ++
      separated (whenTrue.shown inFunction (level + 1)) ++ newLine level ++ "fi"
  | .choose test whenTrue (some whenFalse) =>
    "if " ++ separated (test.shown inFunction level) ++ " then" ++ newLine (level + 1) ++
      separated (whenTrue.shown inFunction (level + 1)) ++ newLine level ++ "else" ++
      newLine (level + 1) ++ separated (whenFalse.shown inFunction (level + 1)) ++ newLine level ++ "fi"
  | .repeated stopWhen test body =>
    (if stopWhen then "until " else "while ") ++ separated (test.shown inFunction level) ++ " do" ++
      newLine (level + 1) ++ separated (body.shown inFunction (level + 1)) ++ newLine level ++ "done"
  | .forEach _ name words body =>
    shownLoop "for " name words level ++ separated (body.shown inFunction (level + 1)) ++ newLine level ++ "done"
  | .menu _ name words body =>
    shownLoop "select " name words level ++ separated (body.shown inFunction (level + 1)) ++ newLine level ++ "done"
  | .counted _ start test next body =>
    "for ((" ++ plainText start ++ "; " ++ plainText test ++ "; " ++ plainText next ++ "))" ++
      newLine level ++ "do" ++ newLine (level + 1) ++ separated (body.shown inFunction (level + 1)) ++
      newLine level ++ "done"
  | .branches _ subject list =>
    "case " ++ subject.source ++ " in " ++ shownBranches inFunction (level + 1) list ++ newLine level ++ "esac"
  | .arithmetic _ source _ => "((" ++ source ++ "))"
  | .conditional _ condition => "[[ " ++ condition.shown ++ " ]]"
  | .define _ name body => "function " ++ name ++ " () " ++ newLine level ++ body.shown true level

def shownStages (inFunction : Bool) (level : Nat) : List Command → String
  | [] => ""
  | [c] => c.shown inFunction level
  | c :: rest => c.shown inFunction level ++ " | " ++ shownStages inFunction level rest

def shownSequence (inFunction : Bool) (level : Nat) : List Command → String
  | [] => ""
  | [c] => c.shown inFunction level
  | c :: rest =>
    let between := match c with
      | .background _ => " "
      | _ => if inFunction then ";" ++ newLine level else "; "
    c.shown inFunction level ++ between ++ shownSequence inFunction level rest

def shownBranches (inFunction : Bool) (level : Nat) : List Branch → String
  | [] => ""
  | .mk patterns body ending :: rest =>
    newLine level ++ " | ".intercalate (patterns.map Word.source) ++ ")" ++ newLine (level + 1) ++
      body.shown inFunction (level + 1) ++ newLine level ++ (match ending with
        | .stop => ";;"
        | .fallThrough => ";&"
        | .goOn => ";;&") ++ shownBranches inFunction level rest

end

def shownFunction (name : String) (body : Command) : String :=
  match body with
  | .group inside =>
    name ++ " () \n\x7b " ++ newLine 1 ++ inside.shown true 1 ++ "\n\x7d"
  | .redirected _ (.group inside) redirects =>
    name ++ " () \n\x7b " ++ newLine 1 ++ inside.shown true 1 ++ "\n\x7d" ++ shownRedirects redirects
  | body => name ++ " () \n" ++ body.shown true 0

end SpeechConfig.Shell
