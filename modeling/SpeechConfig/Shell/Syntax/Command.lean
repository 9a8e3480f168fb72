/-
# Commands

What a script is made of: words and the expansions in them, redirections, simple commands,
and the commands that are built from others.
-/
namespace SpeechConfig.Shell

/-- The two command languages: the large one, and the small one that `sh` stands for. -/
inductive Dialect where
  | bash
  | dash
deriving DecidableEq, Repr, Inhabited

/-- What takes the place of a value that is missing, or of one that is there. -/
inductive Fallback where
  | use
  | assign
  | complain
  | replace
deriving DecidableEq, Repr, Inhabited

/-- Which matches of a pattern a replacement is for. -/
inductive Matches where
  | first
  | all
  | atStart
  | atEnd
deriving DecidableEq, Repr, Inhabited

/-- What becomes of the letters of a value. -/
inductive Recasing where
  | upper
  | lower
  | toggled
deriving DecidableEq, Repr, Inhabited

/-- What a redirection does with its target. -/
inductive Direction where
  | read
  | write
  | overwrite
  | append
  | readWrite
  | duplicateInput
  | duplicateOutput
  | writeBoth
  | appendBoth
  | document
  | line
deriving DecidableEq, Repr, Inhabited

/-- The stream that a redirection names: the usual one, a number, or a variable that is
to hold the number. -/
inductive StreamName where
  | usual
  | number (n : Nat)
  | heldBy (name : String)
deriving DecidableEq, Repr, Inhabited

/-- What follows the commands of a branch that was taken: the end, the next commands, or
the next patterns. -/
inductive BranchEnd where
  | stop
  | fallThrough
  | goOn
deriving DecidableEq, Repr, Inhabited

mutual

inductive Piece where
  | text (s : String)
  | quoted (s : String)
  | doubled (pieces : List Piece)
  | parameter (p : Parameter)
  | output (body : Command)
  | backquoted (source : String)
  | arithmetic (expression : List Piece)
  | process (isTarget : Bool) (body : Command)
  | elements (extend : Bool) (elements : List Element)

/-- An expansion of a variable or parameter, with its text in the script. -/
inductive Parameter where
  | mk (source : String) (indirect : Bool) (name : String) (subscript : Subscript)
      (operation : Operation)

/-- Which part of a list a name is about. -/
inductive Subscript where
  | absent
  | all (joined : Bool)
  | at (index : List Piece)

inductive Operation where
  | value
  | length
  | keys
  | names (joined : Bool)
  | fallback (kind : Fallback) (emptyToo : Bool) (operand : List Piece)
  | trim (atStart longest : Bool) (pattern : List Piece)
  | replace (which : Matches) (pattern replacement : List Piece)
  | recase (casing : Recasing) (everywhere : Bool) (pattern : List Piece)
  | slice (offset : List Piece) (length : Option (List Piece))
  | transform (letter : Char)
  | invalid

/-- A word, with its text in the script. -/
inductive Word where
  | mk (source : String) (pieces : List Piece)

/-- An element of a list that is assigned. -/
inductive Element where
  | mk (subscript : Option (List Piece)) (extend : Bool) (value : Word)

inductive Assigned where
  | one (value : Word)
  | many (elements : List Element)

/-- An assignment, with its text in the script. -/
inductive Assignment where
  | mk (source : String) (name : String) (subscript : Option (List Piece)) (extend : Bool)
      (value : Assigned)

inductive Redirect where
  | mk (line : Nat) (stream : StreamName) (direction : Direction) (target : Word)

inductive Condition where
  | word (w : Word)
  | unary (operator : String) (w : Word)
  | binary (operator : String) (left right : Word)
  | negated (c : Condition)
  | both (a b : Condition)
  | either (a b : Condition)
  | grouped (c : Condition)

inductive Branch where
  | mk (patterns : List Word) (body : Command) (ending : BranchEnd)

inductive Command where
  | simple (line : Nat) (assignments : List Assignment) (words : List Word)
      (redirects : List Redirect)
  | pipeline (negated timed : Bool) (stages : List Command)
  | both (first second : Command)
  | either (first second : Command)
  | sequence (commands : List Command)
  | background (body : Command)
  | redirected (line : Nat) (body : Command) (redirects : List Redirect)
  | subshell (line : Nat) (body : Command)
  | group (body : Command)
  | choose (test whenTrue : Command) (whenFalse : Option Command)
  | repeated (stopWhen : Bool) (test body : Command)
  | forEach (line : Nat) (name : String) (words : Option (List Word)) (body : Command)
  | menu (line : Nat) (name : String) (words : Option (List Word)) (body : Command)
  | counted (line : Nat) (start test next : List Piece) (body : Command)
  | branches (line : Nat) (subject : Word) (list : List Branch)
  | arithmetic (line : Nat) (source : String) (expression : List Piece)
  | conditional (line : Nat) (condition : Condition)
  | define (line : Nat) (name : String) (body : Command)

end

instance : Inhabited Word := ⟨.mk "" []⟩
instance : Inhabited Command := ⟨.sequence []⟩
instance : Inhabited Parameter := ⟨.mk "" false "" .absent .value⟩

mutual

def Command.firstLine : Command → Nat
  | .simple line _ _ _ | .subshell line _ | .forEach line _ _ _ | .menu line _ _ _ |
    .counted line _ _ _ _ | .branches line _ _ | .redirected line _ _ | .arithmetic line _ _ | .conditional line _ |
    .define line _ _ => line
  | .pipeline _ _ stages => firstLineOf stages
  | .sequence commands => firstLineOf commands
  | .both first _ | .either first _ => first.firstLine
  | .background body | .group body => body.firstLine
  | .choose test _ _ | .repeated _ test _ => test.firstLine

def firstLineOf : List Command → Nat
  | [] => 1
  | c :: _ => c.firstLine

end

/-- The text of a word in the script. -/
def Word.source : Word → String
  | .mk source _ => source

def Word.pieces : Word → List Piece
  | .mk _ pieces => pieces

/-- The text of a word that has no quotes and no expansions. -/
def Word.plain? : Word → Option String
  | .mk _ [.text s] => some s
  | _ => none

/-- Whether a character may stand in a name. -/
def isNameChar (c : Char) : Bool :=
  ('a' ≤ c && c ≤ 'z') || ('A' ≤ c && c ≤ 'Z') || ('0' ≤ c && c ≤ '9') || c == '_'

/-- Whether a character may begin a name. -/
def startsName (c : Char) : Bool :=
  isNameChar c && !('0' ≤ c && c ≤ '9')

def isName (s : String) : Bool :=
  match s.toList with
  | c :: cs => startsName c && cs.all isNameChar
  | [] => false

end SpeechConfig.Shell
