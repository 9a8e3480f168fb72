/-
# Reading programs for records

Every reader takes a bound for its depth, which the number of tokens gives.
-/
import SpeechConfig.Shell.Tool.Awk.Token

namespace SpeechConfig.Shell.Awk

/-- A program that is being read: the tokens that are left, how many parentheses and braces
are open, what is read, how many loops are open, the functions that were called, the names
that were used as tables, and those that were given to functions. -/
structure Draft where
  rest : List Placed
  parens : Nat := 0
  braces : Nat := 0
  inFunction : Bool := false
  inRule : Bool := false
  loops : Nat := 0
  calls : List String := []
  tables : List String := []
  passed : List (String × String × Nat) := []
deriving Inhabited

/-- A reader of programs; its faults are reports, one a line. -/
abbrev Read (α : Type) := StateT Draft (Except String) α

namespace Read

/-- The next token, which is not taken. -/
def peek : Read Placed := do
  return (← get).rest.headD ⟨.finish, 1⟩

def next : Read Placed := do
  let d ← get
  let p := d.rest.headD ⟨.finish, 1⟩
  let parens := match p.token with
    | .sign "(" => d.parens + 1
    | .sign ")" => d.parens - 1
    | _ => d.parens
  let braces := match p.token with
    | .sign "\x7b" => d.braces + 1
    | .sign "\x7d" => d.braces - 1
    | _ => d.braces
  set { d with rest := d.rest.drop 1, parens := parens, braces := braces }
  return p

/-- Ends the reading because of the next token. -/
def fail {α : Type} : Read α := do
  let d ← get
  let p ← peek
  let told (line : Nat) (message : String) : String := "line " ++ Nat.repr line ++ ": " ++ message
  match p.token with
  | .finish =>
    let brace := if d.braces > 0 then [told p.line "missing \x7d near end of file"] else []
    let paren := if d.parens > 0 then [told (p.line - 1) "missing ) near end of line"] else []
    let rest := if d.braces = 0 && d.parens = 0 then [told (p.line - 1) "syntax error at or near end of line"] else []
    throw ("\n".intercalate (paren ++ brace ++ rest))
  | t =>
    let isExtra : Bool := match t with
      | .sign ")" => d.parens = 0
      | .sign "\x7d" => d.braces = 0
      | _ => false
    if isExtra then
      let after := match (d.rest.drop 1).head? with
        | some { token := .finish, line := l } => ("end of line", l - 1)
        | some p => (p.token.shown, p.line)
        | none => ("end of line", p.line)
      throw (told p.line ("extra '" ++ t.shown ++ "'") ++ "\n" ++
        told after.2 ("syntax error at or near " ++ after.1))
    else if d.parens > 0 then throw (told p.line ("missing ) near " ++ t.shown))
    else throw (told p.line ("syntax error at or near " ++ t.shown))

/-- Ends the reading with a report about the present line. -/
def complain {α : Type} (message : String) : Read α := do
  throw ("line " ++ Nat.repr (← peek).line ++ ": " ++ message)

def sees (s : String) : Read Bool := do
  match (← peek).token with
  | .sign t => return s == t
  | _ => return false

def seesWord (s : String) : Read Bool := do
  match (← peek).token with
  | .word t => return s == t
  | _ => return false

/-- Takes a sign if it comes next. -/
def takes (s : String) : Read Bool := do
  if ← sees s then
    let _ ← next
    return true
  else return false

/-- Takes a sign, which has to come next. -/
def expect (s : String) : Read Unit := do
  if !(← takes s) then fail

def skipLines : Nat → Read Unit
  | 0 => return ()
  | n + 1 => do
    match (← peek).token with
    | .newline =>
      let _ ← next
      skipLines n
    | _ => return ()

def skipEnds : Nat → Read Unit
  | 0 => return ()
  | n + 1 => do
    match (← peek).token with
    | .newline | .sign ";" =>
      let _ ← next
      skipEnds n
    | _ => return ()

def name : Read String := do
  match (← peek).token with
  | .name s =>
    let _ ← next
    return s
  | _ => fail

/-- Notes that a name is used as a table. -/
def noteTable (s : String) : Read Unit :=
  modify fun d => { d with tables := s :: d.tables }

def tableName : Read String := do
  let s ← name
  noteTable s
  return s

end Read

open Awk.Read

/-- Whether an expression can be assigned to. -/
def Expr.isTarget : Expr → Bool
  | .var _ | .element _ _ | .field _ => true
  | _ => false

def assignment? : Token → Option (Option Operator)
  | .sign "=" => some none
  | .sign "+=" => some (some .add)
  | .sign "-=" => some (some .sub)
  | .sign "*=" => some (some .mul)
  | .sign "/=" => some (some .div)
  | .sign "%=" => some (some .rem)
  | .sign "^=" | .sign "**=" => some (some .power)
  | _ => none

def comparison? : Token → Option Comparison
  | .sign "<" => some .less
  | .sign "<=" => some .lessEqual
  | .sign "==" => some .equal
  | .sign "!=" => some .unequal
  | .sign ">" => some .greater
  | .sign ">=" => some .greaterEqual
  | _ => none

/-- Whether a token may begin the second part of a concatenation. -/
def startsOperand : Token → Bool
  | .number _ | .text _ | .regex _ | .name _ | .called _ | .standard _ => true
  | .sign s => s == "$" || s == "(" || s == "++" || s == "--" || s == "!"
  | _ => false

/-- How many arguments a function that every program has may be given. -/
def arity (name : String) : Nat × Nat :=
  match name with
  | "length" => (0, 1)
  | "substr" => (2, 3)
  | "index" => (2, 2)
  | "split" => (2, 3)
  | "sub" | "gsub" => (2, 3)
  | "match" => (2, 2)
  | "sprintf" => (1, 1000)
  | "atan2" => (2, 2)
  | "rand" | "systime" => (0, 0)
  | "srand" => (0, 1)
  | "fflush" => (0, 1)
  | "strftime" => (0, 3)
  | _ => (1, 1)

mutual

/-- Reads an expression.  `inPrint` says that a greater sign and a bar are not part of it. -/
def readExpr : Nat → Bool → Read Expr
  | 0, _ => fail
  | n + 1, inPrint => do
    let test ← readEither n inPrint
    if ← takes "?" then
      skipLines n
      let a ← readExpr n inPrint
      skipLines n
      expect ":"
      skipLines n
      return .choice test a (← readExpr n inPrint)
    else return test

def readEither : Nat → Bool → Read Expr
  | 0, _ => fail
  | n + 1, inPrint => do
    let first ← readBoth n inPrint
    readEitherRest n inPrint first

/-- Reads the alternatives behind the first. -/
def readEitherRest : Nat → Bool → Expr → Read Expr
  | 0, _, e => return e
  | n + 1, inPrint, e => do
    if ← takes "||" then
      skipLines n
      readEitherRest n inPrint (.either e (← readBoth n inPrint))
    else return e

def readBoth : Nat → Bool → Read Expr
  | 0, _ => fail
  | n + 1, inPrint => do
    let first ← readMember n inPrint
    readBothRest n inPrint first

/-- Reads the conditions behind the first. -/
def readBothRest : Nat → Bool → Expr → Read Expr
  | 0, _, e => return e
  | n + 1, inPrint, e => do
    if ← takes "&&" then
      skipLines n
      readBothRest n inPrint (.both e (← readMember n inPrint))
    else return e

/-- Reads what may be looked for in tables. -/
def readMember : Nat → Bool → Read Expr
  | 0, _ => fail
  | n + 1, inPrint => do
    let first ← readMatching n inPrint
    readMemberRest n first

/-- Reads the tables in which something is looked for. -/
def readMemberRest : Nat → Expr → Read Expr
  | 0, e => return e
  | n + 1, e => do
    if ← seesWord "in" then
      let _ ← next
      let table ← tableName
      readMemberRest n (.member (match e with
        | .tuple es => es
        | e => [e]) table)
    else return e

def readMatching : Nat → Bool → Read Expr
  | 0, _ => fail
  | n + 1, inPrint => do
    let first ← readCompared n inPrint
    readMatchingRest n inPrint first

/-- Reads the expressions that something is matched with. -/
def readMatchingRest : Nat → Bool → Expr → Read Expr
  | 0, _, e => return e
  | n + 1, inPrint, e => do
    if ← takes "~" then readMatchingRest n inPrint (.matching false e (← readCompared n inPrint))
    else if ← takes "!~" then readMatchingRest n inPrint (.matching true e (← readCompared n inPrint))
    else return e

def readCompared : Nat → Bool → Read Expr
  | 0, _ => fail
  | n + 1, inPrint => do
    let first ← readJoined n inPrint
    readComparedRest n inPrint first

def readComparedRest : Nat → Bool → Expr → Read Expr
  | 0, _, e => return e
  | n + 1, inPrint, e => do
    match comparison? (← peek).token with
    | none => return e
    | some c =>
      if inPrint && c == .greater then return e
      else
        let _ ← next
        readComparedRest n inPrint (.compare c e (← readJoined n inPrint))

def readJoined : Nat → Bool → Read Expr
  | 0, _ => fail
  | n + 1, inPrint => do
    let first ← readSum n inPrint true
    readJoinedRest n inPrint first

/-- Reads the texts behind the first. -/
def readJoinedRest : Nat → Bool → Expr → Read Expr
  | 0, _, e => return e
  | n + 1, inPrint, e => do
    if startsOperand (← peek).token then readJoinedRest n inPrint (.concat e (← readSum n inPrint false))
    else return e

/-- Reads a sum; `assigns` says that it may be an assignment. -/
def readSum : Nat → Bool → Bool → Read Expr
  | 0, _, _ => fail
  | n + 1, inPrint, assigns => do
    let first ← readProduct n inPrint assigns
    readSumRest n inPrint first

/-- Reads the summands behind the first. -/
def readSumRest : Nat → Bool → Expr → Read Expr
  | 0, _, e => return e
  | n + 1, inPrint, e => do
    if ← takes "+" then readSumRest n inPrint (.binary .add e (← readProduct n inPrint false))
    else if ← takes "-" then readSumRest n inPrint (.binary .sub e (← readProduct n inPrint false))
    else return e

def readProduct : Nat → Bool → Bool → Read Expr
  | 0, _, _ => fail
  | n + 1, inPrint, assigns => do
    let first ← readSigned n inPrint assigns
    readProductRest n inPrint first

/-- Reads the factors behind the first. -/
def readProductRest : Nat → Bool → Expr → Read Expr
  | 0, _, e => return e
  | n + 1, inPrint, e => do
    if ← takes "*" then readProductRest n inPrint (.binary .mul e (← readSigned n inPrint false))
    else if ← takes "/" then readProductRest n inPrint (.binary .div e (← readSigned n inPrint false))
    else if ← takes "%" then readProductRest n inPrint (.binary .rem e (← readSigned n inPrint false))
    else return e

def readSigned : Nat → Bool → Bool → Read Expr
  | 0, _, _ => fail
  | n + 1, inPrint, assigns => do
    if ← takes "!" then return .not (← readSigned n inPrint false)
    else if ← takes "-" then return .negate (← readSigned n inPrint false)
    else if ← takes "+" then return .plus (← readSigned n inPrint false)
    else
      let base ← readPlain n inPrint assigns true
      if (← sees "^") then
        let _ ← next
        return .binary .power base (← readSigned n inPrint false)
      else return base

/-- Reads an expression without operators, with what may stand behind it; `assigns` says
that it may be assigned to, and `pipes` that lines may be read from it. -/
def readPlain : Nat → Bool → Bool → Bool → Read Expr
  | 0, _, _, _ => fail
  | n + 1, inPrint, assigns, pipes => do
    let e ← readAtom n inPrint
    let e ← do
      if !e.isTarget then pure e
      else if ← takes "++" then pure (.step e true false)
      else if ← takes "--" then pure (.step e false false)
      else pure e
    if e.isTarget && assigns then
      match assignment? (← peek).token with
      | some op =>
        let _ ← next
        skipLines n
        return .assign e op (← readExpr n inPrint)
      | none => readPipes n inPrint e
    else if pipes then readPipes n inPrint e
    else return e

/-- Reads the readings of lines from the command that was read. -/
def readPipes : Nat → Bool → Expr → Read Expr
  | 0, _, e => return e
  | n + 1, inPrint, e => do
    let d ← get
    match d.rest with
    | ⟨.sign "|", _⟩ :: ⟨.word "getline", _⟩ :: _ =>
      let _ ← next
      let _ ← next
      let target ← readTarget? n inPrint
      readPipes n inPrint (.readLine .command (some e) target)
    | _ => return e

/-- Reads what a line is read into, if anything is named. -/
def readTarget? : Nat → Bool → Read (Option Expr)
  | 0, _ => return none
  | n + 1, inPrint => do
    match (← peek).token with
    | .name _ | .sign "$" => return some (← readAtom n inPrint)
    | _ => return none

/-- Reads an expression that is not made with operators behind it. -/
def readAtom : Nat → Bool → Read Expr
  | 0, _ => fail
  | n + 1, inPrint => do
    match (← peek).token with
    | .number x =>
      let _ ← next
      return .number x
    | .text s =>
      let _ ← next
      return .text s
    | .regex s =>
      let _ ← next
      return .regex s
    | .name s =>
      let _ ← next
      if ← takes "[" then
        noteTable s
        let es ← readList n
        expect "]"
        return .element s es
      else return .var s
    | .called s =>
      let _ ← next
      modify fun d => { d with calls := s :: d.calls }
      expect "("
      skipLines n
      let args : List Expr ← if ← sees ")" then pure [] else readList n
      expect ")"
      let bare := (args.zip (List.range args.length)).filterMap fun (e, i) => match e with
        | .var v => some (v, s, i)
        | _ => none
      modify fun d => { d with passed := bare ++ d.passed }
      return .call s args
    | .standard s =>
      let _ ← next
      if ← takes "(" then
        skipLines n
        let args : List Expr ← if ← sees ")" then pure [] else readList n
        expect ")"
        let (least, most) := arity s
        if args.length < least || most < args.length then
          complain ("wrong number of arguments in call to " ++ s)
        match s, args with
        | "split", _ :: .var v :: _ => noteTable v
        | _, _ => pure ()
        return .standard s (some args)
      else if s = "length" then return .standard s none
      else fail
    | .word "getline" =>
      let _ ← next
      let target ← readTarget? n inPrint
      if ← takes "<" then return .readLine .file (some (← readPlain n inPrint false false)) target
      else return .readLine .records none target
    | .sign "$" =>
      let _ ← next
      if ← takes "++" then return .field (.step (← readAtom n inPrint) true true)
      else if ← takes "--" then return .field (.step (← readAtom n inPrint) false true)
      else if ← takes "-" then return .field (.negate (← readAtom n inPrint))
      else return .field (← readAtom n inPrint)
    | .sign "++" =>
      let _ ← next
      let e ← readAtom n inPrint
      if e.isTarget then return .step e true true else fail
    | .sign "--" =>
      let _ ← next
      let e ← readAtom n inPrint
      if e.isTarget then return .step e false true else fail
    | .sign "(" =>
      let _ ← next
      skipLines n
      let es ← readList n
      skipLines n
      expect ")"
      match es with
      | [e] => return e
      | es => return .tuple es
    | .sign "-" =>
      let _ ← next
      return .negate (← readAtom n inPrint)
    | .sign "!" =>
      let _ ← next
      return .not (← readAtom n inPrint)
    | _ => fail

/-- Reads expressions with commas between them. -/
def readList : Nat → Read (List Expr)
  | 0 => fail
  | n + 1 => do
    let e ← readExpr n false
    if ← takes "," then
      skipLines n
      return e :: (← readList n)
    else return [e]

end

/-! ## Statements -/

/-- Reads the arguments of an output, up to a sign that ends them. -/
def readOutputs : Nat → Read (List Expr)
  | 0 => fail
  | n + 1 => do
    let e ← readExpr n true
    if ← takes "," then
      skipLines n
      return e :: (← readOutputs n)
    else return [e]

def endsStatement : Read Bool := do
  match (← peek).token with
  | .newline | .finish | .sign ";" | .sign "\x7d" => return true
  | _ => return false

def finishStatement : Read Unit := do
  match (← peek).token with
  | .newline | .sign ";" =>
    let _ ← next
  | .finish | .sign "\x7d" => return ()
  | _ => fail

/-- Reads the arguments of an output and where it goes. -/
def readOutput (n : Nat) : Read (List Expr × Option (OutputKind × Expr)) := do
  let isBare ← do
    match (← peek).token with
    | .sign ">" | .sign ">>" | .sign "|" => pure true
    | _ => endsStatement
  let args ← if isBare then pure [] else readOutputs n
  let args := match args with
    | [.tuple es] => es
    | args => args
  let kind : Option OutputKind := match (← peek).token with
    | .sign ">" => some .fresh
    | .sign ">>" => some .extend
    | .sign "|" => some .command
    | _ => none
  match kind with
  | none => return (args, none)
  | some kind =>
    let _ ← next
    return (args, some (kind, ← readExpr n true))

/-- Reads a statement that holds no other. -/
def readSimple (n : Nat) : Read Stmt := do
  match (← peek).token with
  | .word "print" =>
    let _ ← next
    let (args, goal) ← readOutput n
    return .print args goal
  | .word "printf" =>
    let _ ← next
    let (args, goal) ← readOutput n
    if args.isEmpty then fail
    return .format args goal
  | .word "next" =>
    if !(← get).inRule then complain "improper use of next"
    let _ ← next
    return .next
  | .word "nextfile" =>
    if !(← get).inRule then complain "improper use of nextfile"
    let _ ← next
    return .nextFile
  | .word "exit" =>
    let _ ← next
    if ← endsStatement then return .exit none else return .exit (some (← readExpr n false))
  | .word "return" =>
    if !(← get).inFunction then complain "return outside function body"
    let _ ← next
    if ← endsStatement then return .answer none else return .answer (some (← readExpr n false))
  | .word "break" =>
    if (← get).loops = 0 then complain "break statement outside of loop"
    let _ ← next
    return .leave
  | .word "continue" =>
    if (← get).loops = 0 then complain "continue statement outside of loop"
    let _ ← next
    return .again
  | .word "delete" =>
    let _ ← next
    let table ← tableName
    if ← takes "[" then
      let es ← readList n
      expect "]"
      return .forget table (some es)
    else return .forget table none
  | _ => return .expr (← readExpr n false)

def inLoop {α : Type} (body : Read α) : Read α := do
  modify fun d => { d with loops := d.loops + 1 }
  let a ← body
  modify fun d => { d with loops := d.loops - 1 }
  return a

mutual

def readStmt : Nat → Read Stmt
  | 0 => fail
  | n + 1 => do
    match (← peek).token with
    | .sign "\x7b" => readBlock n
    | .sign ";" =>
      let _ ← next
      return .nothing
    | .word "if" =>
      let _ ← next
      expect "("
      let test ← readExpr n false
      expect ")"
      skipLines n
      let whenTrue ← readStmt n
      let d ← get
      skipEnds n
      if ← seesWord "else" then
        let _ ← next
        skipLines n
        return .choose test whenTrue (← readStmt n)
      else
        set d
        return .choose test whenTrue .nothing
    | .word "while" =>
      let _ ← next
      expect "("
      let test ← readExpr n false
      expect ")"
      if ← takes ";" then return .loop test .nothing
      else
        skipLines n
        return .loop test (← inLoop (readStmt n))
    | .word "do" =>
      let _ ← next
      skipLines n
      let body ← inLoop (readStmt n)
      skipEnds n
      if !(← seesWord "while") then fail
      let _ ← next
      expect "("
      let test ← readExpr n false
      expect ")"
      finishStatement
      return .loopAfter body test
    | .word "for" =>
      let _ ← next
      expect "("
      let d ← get
      match d.rest with
      | ⟨.name v, _⟩ :: ⟨.word "in", _⟩ :: ⟨.name table, _⟩ :: ⟨.sign ")", _⟩ :: _ =>
        noteTable table
        for _ in [0, 1, 2, 3] do
          let _ ← next
        skipLines n
        return .forEach v table (← inLoop (readStmt n))
      | _ =>
        let start ← if ← sees ";" then pure Stmt.nothing else readSimple n
        expect ";"
        skipLines n
        let test ← if ← sees ";" then pure none else some <$> readExpr n false
        expect ";"
        skipLines n
        let step ← if ← sees ")" then pure Stmt.nothing else readSimple n
        expect ")"
        if ← takes ";" then return .counted start test step .nothing
        else
          skipLines n
          return .counted start test step (← inLoop (readStmt n))
    | _ =>
      let s ← readSimple n
      finishStatement
      return s

def readBlock : Nat → Read Stmt
  | 0 => fail
  | n + 1 => do
    expect "\x7b"
    skipEnds n
    let body ← readStmts n
    expect "\x7d"
    return .block body

/-- Reads statements up to the end of a block. -/
def readStmts : Nat → Read (List Stmt)
  | 0 => fail
  | n + 1 => do
    skipEnds n
    if ← sees "\x7d" then return []
    else
      let s ← readStmt n
      return s :: (← readStmts n)

end

/-! ## Programs -/

/-- Reads names with commas between them. -/
def readNames : Nat → Read (List String)
  | 0 => fail
  | n + 1 => do
    let s ← name
    if ← takes "," then
      skipLines n
      return s :: (← readNames n)
    else return [s]

/-- Reads the action of a rule, if there is one. -/
def readAction (n : Nat) (inRule : Bool) : Read (Option Stmt) := do
  if ← sees "\x7b" then
    modify fun d => { d with inRule := inRule }
    let body ← readBlock n
    modify fun d => { d with inRule := false }
    return some body
  else return none

def readParts : Nat → Program → Read Program
  | 0, p => return p
  | n + 1, p => do
    skipEnds n
    let addRule (pattern : Pattern) (action : Option Stmt) : Read Program :=
      readParts n { p with rules := p.rules ++ [{ pattern := pattern, action := action }] }
    match (← peek).token with
    | .finish => return p
    | .word "BEGIN" =>
      let _ ← next
      match ← readAction n false with
      | none => fail
      | action => addRule .start action
    | .word "END" =>
      let _ ← next
      match ← readAction n false with
      | none => fail
      | action => addRule .finish action
    | .word "function" =>
      let _ ← next
      let name ← match (← peek).token with
        | .name s | .called s =>
          let _ ← next
          pure s
        | _ => fail
      expect "("
      let parameters ← if ← sees ")" then pure [] else readNames n
      expect ")"
      skipLines n
      modify fun d => { d with inFunction := true, tables := [], passed := [] }
      let body ← readBlock n
      let d ← get
      set { d with inFunction := false }
      readParts n { p with functions := p.functions ++ [⟨name, parameters, body, d.tables, d.passed⟩] }
    | .sign "\x7b" => addRule .always (← readAction n true)
    | _ =>
      let first ← readExpr n false
      if ← takes "," then
        skipLines n
        let last ← readExpr n false
        addRule (.range first last) (← readAction n true)
      else
        let action ← readAction n true
        if action.isNone && !(← endsStatement) then fail
        addRule (.test first) action

/-- The functions with the names that they use as tables because they give them to functions
which do so. -/
def withPassedTables : Nat → List Function → List Function
  | 0, fs => fs
  | n + 1, fs =>
    withPassedTables n (fs.map fun f =>
      let more := f.passed.filterMap fun (v, callee, i) =>
        match fs.find? fun g => g.name == callee with
        | some g => if (g.parameters[i]?).any g.tables.contains then some v else none
        | none => none
      { f with tables := more ++ f.tables })

def readProgram (s : String) : Except String Program := do
  let tokens ← tokensOf s
  let (p, d) ← (readParts (40 * tokens.length + 200) {}).run { rest := tokens }
  match d.calls.reverse.find? fun name => !(p.functions.any fun f => f.name == name) with
  | some name =>
    .error ("line " ++ Nat.repr ((tokens.getLast?.map Placed.line).getD 1) ++ ": function " ++ name ++
      " never defined")
  | none => .ok { p with functions := withPassedTables p.functions.length p.functions }

end SpeechConfig.Shell.Awk
