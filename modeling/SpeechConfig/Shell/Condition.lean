/-
# Conditions

What the tests of words, numbers and files say, in single brackets and in double ones.
-/
import SpeechConfig.Shell.Expansion
import SpeechConfig.Shell.Regex.Read

namespace SpeechConfig.Shell

/-! ## Files -/

/-- What stands at a path; links are followed if asked for. -/
def nodeAt? (follow : Bool) (path : String) : Act (Option (Location × Node)) := do
  match (← Act.files).walk (if follow then .follow else .keep) (pathOf path) with
  | .ok (.present l n) => return some (l, n)
  | _ => return none

/-- Whether a path names a device or an open stream. -/
def isDevicePath (path : String) : Act Bool := do
  match Act.deviceStream? path with
  | some n => return ((← Act.process).streams.lookup n).isSome
  | none => return ((Act.device? path).isSome)

/-- Whether somebody may start what stands at a place. -/
def isExecutable (l : Location) (n : Node) : Act Bool := do
  match n with
  | .directory => return true
  | n => return (← Act.modeOf l n) &&& 73 ≠ 0

def fileTest? (letter : Char) (path : String) : Act (Option Bool) := do
  let here ← nodeAt? true path
  let isDevice ← isDevicePath path
  let onFile (p : Location → Node → Act Bool) : Act (Option Bool) := do
    match here with
    | some (l, n) => return some (← p l n)
    | none => return some false
  let hasBit (bit : Nat) : Act (Option Bool) :=
    onFile fun l n => do return (← Act.modeOf l n) &&& bit ≠ 0
  match letter with
  | 'a' | 'e' => return some (here.isSome || isDevice)
  | 'f' => onFile fun _ n => return match n with
    | .file _ => true
    | _ => false
  | 'd' => onFile fun _ n => return match n with
    | .directory => true
    | _ => false
  | 's' => onFile fun _ n => return match n with
    | .file content => content.size > 0
    | _ => true
  | 'r' | 'w' => return some (here.isSome || isDevice)
  | 'O' | 'G' => return some (here.isSome || isDevice)
  | 'x' => onFile isExecutable
  | 'h' | 'L' =>
    match ← nodeAt? false path with
    | some (_, .link _) => return some true
    | _ => return some false
  | 'c' => return some isDevice
  | 'u' => hasBit 2048
  | 'g' => hasBit 1024
  | 'k' => hasBit 512
  | 'N' => return some here.isSome
  | 'b' | 'p' | 'S' => return some false
  | _ => return none

/-- Whether a variable has a value, or a part of it at a subscript. -/
def isSetVariable (x : Executor) (reference : String) : Act Bool := do
  let (name, subscript) := referenceOf reference
  let e ← expandedOf x name subscript
  return e.isSet

def unaryTest? (x : Executor) (operator operand : String) : Act (Option Bool) := do
  match operator.toList with
  | ['-', 'n'] => return some (!operand.isEmpty)
  | ['-', 'z'] => return some operand.isEmpty
  | ['-', 't'] => return some false
  | ['-', 'v'] => return some (← isSetVariable x operand)
  | ['-', 'R'] => return some (((← Act.knownVariable? operand).map Variable.refers).getD false)
  | ['-', 'o'] => return some (← Act.hasOption operand)
  | ['-', letter] => fileTest? letter operand
  | _ => return none

/-- A whole number with blanks around it. -/
def plainNumber? (s : String) : Option Int :=
  let cs := s.toList.dropWhile isSpace
  let cs := (cs.reverse.dropWhile isSpace).reverse
  match integerOf? (String.ofList cs) with
  | some n => if (Nat.pow 2 63 : Nat) ≤ n ∨ n < -(Nat.pow 2 63 : Nat) then none else some n
  | none => none

def compareNumbers (operator : String) (a b : Int) : Bool :=
  match operator with
  | "-eq" => a = b
  | "-ne" => a ≠ b
  | "-lt" => a < b
  | "-le" => a ≤ b
  | "-gt" => a > b
  | _ => a ≥ b

def numberOperators : List String := ["-eq", "-ne", "-lt", "-le", "-gt", "-ge"]

def compareFiles (operator a b : String) : Act Bool := do
  let left ← nodeAt? true a
  let right ← nodeAt? true b
  match operator, left, right with
  | "-ef", some (l, _), some (m, _) => return l == m
  | "-nt", some (l, _), some (m, _) => return (← Act.timeOf m) < (← Act.timeOf l)
  | "-ot", some (l, _), some (m, _) => return (← Act.timeOf l) < (← Act.timeOf m)
  | "-nt", some _, none => return true
  | "-ot", none, some _ => return true
  | _, _, _ => return false

/-! ## Single brackets -/

/-- A reader of the words of a test: the words that are left, and the one before them. -/
abbrev TestRead (α : Type) := StateT (List String) (ExceptT String Act) α

def refuseTest {α : Type} (message : String) : TestRead α :=
  throw message

/-- The operators of one word in single brackets. -/
def isUnaryOperator (s : String) : Bool :=
  match s.toList with
  | ['-', c] => "abcdefghkLnNoOpGrRsStuvwxz".toList.contains c
  | _ => false

/-- The operators of two words in single brackets. -/
def isBinaryOperator (s : String) : Bool :=
  ["=", "==", "!=", "<", ">", "-nt", "-ot", "-ef"].contains s || numberOperators.contains s

/-- Compares two words in single brackets. -/
def binaryTest (operator a b : String) : TestRead Bool := do
  if numberOperators.contains operator then
    match plainNumber? a, plainNumber? b with
    | some m, some n => return compareNumbers operator m n
    | none, _ => refuseTest (a ++ ": integer expression expected")
    | _, none => refuseTest (b ++ ": integer expression expected")
  else match operator with
  | "=" | "==" => return a == b
  | "!=" => return a != b
  | "<" => return a < b
  | ">" => return b < a
  | _ => (compareFiles operator a b : Act Bool)

/-- A test of one word in single brackets. -/
def unaryTest (x : Executor) (operator a : String) : TestRead Bool := do
  if operator = "-t" && (plainNumber? a).isNone then
    refuseTest (a ++ ": integer expression expected")
  else return ((← (unaryTest? x operator a : Act _)).getD false)

mutual

/-- Reads tests joined by `-o`. -/
def testEither (x : Executor) : Nat → TestRead Bool
  | 0 => refuseTest "argument expected"
  | n + 1 => do
    let a ← testBoth x n
    match ← get with
    | "-o" :: rest =>
      set rest
      let b ← testEither x n
      return a || b
    | _ => return a

/-- Reads tests joined by `-a`. -/
def testBoth (x : Executor) : Nat → TestRead Bool
  | 0 => refuseTest "argument expected"
  | n + 1 => do
    let a ← testTerm x n
    match ← get with
    | "-a" :: rest =>
      set rest
      let b ← testBoth x n
      return a && b
    | _ => return a

def testTerm (x : Executor) : Nat → TestRead Bool
  | 0 => refuseTest "argument expected"
  | n + 1 => do
    match ← get with
    | [] => refuseTest "argument expected"
    | "!" :: rest =>
      set rest
      if rest.isEmpty then refuseTest "argument expected"
      else return !(← testTerm x n)
    | "(" :: rest =>
      set rest
      if rest.isEmpty then refuseTest "argument expected"
      let value ← testEither x n
      match ← get with
      | ")" :: rest =>
        set rest
        return value
      | w :: _ => refuseTest ("\x60)' expected, found " ++ w)
      | [] => refuseTest "\x60)' expected"
    | a :: op :: b :: rest =>
      if isBinaryOperator op then
        set rest
        binaryTest op a b
      else if isUnaryOperator a then
        set (b :: rest)
        unaryTest x a op
      else
        set (op :: b :: rest)
        return !a.isEmpty
    | [a, b] =>
      if isUnaryOperator a then
        set ([] : List String)
        unaryTest x a b
      else
        set [b]
        return !a.isEmpty
    | [a] =>
      set ([] : List String)
      return !a.isEmpty

end

/-- What words in single brackets say. -/
def testWords (x : Executor) (words : List String) : TestRead Bool := do
  let two (a b : String) : TestRead Bool := do
    if a = "!" then return b.isEmpty
    else if isUnaryOperator a then unaryTest x a b
    else refuseTest (a ++ ": unary operator expected")
  let three (a op b : String) : TestRead Bool := do
    if isBinaryOperator op then binaryTest op a b
    else if op = "-a" then return !a.isEmpty && !b.isEmpty
    else if op = "-o" then return !a.isEmpty || !b.isEmpty
    else if a = "!" then return !(← two op b)
    else if a = "(" && b = ")" then return !op.isEmpty
    else refuseTest (op ++ ": binary operator expected")
  let whole : TestRead Bool := do
    set words
    let value ← testEither x (3 * words.length + 3)
    match ← get with
    | [] => return value
    | w :: _ =>
      if w.startsWith "-" then refuseTest ("syntax error: \x60" ++ w ++ "' unexpected")
      else refuseTest "too many arguments"
  match words with
  | [] => return false
  | [a] => return !a.isEmpty
  | [a, b] => two a b
  | [a, b, c] => three a b c
  | [a, b, c, d] =>
    if a = "!" then return !(← three b c d)
    else if a = "(" && d = ")" then two b c
    else whole
  | _ => whole

/-! ## Single brackets in the small language -/

/-- A whole number as the small language reads it. -/
def smallNumber (s : String) : TestRead Int := do
  match plainNumber? s with
  | some n => return n
  | none => refuseTest ("Illegal number: " ++ s)

/-- The operators of one word in the small language. -/
def isSmallUnary (s : String) : Bool :=
  match s.toList with
  | ['-', c] => "bcdefghkLnOGprsStuwxz".toList.contains c
  | _ => false

/-- The operators of two words in the small language. -/
def isSmallBinary (s : String) : Bool :=
  s != "==" && isBinaryOperator s

/-- Compares two words in the small language. -/
def smallBinary (operator a b : String) : TestRead Bool := do
  if numberOperators.contains operator then
    let m ← smallNumber a
    let n ← smallNumber b
    return compareNumbers operator m n
  else binaryTest operator a b

/-- A test of one word in the small language. -/
def smallUnary (x : Executor) (operator a : String) : TestRead Bool := do
  if operator = "-t" then let _ ← smallNumber a
  return ((← (unaryTest? x operator a : Act _)).getD false)

mutual

/-- Reads tests joined by `-o`. -/
def smallEither (x : Executor) : Nat → TestRead Bool
  | 0 => refuseTest "argument expected"
  | n + 1 => do
    let a ← smallBoth x n
    match ← get with
    | "-o" :: rest =>
      set rest
      let b ← smallEither x n
      return a || b
    | _ => return a

/-- Reads tests joined by `-a`. -/
def smallBoth (x : Executor) : Nat → TestRead Bool
  | 0 => refuseTest "argument expected"
  | n + 1 => do
    let a ← smallTerm x n
    match ← get with
    | "-a" :: rest =>
      set rest
      let b ← smallBoth x n
      return a && b
    | _ => return a

def smallTerm (x : Executor) : Nat → TestRead Bool
  | 0 => refuseTest "argument expected"
  | n + 1 => do
    match ← get with
    | [] => return false
    | ["!"] =>
      set ([] : List String)
      return true
    | "!" :: rest =>
      set rest
      return !(← smallTerm x n)
    | "(" :: ")" :: rest =>
      set rest
      return false
    | "(" :: b :: rest =>
      set (b :: rest)
      let value ← smallEither x n
      match ← get with
      | ")" :: rest =>
        set rest
        return value
      | _ => refuseTest "closing paren expected"
    | a :: op :: b :: rest =>
      if isSmallBinary op then
        set rest
        smallBinary op a b
      else if isSmallUnary a then
        set (b :: rest)
        smallUnary x a op
      else
        set (op :: b :: rest)
        return !a.isEmpty
    | [a, b] =>
      if isSmallUnary a then
        set ([] : List String)
        smallUnary x a b
      else if isSmallBinary b then refuseTest (b ++ ": argument expected")
      else
        set [b]
        return !a.isEmpty
    | [a] =>
      set ([] : List String)
      return !a.isEmpty

end

/-- What words say that no rule for their number settles; if some are left over, the last
one that was read is blamed. -/
def smallWords (x : Executor) (words : List String) : TestRead Bool := do
  set words
  let value ← smallEither x (3 * words.length + 3)
  let rest ← get
  if rest.isEmpty then return value
  else refuseTest ((words[words.length - rest.length - 1]?).getD "" ++ ": unexpected operator")

/-- What three words in single brackets say in the small language. -/
def smallThree (x : Executor) (a op b : String) : TestRead Bool := do
  if isSmallBinary op then smallBinary op a b
  else if a = "(" && b = ")" then smallWords x [op]
  else if a = "!" then return !(← smallWords x [op, b])
  else smallWords x [a, op, b]

/-- What words in single brackets say in the small language. -/
def smallTestWords (x : Executor) (words : List String) : TestRead Bool := do
  match words with
  | [] => return false
  | [a, op, b] => smallThree x a op b
  | [a, b, c, d] =>
    if a = "(" && d = ")" then smallWords x [b, c]
    else if a = "!" then return !(← smallThree x b c d)
    else smallWords x words
  | words => smallWords x words

/-! ## Double brackets -/

/-- Marks as a regular expression in which quoted characters stand for themselves. -/
def expressionOfMarks (ms : List Mark) : String :=
  String.ofList (ms.flatMap fun m =>
    if m.quoted && "\\^$.|?*+()[]\x7b\x7d".toList.contains m.char then ['\\', m.char] else [m.char])

/-- Matches a word against a regular expression, and keeps what its groups matched; the
status is two if it is none. -/
def matchExpression (subject : String) (ms : List Mark) : Act Nat := do
  let style : RegexStyle := 
    { extended := true, looseClosers := true, ignoreCase := ← Act.hasSwitch "nocasematch" }
  match Regex.ofText style (expressionOfMarks ms) with
  | .error _ => return 2
  | .ok (r, count) =>
    let t := Subject.ofText subject
    match r.search? t 0 with
    | none =>
      Act.putVariable "BASH_REMATCH" { value := .list [] }
      return 1
    | some m =>
      let texts := (List.range (count + 1)).map fun i => (i, m.groupText t i)
      Act.putVariable "BASH_REMATCH" { value := .list texts }
      return 0

/-- The status that a condition gives, and what the trace shows of it. -/
def conditionStatus (x : Executor) (report : String → Act Unit) : Condition → Act Nat
  | .grouped c => conditionStatus x report c
  | .negated c => do
    return if (← conditionStatus x report c) = 0 then 1 else 0
  | .both a b => do
    let first ← conditionStatus x report a
    if first = 0 then conditionStatus x report b else return first
  | .either a b => do
    let first ← conditionStatus x report a
    if first = 0 then return first else conditionStatus x report b
  | .word w => do
    let s ← textOfWord x w
    report ("-n " ++ traced s)
    return if s.isEmpty then 1 else 0
  | .unary operator w => do
    let s ← textOfWord x w
    report (operator ++ " " ++ traced s)
    return if (← unaryTest? x operator s).getD false then 0 else 1
  | .binary operator left right => do
    let a ← textOfWord x left
    if operator = "=~" then
      let ms ← marksOfWord x right
      report (traced a ++ " =~ " ++ (if ms.isEmpty then "''" else expressionOfMarks ms))
      matchExpression a ms
    else if numberOperators.contains operator then
      let b ← textOfWord x right
      report (traced a ++ " " ++ operator ++ " " ++ traced b)
      match ← (calculate a).run, ← (calculate b).run with
      | .ok m, .ok n => return if compareNumbers operator m n then 0 else 1
      | .error e, _ | _, .error e =>
        Act.complain ("[[: " ++ e.message)
        return 1
    else
      let ms ← marksOfWord x right
      let b := Mark.text ms
      let shown := String.join (ms.map fun m =>
        if m.quoted then String.ofList ['\\', m.char] else String.singleton m.char)
      report (traced a ++ " " ++ operator ++ " " ++ (if ms.isEmpty then "''" else shown))
      let truth ← match operator with
        | "=" | "==" | "!=" =>
          let style ← globStyle
          let g := Glob.ofMarks { style with groups := true } ms
          pure (Glob.accepts g a.toList == (operator != "!="))
        | "<" => pure (decide (a < b))
        | ">" => pure (decide (b < a))
        | operator => compareFiles operator a b
      return if truth then 0 else 1

end SpeechConfig.Shell
