/-
# Running programs for records

What expressions are worth and what statements do.  Every part takes a bound for its depth,
so that each run ends.
-/
import SpeechConfig.Shell.Calendar
import SpeechConfig.Shell.Format
import SpeechConfig.Shell.Tool.Awk.Grammar
import SpeechConfig.Shell.Tool.Awk.Machine
import SpeechConfig.Shell.Variable

namespace SpeechConfig.Shell.Awk

/-- How a statement came to its end. -/
inductive Outcome where
  | done
  | leave
  | again
  | answer (v : Value)
deriving Inhabited

namespace Run

/-! ## Working with texts and numbers -/

def combine (op : Operator) (x y : Float) : Float :=
  match op with
  | .add => x + y
  | .sub => x - y
  | .mul => x * y
  | .div => x / y
  | .power => x.pow y
  | .rem =>
    if y == 0 || !x.isFinite then 0.0 / 0.0
    else if isWhole x && isWhole y then Float.ofInt (Int.tmod (wholePart x) (wholePart y))
    else
      let q := x / y
      x - y * (if q < 0 then Float.ceil q else Float.floor q)

/-- Compares two values: as numbers if both are, and as texts otherwise. -/
def compare (c : Comparison) (a b : Value) : Run Bool := do
  if a.isNumber && b.isNumber then
    let (x, y) := (a.toNumber, b.toNumber)
    return match c with
      | .less => x < y
      | .lessEqual => x ≤ y
      | .equal => x == y
      | .unequal => x != y
      | .greater => y < x
      | .greaterEqual => y ≤ x
  else
    let s ← text a
    let t ← text b
    return match c with
      | .less => s < t
      | .lessEqual => !(t < s)
      | .equal => s == t
      | .unequal => s != t
      | .greater => t < s
      | .greaterEqual => !(s < t)

def keyOf (vs : List Value) : Run Key := do
  match vs with
  | [.number x] => if isWhole x then return .whole (wholePart x) else return .text (← text (.number x))
  | [v] => return .text (← text v)
  | vs =>
    let parts ← vs.mapM text
    return .text ((← textOf "SUBSEP").intercalate parts)

/-- What replaces a match: an ampersand stands for the match, unless a backslash protects
it. -/
def replacementFor (found : String) : Nat → List Char → List Char
  | 0, _ => []
  | n + 1, cs =>
    match cs with
    | [] => []
    | '\\' :: '&' :: rest => '&' :: replacementFor found n rest
    | '\\' :: '\\' :: rest => '\\' :: replacementFor found n rest
    | '&' :: rest => found.toList ++ replacementFor found n rest
    | c :: rest => c :: replacementFor found n rest

/-- Replaces matches from a place on: the parts in reverse, and how many there were. -/
def replaceFrom (r : Regex) (t : Subject) (new : String) (all : Bool) :
    Nat → Nat → Option Nat → List String → Nat → List String × Nat
  | 0, start, _, acc, count => (String.ofList (t.text.extract start t.text.size).toList :: acc, count)
  | n + 1, start, former, acc, count =>
    let rest (start : Nat) : String := String.ofList (t.text.extract start t.text.size).toList
    if t.text.size < start then (acc, count)
    else match r.search? t start with
      | none => (rest start :: acc, count)
      | some m =>
        let front := String.ofList (t.text.extract start m.start).toList
        let one := String.ofList (t.text.extract m.stop (m.stop + 1)).toList
        if m.stop = m.start && former = some m.start then
          replaceFrom r t new all n (m.stop + 1) none (one :: front :: acc) count
        else
          let changed := String.ofList (replacementFor (m.text t) (new.length + 1) new.toList)
          let acc := changed :: front :: acc
          if !all then (rest m.stop :: acc, count + 1)
          else if m.stop = m.start then replaceFrom r t new all n (m.stop + 1) (some m.stop) (one :: acc) (count + 1)
          else replaceFrom r t new all n m.stop (some m.stop) acc (count + 1)

/-- A part of a text that begins at a place and has a length, both of which may lie outside
of it. -/
def partOf (s : String) (start : Float) (length : Option Float) : String :=
  let first := wholePart (Float.round start)
  let size : Int := s.length
  let stop := match length with
    | none => size + 1
    | some n => if n < 1e15 then wholePart (Float.round (start + n)) else size + 1
  let i := max 1 first
  let j := min (size + 1) stop
  if j ≤ i then "" else takeText (j - i).toNat (dropText (i - 1).toNat s)

/-- The text that a format and values make, and what is wrong with it. -/
def formatted (name : String) (format : String) (vs : List Value) : Run (String × Option String) := do
  let rec go : Nat → List Char → List Value → Nat → List String → Run (String × Option String)
    | 0, _, _, _, acc => return (String.join acc.reverse, none)
    | n + 1, cs, vs, count, acc => do
      let told (message : String) : String × Option String :=
        (String.join acc.reverse, some ("run time error: " ++ message ++ " " ++ name ++ "(\"" ++ format ++ "\")"))
      match cs with
      | [] => return (String.join acc.reverse, none)
      | '%' :: '%' :: rest => go n rest vs count ("%" :: acc)
      | '%' :: rest =>
        let head := takeConversionHead rest
        let after := head.rest.dropWhile fun c => c == 'l' || c == 'h' || c == 'q'
        let short := told "not enough arguments passed to"
        let taken (given : Bool) (vs : List Value) : Option (Option Int × List Value) :=
          if !given then some (none, vs)
          else match vs with
            | v :: vs => some (some (wholePart v.toNumber), vs)
            | [] => none
        match taken head.widthGiven vs with
        | none => return short
        | some (width, vs) =>
          match taken head.precisionGiven vs with
          | none => return short
          | some (precision, vs) =>
            let spec := head.spec
            let spec := match width with
              | some w => { spec with width := w.natAbs, left := spec.left || w < 0 }
              | none => spec
            let spec := match precision with
              | some p => { spec with precision := if p < 0 then none else some p.toNat }
              | none => spec
            match after with
            | [] => return told ("improper conversion(number " ++ Nat.repr (count + 1) ++ ") in")
            | letter :: rest =>
              if !"diouxXcseEfFgGaA".toList.contains letter then
                return told ("improper conversion(number " ++ Nat.repr (count + 1) ++ ") in")
              else match vs with
              | [] => return short
              | v :: vs =>
                let shown ← do
                  if "dioxXu".toList.contains letter then
                    let x := v.toNumber
                    let i : Int := if x.isNaN then -(Nat.pow 2 63 : Nat) else if x ≥ 9223372036854775807.0 then
                      (if "di".toList.contains letter then Nat.pow 2 63 - 1 else wholePart x)
                      else if x ≤ -9223372036854775808.0 then -(Nat.pow 2 63 : Nat) else wholePart x
                    pure (spec.integer letter i)
                  else if letter = 'c' then
                    let s ← match v with
                      | .number x => pure (String.singleton (Char.ofNat ((wholePart x) % 256).toNat))
                      | .unset => pure "\x00"
                      | v =>
                        let s ← text v
                        pure (if s.isEmpty then "\x00" else takeText 1 s)
                    pure (spec.pad s)
                  else if letter = 's' then pure (spec.text (← text v))
                  else pure (spec.floating letter (.ofFloat v.toNumber))
                go n rest vs (count + 1) (shown :: acc)
      | cs =>
        let plain := cs.takeWhile (· != '%')
        go n (cs.drop plain.length) vs count (String.ofList plain :: acc)
  go (format.length + 2) format.toList vs 0 []

/-- Ends the run with a report about the present record. -/
def failAt {α : Type} (message : String) : Run α := do
  let name ← textOf "FILENAME"
  let here ← text (← valueOf "FNR")
  let all ← text (← valueOf "NR")
  fail (message ++ "\n\tFILENAME=\"" ++ name ++ "\" FNR=" ++ here ++ " NR=" ++ all)

def ofNumber? (name : String) (x : Float) : Option Float :=
  match name with
  | "sin" => some x.sin
  | "cos" => some x.cos
  | "exp" => some x.exp
  | "log" => some x.log
  | "sqrt" => some x.sqrt
  | "int" => some (if x < 0 then x.ceil else x.floor)
  | _ => none

/-- How many rounds a loop may take. -/
def roundLimit : Nat := 100000000

/-! ## Expressions and statements -/

mutual

def eval : Nat → Expr → Run Value
  | 0, _ => fail "program limit exceeded"
  | n + 1, e => do
    match e with
    | .number x => return .number x
    | .text s => return .text s
    | .regex s => return .ofBool ((← regexOf s).finds (Subject.ofText (← get).record))
    | .var name => valueOf name
    | .element name es =>
      let i ← tableOf name
      let k ← keyOf (← evalAll n es)
      updateTable i fun t => t.touch k
      return (← table i).value k
    | .field e => field (← placeOf n e)
    | .tuple es =>
      match es with
      | [] => return .unset
      | e :: _ => eval n e
    | .assign target op e =>
      let v ← match op with
        | none => eval n e
        | some op =>
          let v ← eval n e
          pure (.number (combine op (← eval n target).toNumber v.toNumber))
      store n target v
      return v
    | .step target up isFront =>
      let old := (← eval n target).toNumber
      let new := if up then old + 1 else old - 1
      store n target (.number new)
      return .number (if isFront then new else old)
    | .choice test a b => if (← eval n test).isTrue then eval n a else eval n b
    | .both a b =>
      if (← eval n a).isTrue then return .ofBool (← eval n b).isTrue else return .ofBool false
    | .either a b =>
      if (← eval n a).isTrue then return .ofBool true else return .ofBool (← eval n b).isTrue
    | .member es name =>
      let i ← tableOf name
      return .ofBool ((← table i).contains (← keyOf (← evalAll n es)))
    | .matching negated e r =>
      let s ← text (← eval n e)
      let found := (← patternOf n r).finds (Subject.ofText s)
      return .ofBool (found != negated)
    | .compare c a b =>
      let x ← eval n a
      return .ofBool (← compare c x (← eval n b))
    | .concat a b =>
      let s ← text (← eval n a)
      return .text (s ++ (← text (← eval n b)))
    | .binary op a b =>
      let x := (← eval n a).toNumber
      return .number (combine op x (← eval n b).toNumber)
    | .negate e => return .number (-(← eval n e).toNumber)
    | .plus e => return .number (← eval n e).toNumber
    | .not e => return .ofBool !(← eval n e).isTrue
    | .call name args => callFunction n name args
    | .standard name args => callStandard n name args
    | .readLine source from_ target => readLine n source from_ target

def evalAll : Nat → List Expr → Run (List Value)
  | 0, _ => fail "program limit exceeded"
  | _ + 1, [] => return []
  | n + 1, e :: es => do
    let v ← eval n e
    return v :: (← evalAll n es)

def placeOf : Nat → Expr → Run Nat
  | 0, _ => fail "program limit exceeded"
  | n + 1, e => do
    let x := wholePart (← eval n e).toNumber
    if x < 0 then failAt ("run time error: negative field index $" ++ Int.repr x) else return x.toNat

def store : Nat → Expr → Value → Run Unit
  | 0, _, _ => fail "program limit exceeded"
  | n + 1, e, v => do
    match e with
    | .var name => assign name v
    | .field e => setField (← placeOf n e) v
    | .element name es =>
      let i ← tableOf name
      let k ← keyOf (← evalAll n es)
      updateTable i fun t => t.set k v
    | _ => return ()

/-- The expression for texts that something is matched with. -/
def patternOf : Nat → Expr → Run Regex
  | 0, _ => fail "program limit exceeded"
  | n + 1, e => do
    match e with
    | .regex s => regexOf s
    | e => regexOf (← text (← eval n e))

/-- Takes a line as a program asks for it. -/
def readLine : Nat → LineSource → Option Expr → Option Expr → Run Value
  | 0, _, _, _ => fail "program limit exceeded"
  | n + 1, source, from_, target => do
    let keep (s : String) : Run Unit :=
      match target with
      | some t => store n t (.input s)
      | none => setRecord s
    match source with
    | .records =>
      match ← nextRecord 1000000 with
      | none => return .number 0
      | some s =>
        countRecord "NR"
        countRecord "FNR"
        keep s
        return .number 1
    | source =>
      let name ← match from_ with
        | some e => text (← eval n e)
        | none => pure ""
      let rest? ← match (← get).readers.lookup name with
        | some rest => pure (some rest)
        | none =>
          if source == .command then pure (some (← runCommand name none true).1.toList)
          else match ← act (Tool.readInput (if name = "/dev/stdin" then "-" else name)) with
            | .ok s => pure (some s.toList)
            | .error _ => pure none
      match rest? with
      | none => return .number (-1)
      | some rest =>
        let (found, rest) ← match ← takeRecord rest with
          | some (s, rest) => pure (some s, rest)
          | none => pure (none, [])
        modify fun m => { m with readers := (name, rest) :: m.readers.filter fun e => e.1 != name }
        match found with
        | none => return .number 0
        | some s =>
          if source == .command then countRecord "NR"
          keep s
          return .number 1

/-- Calls a function that every program has. -/
def callStandard : Nat → String → Option (List Expr) → Run Value
  | 0, _, _ => fail "program limit exceeded"
  | n + 1, name, args => do
    let es : List Expr := args.getD []
    let third : Option Expr := es[2]?
    let textAt (i : Nat) : Run String := do
      match es[i]? with
      | some e => text (← eval n e)
      | none => return ""
    let numberAt (i : Nat) : Run Float := do
      match es[i]? with
      | some e => return (← eval n e).toNumber
      | none => return 0
    match name with
    | "length" =>
      match es with
      | [] => return .ofNat (← get).record.length
      | [.var v] =>
        let m ← get
        match m.frame.lookup v, m.names[v]? with
        | some (.table i), _ => return .ofNat (← table i).size
        | none, some i => return .ofNat (← table i).size
        | _, _ => return .ofNat (← textAt 0).length
      | _ => return .ofNat (← textAt 0).length
    | "substr" =>
      let s ← textAt 0
      let start ← numberAt 1
      let length ← if es.length > 2 then some <$> numberAt 2 else pure none
      return .text (partOf s start length)
    | "index" =>
      let s ← textAt 0
      let t ← textAt 1
      if t.isEmpty then return .number 1
      else
        let r := Regex.ofLiteral false t
        match r.search? (Subject.ofText s) 0 with
        | some m => return .ofNat (m.start + 1)
        | none => return .number 0
    | "split" =>
      let s ← textAt 0
      let name : String ← match es with
        | _ :: .var v :: _ => pure v
        | _ => fail "line 1: syntax error"
      let parts ← match third with
        | none => split (← textOf "FS") s
        | some (.regex r) =>
          if s.isEmpty then pure []
          else pure (partsBetween (← regexOf r) (Subject.ofText s) (s.length + 2) 0 0)
        | some e => split (← text (← eval n e)) s
      let i ← tableOf name
      updateTable i fun _ =>
        (parts.zip (List.range parts.length)).foldl (fun t p => t.set (.whole (p.2 + 1)) (.input p.1)) {}
      return .ofNat parts.length
    | "sub" | "gsub" =>
      let r ← match es[0]? with
        | some e => patternOf n e
        | none => regexOf ""
      let new ← textAt 1
      let target := third.getD (.field (.number 0))
      let s ← text (← eval n target)
      let (parts, count) := replaceFrom r (Subject.ofText s) new (name == "gsub") (2 * s.length + 3) 0 none [] 0
      if count > 0 then store n target (.text (String.join parts.reverse))
      return .ofNat count
    | "match" =>
      let s ← textAt 0
      let r ← match es[1]? with
        | some e => patternOf n e
        | none => regexOf ""
      match r.search? (Subject.ofText s) 0 with
      | some m =>
        put "RSTART" (.ofNat (m.start + 1))
        put "RLENGTH" (.ofNat (m.stop - m.start))
        return .ofNat (m.start + 1)
      | none =>
        put "RSTART" (.number 0)
        put "RLENGTH" (.number (-1))
        return .number 0
    | "sprintf" =>
      let format ← textAt 0
      let vs ← evalAll n (es.drop 1)
      match ← formatted "sprintf" format vs with
      | (s, none) => return .text s
      | (_, some message) => failAt message
    | "atan2" =>
      let y ← numberAt 0
      return .number (Float.atan2 y (← numberAt 1))
    | "tolower" => return .text (lowered (← textAt 0))
    | "toupper" => return .text (uppered (← textAt 0))
    | "rand" =>
      let seed := ((← get).seed * 1103515245 + 12345) % 2147483648
      modify fun m => { m with seed := seed }
      return .number (Float.ofNat seed / 2147483648.0)
    | "srand" =>
      let old := (← get).seed
      let new ← if es.isEmpty then pure 1 else do pure (wholePart (← numberAt 0)).natAbs
      modify fun m => { m with seed := new }
      return .ofNat old
    | "system" =>
      let command ← textAt 0
      return .ofNat (← runCommand command none false).2
    | "close" => return .number (Float.ofInt (← close (← textAt 0)))
    | "fflush" =>
      flush
      return .number 0
    | "systime" => return .ofNat ((← act Act.world).clock / 1000000)
    | "strftime" =>
      let format ← if es.isEmpty then pure "%c" else textAt 0
      let now ← if es.length > 1 then do pure (wholePart (← numberAt 1))
        else do pure (((← act Act.world).clock / 1000000 : Nat) : Int)
      return .text ((Moment.ofSeconds now).shown 0 format.toList)
    | "mktime" => return .number (-1)
    | name =>
      let x ← numberAt 0
      return .number ((ofNumber? name x).getD 0)

def callFunction : Nat → String → List Expr → Run Value
  | 0, _, _ => fail "program limit exceeded"
  | n + 1, name, args => do
    match (← get).program.functions.find? fun f => f.name == name with
    | none => fail ("line 1: function " ++ name ++ " never defined")
    | some f =>
      let frame ← bind n f f.parameters args
      let former := (← get).frame
      modify fun m => { m with frame := frame }
      let outcome ← exec n f.body
      modify fun m => { m with frame := former }
      match outcome with
      | .answer v => return v
      | _ => return .unset

/-- Binds parameters to arguments; tables are handed over as they are. -/
def bind : Nat → Function → List String → List Expr → Run (List (String × Local))
  | 0, _, _, _ => fail "program limit exceeded"
  | _ + 1, _, [], _ => return []
  | n + 1, f, p :: ps, args => do
    let wantsTable := f.tables.contains p
    let bound ← match args with
      | [] =>
        if wantsTable then
          let i := (← get).tables.size
          modify fun m => { m with tables := m.tables.push {} }
          pure (Local.table i)
        else pure (Local.value .unset)
      | .var v :: _ =>
        let m ← get
        match m.frame.lookup v, m.names[v]? with
        | some (.table i), _ => pure (Local.table i)
        | none, some i => pure (Local.table i)
        | _, _ => if wantsTable then pure (Local.table (← tableOf v)) else pure (Local.value (← valueOf v))
      | e :: _ => pure (Local.value (← eval n e))
    return (p, bound) :: (← bind n f ps (args.drop 1))

def goalOf : Nat → Option (OutputKind × Expr) → Run (Option (OutputKind × String))
  | 0, _ => fail "program limit exceeded"
  | _ + 1, none => return none
  | n + 1, some (kind, e) => do return some (kind, ← text (← eval n e))

def exec : Nat → Stmt → Run Outcome
  | 0, _ => fail "program limit exceeded"
  | n + 1, s => do
    match s with
    | .nothing => return .done
    | .expr e =>
      let _ ← eval n e
      return .done
    | .print args goal =>
      let vs ← evalAll n args
      let format ← textOf "OFMT"
      let texts := vs.map fun v => match v with
        | .number x => formattedNumber format x
        | v => v.toText format
      let line ← if args.isEmpty then do pure (← get).record
        else do pure ((← textOf "OFS").intercalate texts)
      let goal ← goalOf n goal
      write goal (line ++ (← textOf "ORS"))
      return .done
    | .format args goal =>
      let vs ← evalAll n args
      match vs with
      | [] => return .done
      | v :: vs =>
        let format ← text v
        let goal ← goalOf n goal
        let (s, fault) ← formatted "printf" format vs
        write goal s
        match fault with
        | some message => failAt message
        | none => return .done
    | .block body => execAll n body
    | .choose test whenTrue whenFalse =>
      if (← eval n test).isTrue then exec n whenTrue else exec n whenFalse
    | .loop test body => runLoop n (some test) body .nothing
    | .loopAfter body test =>
      match ← exec n body with
      | .leave => return .done
      | .answer v => return .answer v
      | _ => runLoop n (some test) body .nothing
    | .counted start test step body =>
      let _ ← exec n start
      runLoop n test body step
    | .forEach name table body =>
      let i ← tableOf table
      let (keys, t) := (← Run.table i).keys
      updateTable i fun _ => t
      runEach n name keys body
    | .next => throw .next
    | .nextFile => throw .nextFile
    | .exit e =>
      if let some e := e then
        let x := wholePart (← eval n e).toNumber
        modify fun m => { m with status := (x % 256).toNat }
      throw .exit
    | .leave => return .leave
    | .again => return .again
    | .answer none => return .answer .unset
    | .answer (some e) => return .answer (← eval n e)
    | .forget name none =>
      let i ← tableOf name
      updateTable i fun _ => {}
      return .done
    | .forget name (some es) =>
      let i ← tableOf name
      let k ← keyOf (← evalAll n es)
      updateTable i fun t => t.erase k
      return .done

def execAll : Nat → List Stmt → Run Outcome
  | 0, _ => fail "program limit exceeded"
  | _ + 1, [] => return .done
  | n + 1, s :: ss => do
    match ← exec n s with
    | .done => execAll n ss
    | outcome => return outcome

def runLoop : Nat → Option Expr → Stmt → Stmt → Run Outcome
  | 0, _, _, _ => fail "program limit exceeded"
  | n + 1, test, body, step => do
    act (Act.pass 1)
    let goesOn ← match test with
      | some e => do pure (← eval n e).isTrue
      | none => pure true
    if !goesOn then return .done
    else
      match ← exec n body with
      | .leave => return .done
      | .answer v => return .answer v
      | _ =>
        let _ ← exec n step
        runLoop n test body step

def runEach : Nat → String → List String → Stmt → Run Outcome
  | 0, _, _, _ => fail "program limit exceeded"
  | _ + 1, _, [], _ => return .done
  | n + 1, name, k :: ks, body => do
    assign name (.input k)
    match ← exec n body with
    | .leave => return .done
    | .answer v => return .answer v
    | _ => runEach n name ks body

end

/-! ## Programs -/

/-- Whether a rule is for the present record. -/
def isChosen (i : Nat) (p : Pattern) : Run Bool := do
  match p with
  | .always => return true
  | .test e => return (← eval roundLimit e).isTrue
  | .range first last =>
    let isOpen := ((← get).ranges[i]?).getD false
    let opens ← if isOpen then pure true else do pure (← eval roundLimit first).isTrue
    if !opens then return false
    else
      let closes := (← eval roundLimit last).isTrue
      modify fun m => { m with ranges := m.ranges.setIfInBounds i !closes }
      return true
  | _ => return false

def runRules (rules : List (Rule × Nat)) : Run Unit := do
  for (rule, i) in rules do
    if ← isChosen i rule.pattern then
      match rule.action with
      | some body =>
        let _ ← exec roundLimit body
      | none =>
        let line := (← get).record
        write none (line ++ (← textOf "ORS"))

def runRecords (rules : List (Rule × Nat)) : Nat → Run Unit
  | 0 => return ()
  | n + 1 => do
    match ← nextRecord 1000000 with
    | none => return ()
    | some s =>
      countRecord "NR"
      countRecord "FNR"
      setRecord s
      try runRules rules
      catch
        | .next => modify fun m => { m with frame := [] }
        | .nextFile => modify fun m => { m with frame := [], rest := [] }
        | e => throw e
      runRecords rules n

/-- The actions of the rules with a pattern of a kind. -/
def actionsOf (p : Program) (isStart : Bool) : List Stmt :=
  p.rules.filterMap fun r => match r.pattern, isStart with
    | .start, true => r.action
    | .finish, false => r.action
    | _, _ => none

/-- Runs actions; whether the program is to end. -/
def runActions (actions : List Stmt) : Run Bool := do
  try
    for body in actions do
      let _ ← exec roundLimit body
    return false
  catch
    | .exit => return true
    | e => throw e

def runProgram (p : Program) : Run Unit := do
  let rules := (p.rules.zip (List.range p.rules.length)).filter fun r => match r.1.pattern with
    | .start | .finish => false
    | _ => true
  let finals := actionsOf p false
  let ended ← runActions (actionsOf p true)
  let ended ← if ended || (rules.isEmpty && finals.isEmpty) then pure ended
    else
      try
        runRecords rules 100000000
        pure false
      catch
        | .exit => pure true
        | e => throw e
  modify fun m => { m with frame := [] }
  let _ ← if ended && (← get).status = 256 then pure false else runActions finals
  return ()

end Run

/-! ## The tool -/

/-- The arguments in front of a program: the separator, the settings, and the program files. -/
structure Given where
  separator : Option String := none
  settings : List (String × String) := []
  sources : List String := []
  words : List String := []
  fault : Option String := none

/-- Reads the arguments in front of a program; every step takes one or more of them. -/
def readGiven : Nat → List String → Given → Given
  | 0, _, g => g
  | _ + 1, [], g => g
  | n + 1, a :: rest, g =>
    let set (s : String) (rest : List String) : Given :=
      match Run.setting? s with
      | some e => readGiven n rest { g with settings := g.settings ++ [e] }
      | none => { g with fault := some ("improper assignment: -v " ++ s) }
    match a.toList, rest with
    | ['-', '-'], rest => { g with words := rest }
    | ['-'], rest => { g with words := a :: rest }
    | ['-', 'F'], s :: rest => readGiven n rest { g with separator := some s }
    | ['-', 'v'], s :: rest => set s rest
    | ['-', 'f'], s :: rest => readGiven n rest { g with sources := g.sources ++ [s] }
    | ['-', 'F'], [] | ['-', 'v'], [] | ['-', 'f'], [] =>
      { g with fault := some ("option requires an argument -- " ++ dropText 1 a) }
    | '-' :: 'F' :: cs, rest => readGiven n rest { g with separator := some (String.ofList cs) }
    | '-' :: 'v' :: cs, rest => set (String.ofList cs) rest
    | '-' :: 'f' :: cs, rest => readGiven n rest { g with sources := g.sources ++ [String.ofList cs] }
    | '-' :: 'W' :: cs, rest => readGiven n (if cs.isEmpty then rest.drop 1 else rest) g
    | '-' :: _, _ => { g with fault := some ("not an option: " ++ a) }
    | _, rest => { g with words := a :: rest }

def showUse : Act Nat := do
  Act.warn "Usage: mawk [Options] [Program] [file ...]"
  return 0

/-- The variables that a program begins with. -/
def startingVars (environment : List (String × String)) (words : List String) (g : Given) : Run Unit := do
  for (name, s) in [("FS", " "), ("OFS", " "), ("ORS", "\n"), ("RS", "\n"), ("SUBSEP", "\x1c"),
      ("CONVFMT", "%.6g"), ("OFMT", "%.6g"), ("FILENAME", "")] do
    Run.put name (.text s)
  for name in ["NF", "NR", "FNR"] do
    Run.put name (.number 0)
  Run.put "ARGC" (.ofNat (words.length + 1))
  let arguments ← Run.tableOf "ARGV"
  Run.updateTable arguments fun _ =>
    (("awk" :: words).zip (List.range (words.length + 1))).foldl (fun t p => t.set (.whole p.2) (.input p.1)) {}
  let exported ← Run.tableOf "ENVIRON"
  Run.updateTable exported fun _ =>
    environment.foldl (fun t e => t.set (.text e.1) (.input e.2)) {}
  if let some s := g.separator then
    Run.put "FS" (.text (String.ofList (unescaped (s.length + 1) s.toList)))
  for (name, s) in g.settings do
    Run.assign name (.input s)

end SpeechConfig.Shell.Awk

namespace SpeechConfig.Shell.Tool

open Awk in
def awk : Tool := fun launch args => do
  let complain (message : String) : Act Nat := do
    for line in splitAll '\n' message do
      Act.warn ("awk: " ++ line)
    return 2
  let g := Awk.readGiven (args.length + 1) args {}
  match g.fault with
  | some message => complain message
  | none =>
    let mut files := ""
    for path in g.sources do
      match ← readInput path with
      | .ok s => files := files ++ s ++ (if s.endsWith "\n" then "" else "\n")
      | .error e => return ← complain ("cannot open \"" ++ path ++ "\" (" ++ e.reason ++ ")")
    let (source, words) := if g.sources.isEmpty then (g.words.headD "", g.words.drop 1) else (files, g.words)
    if g.sources.isEmpty && g.words.isEmpty then Awk.showUse
    else match Awk.readProgram source with
      | .error message => complain message
      | .ok program =>
        let machine : Machine :=
          { launch := launch, program := program, ranges := Array.replicate program.rules.length false }
        let environment ← Act.environment
        let before ← Act.openedAt 0
        let whole : Awk.Run Nat := do
          startingVars environment words g
          let status ← try
              Awk.Run.runProgram program
              pure (← get).status
            catch
              | .fault status => pure status
              | _ => pure (← get).status
          Awk.Run.finishOutputs
          return status
        let (result, m) ← whole.run.run machine
        if !m.rest.isEmpty && (m.vars["FILENAME"]?.map (Value.toText "")) == some "" then
          let used := m.size - m.rest.length
          match before with
          | some (_, { target := .buffer _, .. }) => Act.giveBack before 4096 used m.rest
          | _ => Act.giveBack before 0 (min m.size ((used / 4096 + 1) * 4096)) []
        match result with
        | .ok status => return status
        | .error _ => return 2

end SpeechConfig.Shell.Tool
