/-
# The working directory

Changing it, remembering it on a stack, and the permissions that new files get.
-/
import SpeechConfig.Shell.Builtin.Basic
import SpeechConfig.Shell.Condition
import SpeechConfig.Shell.Floating

namespace SpeechConfig.Shell

/-- The parts of a path without its empty ones, `.` and `..`. -/
def plainParts (path : String) : List String :=
  ((splitAll '/' path).foldl (fun (acc : List String) part =>
    if part = "" ∨ part = "." then acc
    else if part = ".." then acc.drop 1
    else part :: acc) []).reverse

/-- A path from a directory on, without `.` and `..`. -/
def pathFrom (here path : String) : String :=
  "/" ++ "/".intercalate (plainParts (if path.startsWith "/" then path else here ++ "/" ++ path))

/-- Makes a directory the working directory. -/
def enterPlace (l : Location) (shown : String) : Act Unit := do
  let former := (← Act.process).here
  Act.update fun p => { p with place := l, here := shown }
  let keep (name text : String) : Act Unit := do
    let v := (← Act.knownVariable? name).getD { exported := name == "OLDPWD" || name == "PWD" }
    Act.putVariable name { v with value := .text text }
  keep "OLDPWD" former
  keep "PWD" shown

/-- Goes to a directory, and returns what is wrong if that is not possible. -/
def goTo (physical : Bool) (path : String) : Act (Option FileSystem.Fault) := do
  let p ← Act.process
  let logical := pathFrom p.here path
  let placeAt (text : String) : Act (Except FileSystem.Fault Location) := do
    match (← Act.files).walk .follow (pathOf text) with
    | .ok (.present l .directory) => return .ok l
    | .ok (.present _ _) => return .error .notDirectory
    | .ok (.absent _ _) => return .error .notFound
    | .error e => return .error e
  match ← placeAt (if physical then path else logical) with
  | .ok l =>
    enterPlace l (if physical then placeText l else logical)
    return none
  | .error e =>
    match ← placeAt path with
    | .ok l =>
      enterPlace l (placeText l)
      return none
    | .error _ => return some e

/-- The directories that are searched for a relative path. -/
def searchedPlaces (path : String) : Act (List String) := do
  let isPlain := !(path.startsWith "/" || path == "." || path == ".." || path.startsWith "./" || path.startsWith "../")
  match ← Act.textOf "CDPATH" with
  | some list => return if isPlain && !list.isEmpty then splitAll ':' list else []
  | none => return []

def runCd (name : String) (args : List String) : Act Nat := do
  let isBash ← Act.isBash
  withFlags name (if isBash then "LPe@" else "LP") "" args fun f => do
    let usually ← Act.hasOption "physical"
    let physical := match f.flags.reverse.find? fun e => e.1 == 'L' || e.1 == 'P' with
      | some (c, _) => c == 'P'
      | none => usually
    let change (path : String) (showsPath : Bool) : Act Nat := do
      let places ← searchedPlaces path
      let mut found : Option String := none
      for place in places do
        if found.isNone then
          let there := if place.isEmpty then path else place ++ "/" ++ path
          match ← nodeAt? true there with
          | some (_, .directory) => found := some (if place.isEmpty then path else there)
          | _ => pure ()
      let target := found.getD path
      let prints := showsPath || found.any (· != path)
      match ← goTo physical target with
      | none => if prints then emit name ((← Act.process).here ++ "\n") else return 0
      | some e =>
        if isBash then blamed name (path ++ ": " ++ e.reason)
        else blamed name ("can't cd to " ++ path) 2
    match f.operands with
    | _ :: _ :: _ => if isBash then blamed name "too many arguments" else change (f.operands.headD "") false
    | [] =>
      match ← Act.textOf "HOME" with
      | some home => if home.isEmpty then return 0 else change home false
      | none => if isBash then blamed name "HOME not set" else return 0
    | ["-"] =>
      match ← Act.textOf "OLDPWD" with
      | some old => change old true
      | none => if isBash then blamed name "OLDPWD not set" else change (← Act.process).here true
    | [path] =>
      if path.isEmpty then
        let p ← Act.process
        enterPlace p.place p.here
        return 0
      else change path false

def runPwd (name : String) (args : List String) : Act Nat :=
  withFlags name "LP" "" args fun f => do
    let p ← Act.process
    let physical := (f.flags.reverse.head?.any fun e => e.1 == 'P') || (f.flags.isEmpty && (← Act.hasOption "physical"))
    emit name ((if physical then placeText p.place else p.here) ++ "\n")

/-! ## The stack -/

/-- A directory with a tilde for the home directory. -/
def withTilde (path : String) : Act String := do
  match ← Act.textOf "HOME" with
  | some home =>
    if home.isEmpty || home == "/" then return path
    else if path = home then return "~"
    else if path.startsWith (home ++ "/") then return "~" ++ dropText home.length path
    else return path
  | none => return path

/-- The place on the stack that a word such as `+1` or `-0` names. -/
def stackIndex? (size : Nat) (s : String) : Option Nat :=
  match s.toList with
  | '+' :: ds => (numberIn? 10 ds).bind fun n => if n < size then some n else none
  | '-' :: ds => (numberIn? 10 ds).bind fun n => if n < size then some (size - 1 - n) else none
  | _ => none

/-- Whether a word names a place on the stack. -/
def isStackWord (s : String) : Bool :=
  match s.toList with
  | '+' :: ds | '-' :: ds => !ds.isEmpty && ds.all isDigit
  | _ => false

def runDirs (name : String) (args : List String) : Act Nat := do
  let letters := args.flatMap fun a => if isStackWord a then [] else a.toList.drop 1
  let words := args.filter isStackWord
  match letters.find? fun c => !"clpv".toList.contains c with
  | some _ =>
    blame name ((args.find? fun a => !isStackWord a).getD "" ++ ": invalid option")
    showUsage name
  | none =>
    if letters.contains 'c' then
      Act.update fun p => { p with stack := [] }
      return 0
    else
      let p ← Act.process
      let all := p.here :: p.stack
      let shown ← if letters.contains 'l' then pure all else all.mapM withTilde
      match words with
      | w :: _ =>
        match stackIndex? all.length w with
        | some i => emit name ((shown.getD i "") ++ "\n")
        | none => blamed name (w ++ ": directory stack index out of range")
      | [] =>
        if letters.contains 'v' then
          emit name (String.join ((List.range shown.length).zip shown |>.map fun e =>
            padded 2 false (Nat.repr e.1) ++ "  " ++ e.2 ++ "\n"))
        else if letters.contains 'p' then emit name (unlines shown)
        else emit name (" ".intercalate shown ++ "\n")

/-- Goes to a directory and remembers where the shell was. -/
def runPushd (name : String) (args : List String) : Act Nat := do
  let args := args.filter (· != "--")
  let noChange := args.contains "-n"
  let p ← Act.process
  let all := p.here :: p.stack
  let go (path : String) (stack : List String) : Act Nat := do
    match ← goTo false path with
    | some e => blamed name (path ++ ": " ++ e.reason)
    | none =>
      Act.update fun p => { p with stack := stack }
      runDirs name []
  match args.filter (· != "-n") with
  | [] =>
    match p.stack with
    | [] => blamed name "no other directory"
    | top :: rest => go top (p.here :: rest)
  | w :: more =>
    if !more.isEmpty then blamed name "too many arguments"
    else if isStackWord w then
      match stackIndex? all.length w with
      | none =>
        if p.stack.isEmpty then blamed name "directory stack empty"
        else blamed name (w ++ ": directory stack index out of range")
      | some i =>
        let rotated := all.drop i ++ all.take i
        go (rotated.headD p.here) (rotated.drop 1)
    else if w.startsWith "-" && w != "-" then
      blame name (w ++ ": invalid number")
      showUsage name
    else if noChange then
      Act.update fun p => { p with stack := w :: p.stack }
      runDirs name []
    else
      let path ← if w = "-" then Act.textOr "OLDPWD" "" else pure w
      go path (p.here :: p.stack)

/-- Goes back to the directory on top of the stack. -/
def runPopd (name : String) (args : List String) : Act Nat := do
  let args := args.filter (· != "--")
  let noChange := args.contains "-n"
  let p ← Act.process
  let all := p.here :: p.stack
  match args.filter (· != "-n") with
  | [] =>
    match p.stack with
    | [] => blamed name "directory stack empty"
    | top :: rest =>
      if noChange then
        Act.update fun p => { p with stack := rest }
        runDirs name []
      else match ← goTo false top with
        | some e => blamed name (top ++ ": " ++ e.reason)
        | none =>
          Act.update fun p => { p with stack := rest }
          runDirs name []
  | w :: _ =>
    if !isStackWord w then
      blame name (w ++ ": invalid argument")
      showUsage name
    else if p.stack.isEmpty then blamed name "directory stack empty"
    else match stackIndex? all.length w with
      | none => blamed name (w ++ ": directory stack index out of range")
      | some 0 =>
        match ← goTo false (p.stack.headD "/") with
        | some e => blamed name (p.stack.headD "" ++ ": " ++ e.reason)
        | none =>
          Act.update fun q => { q with stack := p.stack.drop 1 }
          runDirs name []
      | some i =>
        Act.update fun q => { q with stack := p.stack.eraseIdx (i - 1) }
        runDirs name []

/-! ## Permissions of new files -/

/-- The permissions of one class of users as letters. -/
def permissionLetters (bits : Nat) : String :=
  (if bits &&& 4 ≠ 0 then "r" else "") ++ (if bits &&& 2 ≠ 0 then "w" else "") ++
    (if bits &&& 1 ≠ 0 then "x" else "")

/-- The permissions that a mask leaves, in letters. -/
def symbolicMask (mask : Nat) : String :=
  let kept := 511 - (511 &&& mask)
  "u=" ++ permissionLetters (kept / 64 % 8) ++ ",g=" ++ permissionLetters (kept / 8 % 8) ++
    ",o=" ++ permissionLetters (kept % 8)

/-- Changes permissions as clauses such as `u+x,go=r` say; none if a clause is none.
`mask` takes permissions away from clauses without a class. -/
def symbolicMode? (isDirectory : Bool) (mask mode : Nat) (s : String) : Option Nat :=
  (splitAll ',' s).foldl (fun acc clause => acc.bind fun mode => do
    let cs := clause.toList
    let who := cs.takeWhile fun c => "ugoa".toList.contains c
    let classes := if who.isEmpty || who.contains 'a' then ['u', 'g', 'o'] else who
    let limit := if who.isEmpty then 511 - (511 &&& mask) else 511
    let rec actions : Nat → Nat → List Char → Option Nat
      | 0, mode, _ => some mode
      | n + 1, mode, cs =>
        match cs with
        | [] => some mode
        | op :: rest =>
          if op = '+' ∨ op = '-' ∨ op = '=' then
            let letters := rest.takeWhile fun c => "rwxXstugo".toList.contains c
            let bitsFor (shift : Nat) : Nat := letters.foldl (fun b c =>
              b ||| (match c with
                | 'r' => 4
                | 'w' => 2
                | 'x' => 1
                | 'X' => if isDirectory || mode &&& 73 ≠ 0 then 1 else 0
                | 'u' => mode / 64 % 8
                | 'g' => mode / 8 % 8
                | 'o' => mode % 8
                | _ => 0) * shift) 0
            let shiftOf (c : Char) : Nat := if c = 'u' then 64 else if c = 'g' then 8 else 1
            let special := letters.foldl (fun b c =>
              b ||| (match c with
                | 's' => (if classes.contains 'u' then 2048 else 0) ||| (if classes.contains 'g' then 1024 else 0)
                | 't' => 512
                | _ => 0)) 0
            let bits := classes.foldl (fun b c => b ||| bitsFor (shiftOf c)) 0 &&& limit ||| special
            let whole := classes.foldl (fun b c => b ||| 7 * shiftOf c) 0 &&& limit
            let mode := if op = '+' then mode ||| bits
              else if op = '-' then mode - (mode &&& bits)
              else (mode - (mode &&& whole)) ||| bits
            actions n mode (rest.drop letters.length)
          else none
    let behind := cs.drop who.length
    if behind.isEmpty then none else actions (behind.length + 1) mode behind) (some mode)

/-- Shows or sets the permissions that new files do not get. -/
def runUmask (name : String) (args : List String) : Act Nat :=
  withFlags name "Sp" "" args fun f => do
    let mask := (← Act.process).mask
    match f.operands with
    | [] =>
      let text := if f.has 'S' then symbolicMask mask else Floating.zeroFilled 4 (digitsIn 8 mask)
      emit name ((if f.has 'p' then "umask " ++ (if f.has 'S' then "-S " else "") else "") ++ text ++ "\n")
    | s :: _ =>
      if s.toList.head?.any isDigit then
        match numberIn? 8 s.toList with
        | some n =>
          if n ≤ 511 then
            Act.update fun p => { p with mask := n }
            if f.has 'S' then emit name (symbolicMask n ++ "\n") else return 0
          else blamed name (s ++ ": octal number out of range")
        | none =>
          if ← Act.isBash then blamed name (s ++ ": octal number out of range")
          else blamed name ("Illegal number: " ++ s) 2
      else match symbolicMode? true 0 (511 - (511 &&& mask)) s with
        | some kept =>
          let mask := 511 - (511 &&& kept)
          Act.update fun p => { p with mask := mask }
          if f.has 'S' then emit name (symbolicMask mask ++ "\n") else return 0
        | none =>
          let c := (s.toList.dropWhile fun c => "ugoa".toList.contains c).headD ' '
          if ← Act.isBash then
            if "ugoa".toList.contains (s.toList.headD ' ') then
              blamed name ("\x60" ++ String.singleton c ++ "': invalid symbolic mode operator")
            else blamed name ("\x60" ++ String.singleton (s.toList.headD ' ') ++ "': invalid symbolic mode operator")
          else blamed name ("Illegal mode: " ++ s) 2

/-! ## Limits -/

/-- Shows or sets what the shell may use; setting succeeds and changes nothing. -/
def runUlimit (name : String) (args : List String) : Act Nat :=
  withFlags name "SHabcdefiklmnpqrstuvxPRT" "" args fun f => do
    let letter := (f.flags.filter fun e => e.1 != 'S' && e.1 != 'H').getLast?.map Prod.fst |>.getD 'f'
    let usual := match letter with
      | 'c' => "0"
      | 'n' => "1048576"
      | 's' => "8192"
      | 'p' => "8"
      | 'l' => "8192"
      | 'q' => "819200"
      | 'e' | 'r' => "0"
      | _ => "unlimited"
    match f.operands with
    | [] => emit name (usual ++ "\n")
    | s :: _ =>
      if s = "unlimited" || s = "hard" || s = "soft" || (numberIn? 10 s.toList).isSome then return 0
      else blamed name (s ++ ": invalid number")

/-- Shows the time that the shell and its children took. -/
def runTimes (name : String) : Act Nat := do
  if ← Act.isBash then emit name "0m0.000s 0m0.000s\n0m0.000s 0m0.000s\n"
  else emit name "0m0.000000s 0m0.000000s\n0m0.000000s 0m0.000000s\n"

end SpeechConfig.Shell
