/-
# Reading into variables

Lines that are taken apart into variables, all lines of a stream into a list, and flags
that are taken one by one from the parameters.
-/
import SpeechConfig.Shell.Builtin.Basic
import SpeechConfig.Shell.Floating

namespace SpeechConfig.Shell

/-! ## One line -/

/-- Reads a line in which a backslash protects the next character, and joins lines; the
marks of the line, and whether its end came. -/
def readMarks (stream : Nat) (raw : Bool) (delimiter : Char) (most : Option Nat) (exact : Bool) :
    Nat → List Mark → Act (Except StreamFault (List Mark × Bool))
  | 0, taken => return .ok (taken.reverse, false)
  | n + 1, taken => do
    let room := most.map fun m => m - taken.length
    if room = some 0 then return .ok (taken.reverse, true)
    else
      let stop := if exact then none else some delimiter
      match ← Act.readUntil stream (stop.getD '\x00') (if raw && room.isSome then room else if room.isSome then some 1 else none) with
      | .error e => return .error e
      | .ok none => return .ok (taken.reverse, false)
      | .ok (some (text, ended)) =>
        let cs := text.toList.filter (· != '\x00')
        if raw then
          let taken := (cs.map fun c => (⟨c, false⟩ : Mark)).reverse ++ taken
          if ended && !exact then return .ok (taken.reverse, true)
          else if most.isSome then readMarks stream raw delimiter most exact n taken
          else return .ok (taken.reverse, false)
        else
          let step (acc : List Mark × Bool) (c : Char) : List Mark × Bool :=
            if acc.2 then (⟨c, true⟩ :: acc.1, false)
            else if c = '\\' then (acc.1, true)
            else (⟨c, false⟩ :: acc.1, false)
          let (more, isOpen) := cs.foldl step ([], false)
          let taken := more ++ taken
          if isOpen then
            if ended then
              if delimiter = '\n' then readMarks stream raw delimiter most exact n taken
              else readMarks stream raw delimiter most exact n (⟨delimiter, true⟩ :: taken)
            else if most.isSome then
              match ← Act.readUntil stream '\x00' (some 1) with
              | .ok (some (text, _)) =>
                let next := text.toList.filter (· != '\n')
                readMarks stream raw delimiter most exact n ((next.map fun c => (⟨c, true⟩ : Mark)) ++ taken)
              | _ => return .ok (taken.reverse, false)
            else return .ok (taken.reverse, false)
          else if ended && !exact then return .ok (taken.reverse, true)
          else if most.isSome then readMarks stream raw delimiter most exact n taken
          else return .ok (taken.reverse, false)

/-- Whether a mark is an unquoted separator that is white space. -/
def isBlankSeparator (separators : List Char) (m : Mark) : Bool :=
  !m.quoted && separators.contains m.char && (m.char == ' ' || m.char == '\t' || m.char == '\n')

def isSeparator (separators : List Char) (m : Mark) : Bool :=
  !m.quoted && separators.contains m.char

def takeField (separators : List Char) (ms : List Mark) : List Mark × List Mark :=
  let field := ms.takeWhile fun m => !isSeparator separators m
  let rest := (ms.drop field.length).dropWhile (isBlankSeparator separators)
  let rest := match ms.drop field.length with
    | m :: after =>
      if isBlankSeparator separators m then
        match rest with
        | s :: more =>
          if isSeparator separators s then more.dropWhile (isBlankSeparator separators) else rest
        | [] => []
      else after.dropWhile (isBlankSeparator separators)
    | [] => []
  (field, rest)

/-- Marks without the blank separators at their end. -/
def withoutTrailingBlanks (separators : List Char) (ms : List Mark) : List Mark :=
  (ms.reverse.dropWhile (isBlankSeparator separators)).reverse

/-- The fields for a number of variables; the last one takes what is left. -/
def fieldsFor (separators : List Char) : Nat → List Mark → List String
  | 0, _ => []
  | 1, ms =>
    let (field, rest) := takeField separators ms
    if rest.isEmpty then [Mark.text field] else [Mark.text (withoutTrailingBlanks separators ms)]
  | n + 1, ms =>
    let (field, rest) := takeField separators ms
    Mark.text field :: fieldsFor separators n rest

/-- All fields of marks; every field takes a mark. -/
def allFields (separators : List Char) : Nat → List Mark → List String
  | 0, _ => []
  | n + 1, ms =>
    if ms.isEmpty then []
    else
      let (field, rest) := takeField separators ms
      Mark.text field :: allFields separators n rest

/-- Gives a variable a text that was read; false if that is not possible. -/
def assignRead (command name text : String) : Act Bool := do
  let (base, subscript) := referenceOf name
  if !isName base then
    if ← Act.isBash then blame command ("\x60" ++ name ++ "': not a valid identifier")
    else
      blame command (name ++ ": bad variable name")
      throw (.exit 2)
    return false
  else
    let index : Option Index := match subscript with
      | .at [.text s] => some (match numberIn? 10 s.toList with
        | some n => .number n
        | none => .key s)
      | _ => none
    if ← assignOne base index false text then return true
    else
      Act.complain (← Act.readonlyMessage base)
      return false

def runRead (command : String) (args : List String) : Act Nat := do
  let isBash ← Act.isBash
  withFlags command (if isBash then "ers" else "r") (if isBash then "adinNptu" else "p") args fun f => do
    let stream := ((f.value? 'u').bind fun s => numberIn? 10 s.toList).getD 0
    let count (s : String) : Option Nat := numberIn? 10 s.toList
    let badCount := (f.flags.find? fun e => (e.1 == 'n' || e.1 == 'N') && (count e.2).isNone)
    let badName := f.operands.find? fun s => !isName (referenceOf s).1
    match badCount, badName with
    | some (_, s), _ => blamed command (s ++ ": invalid number")
    | none, some s =>
      if isBash then blamed command ("\x60" ++ s ++ "': not a valid identifier")
      else
        blame command (s ++ ": bad variable name")
        throw (.exit 2)
    | none, none =>
      if !isBash && f.operands.isEmpty then
        blame command "arg count"
        throw (.exit 2)
      let exact := f.has 'N'
      let most := ((f.value? 'n').bind count).or ((f.value? 'N').bind count)
      let delimiter := match f.value? 'd' with
        | some s => s.toList.headD '\x00'
        | none => '\n'
      if (f.value? 't').any fun s => (Floating.read Floating.usualBits s.toList).1.truncated == 0 && s.toList.all (fun c => c == '0' || c == '.') then
        match ← Act.openedAt stream with
        | some _ => return 0
        | none => return 1
      match ← readMarks stream (f.has 'r' || exact) delimiter most exact 100000 [] with
      | .error e =>
        if stream ≠ 0 then blamed command (Nat.repr stream ++ ": invalid file descriptor: " ++ e.reason)
        else blamed command ("read error: " ++ Nat.repr stream ++ ": " ++ e.reason)
      | .ok (ms, ended) =>
        let status := if ended then 0 else 1
        let separators ← separators
        let trimmed := ms.dropWhile (isBlankSeparator separators)
        match f.value? 'a' with
        | some list =>
          let fields := allFields separators (trimmed.length + 1) trimmed
          let old := (← Act.knownVariable? list).getD {}
          Act.putVariable list { old with value := .list ((List.range fields.length).zip fields) }
          return status
        | none =>
          match f.operands with
          | [] =>
            Act.setText "REPLY" (Mark.text ms)
            return status
          | names =>
            let fields := if exact then Mark.text ms :: (names.drop 1).map fun _ => ""
              else fieldsFor separators names.length trimmed
            let mut status := status
            for (name, text) in names.zip fields do
              if !(← assignRead command name text) then status := 1
            return status

/-! ## All lines -/

/-- The most lines that are read into a list. -/
def lineLimit : Nat := 1000000

/-- Reads at most some lines, each with its end. -/
def readLines (stream : Nat) (delimiter : Char) :
    Nat → List String → Act (Except StreamFault (List String))
  | 0, lines => return .ok lines.reverse
  | n + 1, lines => do
    match ← Act.readUntil stream delimiter none with
    | .error e => return .error e
    | .ok none => return .ok lines.reverse
    | .ok (some (text, ended)) =>
      readLines stream delimiter n ((if ended then text.push delimiter else text) :: lines)

def runMapfile (x : Executor) (command : String) (args : List String) : Act Nat :=
  withFlags command "t" "dnOsuCc" args fun f => do
    let number (c : Char) (usual : Nat) : Nat :=
      ((f.value? c).bind fun s => numberIn? 10 s.toList).getD usual
    let name := f.operands.headD "MAPFILE"
    let bad := "nOsuc".toList.findSome? fun c =>
      (f.value? c).bind fun s => if (numberIn? 10 s.toList).isNone then some (c, s) else none
    if let some (c, s) := bad then
      blamed command (s ++ ": invalid " ++ (match c with
        | 'n' | 's' => "line count"
        | 'O' => "array origin"
        | 'u' => "file descriptor specification"
        | _ => "callback quantum"))
    else if !isName name then blamed command ("\x60" ++ name ++ "': not a valid identifier")
    else
      let delimiter := match f.value? 'd' with
        | some s => s.toList.headD '\x00'
        | none => '\n'
      let stream := number 'u' 0
      let skipped := number 's' 0
      let most := match number 'n' 0 with
        | 0 => lineLimit
        | n => n + skipped
      match ← readLines stream delimiter most [] with
      | .error e => blamed command (Nat.repr stream ++ ": invalid file descriptor: " ++ e.reason)
      | .ok lines =>
        let texts := (lines.drop skipped).map fun s =>
          if f.has 't' && s.endsWith (String.singleton delimiter) then takeText (s.length - 1) s else s
        let old := (← Act.knownVariable? name).getD {}
        if old.readonly then
          Act.complain (name ++ ": readonly variable")
          return 1
        let start := number 'O' 0
        let base := if (f.value? 'O').isSome then old.value else .list []
        let mut value : Value := match base with
          | .list entries => .list entries
          | _ => .list []
        let quantum := number 'c' 5000
        for (text, k) in texts.zip (List.range texts.length) do
          if let some callback := f.value? 'C' then
            if (k + 1) % quantum = 0 then
              x.text "mapfile" (← Act.process).line
                (callback ++ " " ++ Nat.repr (start + k) ++ " " ++ backslashed text)
          value := value.put (.number (start + k)) text
        Act.putVariable name { old with value := value }
        return 0

/-! ## Flags -/

def runGetopts (command : String) (args : List String) : Act Nat := do
  let isBash ← Act.isBash
  match args with
  | spec :: name :: rest =>
    let p ← Act.process
    let words := if rest.isEmpty then p.parameters else rest
    let silent := spec.startsWith ":"
    let letters := spec.toList
    let index := ((numberIn? 10 (← Act.textOr "OPTIND" "1").toList).getD 1)
    let index := max 1 index
    let loud := !silent && (← Act.textOr "OPTERR" "1") != "0"
    let finish (index offset : Nat) (letter : String) (argument : Option String) (status : Nat) : Act Nat := do
      Act.setText "OPTIND" (Nat.repr index)
      Act.update fun p => { p with optionOffset := offset }
      match argument with
      | some s => Act.setText "OPTARG" s
      | none => Act.dropVariable "OPTARG"
      if !isName name then
        if isBash then blamed command ("\x60" ++ name ++ "': not a valid identifier")
        else
          blame command (name ++ ": bad variable name")
          throw (.exit 2)
      else
        Act.setText name letter
        return status
    let complainOption (large small : String) (c : Char) : Act Unit := do
      if loud then
        if isBash then Act.warn (p.name ++ large ++ String.singleton c)
        else Act.warn (small.replace "%" (String.singleton c))
    let word := words[index - 1]?
    let isFlagWord := match (word.getD "").toList with
      | '-' :: _ :: _ => true
      | _ => false
    if p.optionOffset = 0 && (word.isNone || !isFlagWord) then finish index 0 "?" none 1
    else if p.optionOffset = 0 && word == some "--" then finish (index + 1) 0 "?" none 1
    else
      let offset := if p.optionOffset = 0 then 1 else p.optionOffset
      let cs := (word.getD "").toList
      match cs.drop offset with
      | [] => finish index 0 "?" none 1
      | c :: more =>
        let (nextIndex, nextOffset) := if more.isEmpty then (index + 1, 0) else (index, offset + 1)
        let behind := letters.dropWhile (· != c)
        if behind.isEmpty || c == ':' then
          complainOption ": illegal option -- " "Illegal option -%" c
          finish nextIndex nextOffset "?" (if silent then some (String.singleton c) else none) 0
        else if behind[1]? == some ':' then
          if !more.isEmpty then finish (index + 1) 0 (String.singleton c) (some (String.ofList more)) 0
          else match words[index]? with
          | some argument => finish (index + 2) 0 (String.singleton c) (some argument) 0
          | none =>
            complainOption ": option requires an argument -- " "No arg for -% option" c
            if silent then finish (index + 1) 0 ":" (some (String.singleton c)) 0
            else finish (index + 1) 0 "?" none 0
        else finish nextIndex nextOffset (String.singleton c) none 0
  | _ =>
    if isBash then showUsage command
    else
      blame command "Usage: getopts optstring var [arg]"
      throw (.exit 2)

end SpeechConfig.Shell
