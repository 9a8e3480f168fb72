/-
# Plain tools

Tools that need no files: they write what they are told, work something out, let time
pass, or start other programs.
-/
import SpeechConfig.Shell.Calendar
import SpeechConfig.Shell.Condition
import SpeechConfig.Shell.Format
import SpeechConfig.Shell.Program
import SpeechConfig.Shell.Signal
import SpeechConfig.Shell.Tool.Basic

namespace SpeechConfig.Shell.Tool

/-! ## Writing -/

def echo : Tool := fun _ args => say "echo" (echoed false args)

def printf : Tool := fun _ args => do
  match args with
  | [] => misuse "printf" "missing operand"
  | "--" :: format :: rest | format :: rest =>
    let now : Int := (← Act.world).clock / 1000000
    let p := printed .alone now format rest
    for line in p.reports do
      Act.warn ("printf: " ++ line)
    say "printf" p.text (if p.failed then 1 else 0)

/-- Writes a line again and again; where it goes, writing ends some time. -/
def yes : Tool := fun _ args => do
  let line := (if args.isEmpty then "y" else " ".intercalate args) ++ "\n"
  let block := String.join (List.replicate (max 1 (4096 / line.length)) line)
  let rec go : Nat → Act Nat
    | 0 => return 0
    | n + 1 => do
      Act.pass 200
      match ← Act.write 1 block with
      | .ok () => go n
      | .error fault => report "yes" ("standard output: " ++ fault.reason)
  go 100000

def seq : Tool := fun _ args => do
  let usageOf (message : String) : Act Nat := misuse "seq" message
  let rec flags (separator : String) (equal : Bool) (format : Option String) :
      List String → Except String (String × Bool × Option String × List String)
    | [] => .ok (separator, equal, format, [])
    | a :: rest =>
      match a.toList, rest with
      | ['-', 's'], s :: rest => flags s equal format rest
      | ['-', 'f'], s :: rest => flags separator equal (some s) rest
      | ['-', 's'], [] => .error "option requires an argument -- 's'"
      | ['-', 'f'], [] => .error "option requires an argument -- 'f'"
      | ['-', 'w'], rest => flags separator true format rest
      | ['-', '-'], rest => .ok (separator, equal, format, rest)
      | '-' :: 's' :: cs, rest => flags (String.ofList cs) equal format rest
      | '-' :: 'f' :: cs, rest => flags separator equal (some (String.ofList cs)) rest
      | '-' :: '-' :: cs, rest =>
        let word := String.ofList cs
        if word = "equal-width" then flags separator true format rest
        else if word.startsWith "separator=" then flags (dropText 10 word) equal format rest
        else if word.startsWith "format=" then flags separator equal (some (dropText 7 word)) rest
        else .error ("unrecognized option '" ++ a ++ "'")
      | '-' :: c :: _, rest =>
        if isDigit c || c == '.' then .ok (separator, equal, format, a :: rest)
        else .error ("invalid option -- '" ++ String.singleton c ++ "'")
      | _, rest => .ok (separator, equal, format, a :: rest)
  let number (s : String) : Option (Int × Nat) :=
    let (negative, digits) := match s.toList with
      | '-' :: cs => (true, cs)
      | '+' :: cs => (false, cs)
      | cs => (false, cs)
    let whole := digits.takeWhile isDigit
    let parts := match digits.drop whole.length with
      | [] => some ([] : List Char)
      | '.' :: cs => if cs.all isDigit then some cs else none
      | _ => none
    match parts with
    | none => none
    | some part =>
      if whole.isEmpty && part.isEmpty then none
      else
        let n : Int := ((numberIn? 10 (whole ++ part)).getD 0 : Nat)
        some (if negative then -n else n, part.length)
  match flags "\n" false none args with
  | .error message => usageOf message
  | .ok (separator, equal, format, words) =>
    if words.isEmpty then usageOf "missing operand"
    else if words.length > 3 then usageOf ("extra operand " ++ quotedName (words.getD 3 ""))
    else
      match words.find? fun w => (number w).isNone with
      | some w => usageOf ("invalid floating point argument: " ++ quotedName w)
      | none =>
        let numbers := words.filterMap number
        let (first, step, last) := match numbers with
          | [a] => ((1, 0), (1, 0), a)
          | [a, b] => (a, (1, 0), b)
          | [a, b, c] => (a, b, c)
          | _ => ((1, 0), (1, 0), (0, 0))
        let places := max first.2 step.2
        let scale := max places last.2
        let scaled (n : Int × Nat) : Int := n.1 * (Nat.pow 10 (scale - n.2) : Nat)
        let (a, d, z) := (scaled first, scaled step, scaled last)
        if d = 0 then usageOf ("invalid Zero increment value: " ++ quotedName (words.getD 1 ""))
        else
          let count := if d > 0 then (if z < a then 0 else ((z - a) / d).toNat + 1)
            else (if z > a then 0 else ((a - z) / (-d)).toNat + 1)
          let plain (n : Int) : String :=
            let size := n.natAbs / Nat.pow 10 (scale - places)
            let digits := Nat.repr size
            let sign := if n < 0 then "-" else ""
            if places = 0 then sign ++ digits
            else
              let digits := Floating.zeroFilled (places + 1) digits
              sign ++ takeText (digits.length - places) digits ++ "." ++ dropText (digits.length - places) digits
          let width := max (plain a).length (max (plain z).length (plain (a + d * (count - 1 : Nat))).length)
          let shown (i : Nat) : String :=
            let text := plain (a + d * i)
            match format with
            | some f => (printed .alone 0 f [text]).text
            | none =>
              if !equal then text
              else if text.startsWith "-" then "-" ++ Floating.zeroFilled (width - 1) (dropText 1 text)
              else Floating.zeroFilled width text
          let rec blocks : Nat → Nat → Act Nat
            | 0, _ => return 0
            | n + 1, i => do
              if count ≤ i then return 0
              else
                let stop := min count (i + 2000)
                let text := String.join ((List.range' i (stop - i)).map fun k =>
                  shown k ++ (if k + 1 = count then "\n" else separator))
                let status ← say "seq" text
                if status ≠ 0 then return status else blocks n stop
          blocks (count / 2000 + 1) 0

/-! ## Tests and sums -/

/-- What stands in for a shell where a tool tests words. -/
def bareExecutor : Executor :=
  { run := fun _ => return ()
    text := fun _ _ _ => return ()
    settle := fun _ => return ()
    pieces := fun _ _ => return []
    launch := fun _ => return 0 }

def test (name : String) : Tool := fun _ args => do
  if name = "[" && args.getLast? != some "]" then report "[" "missing ']'" 2
  else
    let words := if name = "[" then args.dropLast else args
    let result : Act (Except String (Bool × List String)) := ((testWords bareExecutor words).run words).run
    match ← result with
    | .ok (holds, _) => return if holds then 0 else 1
    | .error message => report name message 2

/-- Shows the directory, as far as a tool can tell. -/
def pwd : Tool := fun _ args =>
  withGiven "pwd" { plain := "LP" } args fun g => do
    let p ← Act.process
    say "pwd" ((if g.has 'L' then p.here else placeText p.place) ++ "\n")

/-! ## Paths -/

def lastPart (path : String) : String :=
  let trimmed := (path.toList.reverse.dropWhile (· == '/'))
  if trimmed.isEmpty then (if path.isEmpty then "" else "/")
  else String.ofList (trimmed.takeWhile (· != '/')).reverse

def frontPart (path : String) : String :=
  let trimmed := path.toList.reverse.dropWhile (· == '/')
  if trimmed.isEmpty then (if path.isEmpty then "." else "/")
  else
    let rest := trimmed.dropWhile (· != '/')
    if rest.isEmpty then "."
    else
      let dir := rest.dropWhile (· == '/')
      if dir.isEmpty then "/" else String.ofList dir.reverse

def basename : Tool := fun _ args =>
  let style : FlagStyle :=
    { plain := "az", valued := "s", stopsEarly := true
      long := [⟨"multiple", 'a', false, false⟩, ⟨"suffix", 's', true, false⟩, ⟨"zero", 'z', false, false⟩] }
  withGiven "basename" style args fun g => do
    let without (suffix s : String) : String :=
      if !suffix.isEmpty && s.endsWith suffix && s != suffix then takeText (s.length - suffix.length) s else s
    let ending := if g.has 'z' then "\x00" else "\n"
    match g.operands with
    | [] => misuse "basename" "missing operand"
    | paths =>
      if g.has 'a' || g.has 's' then
        let suffix := (g.value? 's').getD ""
        say "basename" (String.join (paths.map fun p => without suffix (lastPart p) ++ ending))
      else match paths with
        | [p] => say "basename" (lastPart p ++ ending)
        | [p, suffix] => say "basename" (without suffix (lastPart p) ++ ending)
        | _ => misuse "basename" ("extra operand " ++ quotedName (paths.getD 2 ""))

def dirname : Tool := fun _ args =>
  withGiven "dirname" { plain := "z", long := [⟨"zero", 'z', false, false⟩] } args fun g => do
    if g.operands.isEmpty then misuse "dirname" "missing operand"
    else say "dirname" (String.join (g.operands.map fun p => frontPart p ++ (if g.has 'z' then "\x00" else "\n")))

/-! ## Time -/

/-- The length of time that a word names, in millionths of a second. -/
def duration? (s : String) : Option Nat :=
  let (digits, factor) := match s.toList.reverse with
    | 's' :: rest => (rest.reverse, 1)
    | 'm' :: rest => (rest.reverse, 60)
    | 'h' :: rest => (rest.reverse, 3600)
    | 'd' :: rest => (rest.reverse, 86400)
    | _ => (s.toList, 1)
  let whole := digits.takeWhile isDigit
  let scaled (n places : Nat) : Nat := n * factor * 1000000 / Nat.pow 10 places
  match digits.drop whole.length with
  | [] => (numberIn? 10 whole).map fun n => scaled n 0
  | '.' :: part =>
    if part.all isDigit && !(whole.isEmpty && part.isEmpty) then
      (numberIn? 10 (whole ++ part)).map fun n => scaled n part.length
    else none
  | _ => none

def sleep : Tool := fun _ args =>
  withGiven "sleep" {} args fun g => do
    if g.operands.isEmpty then misuse "sleep" "missing operand"
    else
      let bad := g.operands.filter fun s => (duration? s).isNone && s != "infinity" && s != "inf"
      if !bad.isEmpty then
        for s in bad do
          Act.warn ("sleep: invalid time interval " ++ quotedName s)
        pointToHelp "sleep"
        return 1
      else
        Act.pass ((g.operands.map fun s => (duration? s).getD 1000000000000).foldl (· + ·) 0)
        return 0

/-- The flags of `timeout`. -/
def timeoutStyle : FlagStyle :=
  { plain := "v", valued := "sk", stopsEarly := true, status := 125
    long := [⟨"signal", 's', true, false⟩, ⟨"kill-after", 'k', true, false⟩, ⟨"foreground", 'f', false, false⟩,
      ⟨"preserve-status", 'p', false, false⟩, ⟨"verbose", 'v', false, false⟩] }

/-- Starts a program that cannot be found or started: the report and the status. -/
def launchOr (name : String) (launch : List String → Act Nat) (argv : List String) : Act Nat := do
  let program := argv.headD ""
  match ← programPath? program with
  | some _ => launch argv
  | none =>
    if program.toList.contains '/' then
      let (message, status) ← startFault program
      let reason := if message = "Is a directory" then "Permission denied" else message
      if name = "env" || name = "xargs" then report name (quotedName program ++ ": " ++ reason) status
      else report name ("failed to run command " ++ quotedName program ++ ": " ++ reason) status
    else if name = "env" then report name (quotedName program ++ ": No such file or directory") 127
    else if name = "xargs" then report name (program ++ ": No such file or directory") 127
    else report name ("failed to run command " ++ quotedName program ++ ": No such file or directory") 127

/-- Starts a program that must be over after some time. -/
def timeout : Tool := fun launch args =>
  withGiven "timeout" timeoutStyle args fun g => do
    match g.operands with
    | time :: command :: rest =>
      match duration? time with
      | none => misuse "timeout" ("invalid time interval " ++ quotedName time) 125
      | some 0 => launchOr "timeout" launch (command :: rest)
      | some length =>
        let signal := ((g.value? 's').bind signalOf?).getD 15
        let w ← Act.world
        let limit := w.clock + length
        let mine : Bool := match w.deadline with
          | some other => decide (limit < other)
          | none => true
        if mine then Act.updateWorld fun w => { w with deadline := some limit }
        let result ← Act.attempt (launchOr "timeout" launch (command :: rest))
        Act.updateWorld fun v => { v with deadline := w.deadline }
        match result with
        | .ok status => return status
        | .error .deadline =>
          if mine then return if g.has 'p' then 128 + signal else if signal = 9 then 137 else 124
          else throw .deadline
        | .error e => throw e
    | _ => misuse "timeout" "missing operand" 125

/-- Reads a date in a few notations: seconds, or a day with a time. -/
def momentOf? (s : String) (now : Int) : Option Int :=
  match s.toList with
  | '@' :: cs => integerOf? (String.ofList (cs.takeWhile (· != '.')))
  | _ =>
    let s := if s.endsWith " UTC" then takeText (s.length - 4) s else if s.endsWith "Z" then takeText (s.length - 1) s else s
    let (day, time) := match splitFirst? ' ' s with
      | some (a, b) => (a, b)
      | none => match splitFirst? 'T' s with
        | some (a, b) => (a, b)
        | none => (s, "00:00:00")
    if s = "now" || s.isEmpty then some now
    else
      match (splitAll '-' day).map (fun p => numberIn? 10 p.toList) with
      | [some y, some m, some d] =>
        let clock := (splitAll ':' time).map fun p => numberIn? 10 p.toList
        let seconds := match clock with
          | [some h, some m] => some (h * 3600 + m * 60)
          | [some h, some m, some s] => some (h * 3600 + m * 60 + s)
          | _ => none
        if m < 1 || 12 < m || d < 1 || 31 < d then none
        else seconds.map fun n => Moment.dayNumber y m d * 86400 + (n : Int)
      | _ => none

/-- The moment at which everything starts, in seconds. -/
def startOfTime : Int := 1750000000

def date : Tool := fun _ args =>
  let style : FlagStyle :=
    { plain := "uR", valued := "drI"
      long := [⟨"date", 'd', true, false⟩, ⟨"utc", 'u', false, false⟩, ⟨"universal", 'u', false, false⟩,
        ⟨"reference", 'r', true, false⟩, ⟨"iso-8601", 'I', false, true⟩, ⟨"rfc-email", 'R', false, false⟩] }
  let args := args.map fun a => if a = "-I" then "--iso-8601" else a
  withGiven "date" style args fun g => do
    let now : Int := startOfTime + (← Act.world).clock / 1000000
    let moment ← match g.value? 'd', g.value? 'r' with
      | some s, _ => pure (match momentOf? s now with
        | some n => Except.ok n
        | none => .error ("invalid date " ++ quotedName s))
      | none, some path =>
        match ← nodeAt? true path with
        | some (l, _) => pure (.ok (startOfTime + (← Act.timeOf l) / 1000000))
        | none => pure (.error (path ++ ": No such file or directory"))
      | none, none => pure (.ok now)
    match moment with
    | .error message => report "date" message
    | .ok n =>
      let m := Moment.ofSeconds n
      let format := match g.operands with
        | [] => if g.has 'R' then some "%a, %d %b %Y %H:%M:%S %z"
          else if g.has 'I' then some (match g.value? 'I' with
            | some "seconds" => "%Y-%m-%dT%H:%M:%S+00:00"
            | some "minutes" => "%Y-%m-%dT%H:%M+00:00"
            | some "hours" => "%Y-%m-%dT%H+00:00"
            | _ => "%Y-%m-%d")
          else some "%a %b %e %H:%M:%S UTC %Y"
        | a :: _ => if a.startsWith "+" then some (dropText 1 a) else none
      match format with
      | some f => say "date" (m.shown 0 f.toList ++ "\n")
      | none => report "date" ("invalid date " ++ quotedName (g.operands.headD ""))

/-! ## Surroundings -/

def printenv : Tool := fun _ args =>
  withGiven "printenv" { plain := "0", stopsEarly := true, status := 2 } args fun g => do
    let environment ← Act.environment
    let ending := if g.has '0' then "\x00" else "\n"
    if g.operands.isEmpty then
      say "printenv" (String.join (environment.map fun e => e.1 ++ "=" ++ e.2 ++ ending))
    else
      let found := g.operands.filterMap fun name => environment.lookup name
      let status ← say "printenv" (String.join (found.map (· ++ ending)))
      return if found.length < g.operands.length then 1 else status

def env : Tool := fun launch args =>
  let style : FlagStyle :=
    { plain := "i0v", valued := "uCS", stopsEarly := true, status := 125
      long := [⟨"ignore-environment", 'i', false, false⟩, ⟨"unset", 'u', true, false⟩, ⟨"null", '0', false, false⟩,
        ⟨"chdir", 'C', true, false⟩, ⟨"split-string", 'S', true, false⟩] }
  withGiven "env" style args fun g => do
    let words := match g.value? 'S' with
      | some s => (splitAll ' ' s).filter (fun w => !w.isEmpty) ++ g.operands
      | none => g.operands
    let (words, emptied) := match words with
      | "-" :: rest => (rest, true)
      | words => (words, g.has 'i')
    if emptied then
      Act.update fun p =>
        { p with bindings := p.bindings.map fun e => (e.1, { e.2 with exported := false }) }
    for name in g.values 'u' do
      Act.dropVariable name
    let settings := words.takeWhile fun w => w.toList.contains '='
    for s in settings do
      if let some (name, text) := splitFirst? '=' s then
        Act.putVariable name { value := .text text, exported := true }
    match words.drop settings.length with
    | [] =>
      let environment ← Act.environment
      let ending := if g.has '0' then "\x00" else "\n"
      say "env" (String.join (environment.map fun e => e.1 ++ "=" ++ e.2 ++ ending))
    | argv =>
      if g.has '0' then misuse "env" "cannot specify --null (-0) with command" 125
      else launchOr "env" launch argv

/-- Shows who runs the script: always the first user. -/
def id : Tool := fun _ args =>
  withGiven "id" { plain := "ugnrG" } args fun g => do
    let text := if g.has 'n' then "root" else if g.has 'u' || g.has 'g' || g.has 'G' then "0"
      else "uid=0(root) gid=0(root) groups=0(root)"
    say "id" (text ++ "\n")

def which : Tool := fun _ args => do
  let flags := args.takeWhile fun a => a.startsWith "-" && a.length > 1
  let mut status := 0
  for name in args.drop flags.length do
    let paths ← if name.toList.contains '/' then
        (do return if ← leadsToProgram name then [name] else [])
      else programPaths name (← Act.textOf "PATH")
    if paths.isEmpty then status := 1
    let shown := if flags.contains "-a" then paths else paths.take 1
    let _ ← say "which" (unlines shown)
  return if args.length = flags.length then 1 else status

end SpeechConfig.Shell.Tool
