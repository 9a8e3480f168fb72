/-
# Tools

What the programs that scripts call have in common: how their flags are read, how they
report what is wrong, and how they read their inputs.
-/
import SpeechConfig.Shell.Stream
import SpeechConfig.Shell.Floating

namespace SpeechConfig.Shell

/-- A tool: it is given a way to start other programs and its arguments, and returns its
status. -/
abbrev Tool := (List String → Act Nat) → List String → Act Nat

/-- The long form of a flag: its name, the letter it stands for, and whether it has an
argument. -/
structure LongFlag where
  name : String
  letter : Char
  valued : Bool := false
  optional : Bool := false

/-- The flags of a tool: letters that stand alone, letters with an argument, and long
names.  `stopsEarly` says that the first other word ends the flags. -/
structure FlagStyle where
  plain : String := ""
  valued : String := ""
  long : List LongFlag := []
  stopsEarly : Bool := false
  status : Nat := 1

/-- The flags that were given, each with its argument, and the other words. -/
structure GivenFlags where
  flags : List (Char × String) := []
  operands : List String := []

namespace GivenFlags

def has (g : GivenFlags) (c : Char) : Bool :=
  g.flags.any fun e => e.1 == c

def value? (g : GivenFlags) (c : Char) : Option String :=
  (g.flags.filter fun e => e.1 == c).getLast?.map Prod.snd

def values (g : GivenFlags) (c : Char) : List String :=
  (g.flags.filter fun e => e.1 == c).map Prod.snd

def lastOf (g : GivenFlags) (letters : String) : Option Char :=
  (g.flags.reverse.find? fun e => letters.toList.contains e.1).map Prod.fst

end GivenFlags

/-- What is wrong with the flags of a tool. -/
inductive GivenFault where
  | unknown (c : Char)
  | lacksArgument (c : Char)
  | unknownLong (word : String)
  | ambiguousLong (word : String) (names : List String)
  | longLacksArgument (name : String)
  | longHasArgument (name : String)
deriving Repr

def GivenFault.message : GivenFault → String
  | .unknown c => "invalid option -- '" ++ String.singleton c ++ "'"
  | .lacksArgument c => "option requires an argument -- '" ++ String.singleton c ++ "'"
  | .unknownLong word => "unrecognized option '" ++ word ++ "'"
  | .ambiguousLong word names =>
    "option '" ++ word ++ "' is ambiguous; possibilities:" ++
      String.join (names.map fun n => " '--" ++ n ++ "'")
  | .longLacksArgument name => "option '--" ++ name ++ "' requires an argument"
  | .longHasArgument name => "option '--" ++ name ++ "' doesn't allow an argument"

/-- What a word in front of a tool's arguments asks for. -/
inductive FlagWord where
  | done
  | flags (list : List (Char × String))
  | waiting (list : List (Char × String)) (letter : Char) (fault : GivenFault)
  | fault (f : GivenFault)
  | operand

def readFlagWord (style : FlagStyle) (a : String) : FlagWord :=
  match a.toList with
  | ['-', '-'] => .done
  | '-' :: '-' :: word =>
    let (name, value) := match splitFirst? '=' (String.ofList word) with
      | some (name, value) => (name, some value)
      | none => (String.ofList word, none)
    let exact := style.long.filter fun l => l.name == name
    let near := style.long.filter fun l => l.name.startsWith name
    let sameLetter := near.all fun l => some l.letter == (near.head?.map LongFlag.letter)
    match exact.head?.or (if near.length = 1 ∨ (sameLetter ∧ !near.isEmpty) then near.head? else none) with
    | none =>
      if near.isEmpty then .fault (.unknownLong ("--" ++ name))
      else .fault (.ambiguousLong a (near.map LongFlag.name))
    | some l =>
      match l.valued, value with
      | true, some v => .flags [(l.letter, v)]
      | true, none => .waiting [] l.letter (.longLacksArgument l.name)
      | false, some v => if l.optional then .flags [(l.letter, v)] else .fault (.longHasArgument l.name)
      | false, none => .flags [(l.letter, "")]
  | '-' :: c :: cs =>
    let letters := c :: cs
    let known := letters.takeWhile style.plain.toList.contains
    let flags := known.map fun c => (c, "")
    match letters.drop known.length with
    | [] => .flags flags
    | c :: more =>
      if style.valued.toList.contains c then
        if more.isEmpty then .waiting flags c (.lacksArgument c)
        else .flags (flags ++ [(c, String.ofList more)])
      else .fault (.unknown c)
  | _ => .operand

/-- Reads the flags of a tool; `waiting` is a flag whose argument comes next. -/
def readGivenFrom (style : FlagStyle) (waiting : Option (Char × GivenFault)) :
    List String → Except GivenFault GivenFlags
  | [] =>
    match waiting with
    | some (_, f) => .error f
    | none => .ok {}
  | a :: rest =>
    match waiting with
    | some (c, _) => (readGivenFrom style none rest).map fun g => { g with flags := (c, a) :: g.flags }
    | none =>
      match readFlagWord style a with
      | .done => .ok { operands := rest }
      | .flags list => (readGivenFrom style none rest).map fun g => { g with flags := list ++ g.flags }
      | .waiting list c f =>
        (readGivenFrom style (some (c, f)) rest).map fun g => { g with flags := list ++ g.flags }
      | .fault f => .error f
      | .operand =>
        if style.stopsEarly then .ok { operands := a :: rest }
        else (readGivenFrom style none rest).map fun g => { g with operands := a :: g.operands }

def readGiven (style : FlagStyle) (args : List String) : Except GivenFault GivenFlags :=
  readGivenFrom style none args

namespace Tool

/-- Reports what is wrong, and returns a status. -/
def report (name message : String) (status : Nat := 1) : Act Nat := do
  Act.warn (name ++ ": " ++ message)
  return status

def pointToHelp (name : String) : Act Unit :=
  Act.warn ("Try '" ++ name ++ " --help' for more information.")

/-- Reports a wrong use of a tool. -/
def misuse (name message : String) (status : Nat := 1) : Act Nat := do
  Act.warn (name ++ ": " ++ message)
  pointToHelp name
  return status

/-- Reads the flags of a tool and goes on with them. -/
def withGiven (name : String) (style : FlagStyle) (args : List String)
    (run : GivenFlags → Act Nat) : Act Nat := do
  match readGiven style args with
  | .ok g => run g
  | .error e => misuse name e.message style.status

/-- Splits a text into runs of characters that can be shown and of those that cannot, in
turn, one that can be shown first. -/
def shownRuns (s : String) : List (List Char) :=
  let parts := s.toList.foldl (fun (acc : List (List Char) × List Char × Bool) c =>
    let isPlain := isGraph c || c == ' '
    if isPlain == acc.2.2 then (acc.1, c :: acc.2.1, acc.2.2)
    else (acc.2.1.reverse :: acc.1, [c], isPlain)) ([], [], true)
  (parts.2.1.reverse :: parts.1).reverse

/-- An octet that cannot be shown, as a sequence in dollar quotes. -/
def octetSequence (c : Char) : String :=
  match c.toNat with
  | 7 => "\\a"
  | 8 => "\\b"
  | 9 => "\\t"
  | 10 => "\\n"
  | 11 => "\\v"
  | 12 => "\\f"
  | 13 => "\\r"
  | n => "\\" ++ Floating.zeroFilled 3 (digitsIn 8 n)

def quotedName (s : String) : String :=
  let single (cs : List Char) : String :=
    "'" ++ String.join (cs.map fun c => if c = '\'' then "'\\''" else String.singleton c) ++ "'"
  match shownRuns s with
  | [only] =>
    if only.contains '\'' && !(only.any fun c => "\"$\x60\\!".toList.contains c) then "\"" ++ s ++ "\""
    else single only
  | runs =>
    String.join ((runs.zip (List.range runs.length)).map fun (run, i) =>
      if i % 2 = 0 then single run else "$'" ++ String.join (run.map octetSequence) ++ "'")

/-- A name, in quotes where it could be misread without them. -/
def quotedIfNeeded (s : String) : String :=
  let isPlain (c : Char) : Bool := isAlnum c || "%+,-./:@]_\x7b\x7d~#".toList.contains c
  if s.isEmpty || !s.toList.all isPlain || s.startsWith "~" || s.startsWith "#" ||
      s == "\x7b" || s == "\x7d" then quotedName s
  else s

/-- Writes the output of a tool, and reports if that is not possible. -/
def say (name text : String) (status : Nat := 0) : Act Nat := do
  match ← Act.write 1 text with
  | .ok () => return status
  | .error fault => report name ("write error: " ++ fault.reason)

/-- The text of an input: a file, or the standard input for a dash. -/
def readInput (path : String) : Act (Except StreamFault String) := do
  if path = "-" then Act.readAll 0
  else
    match ← Act.openToRead path with
    | .error e => return .error e
    | .ok i =>
      match (← Act.world).opened[i]? with
      | none => return .error .notOpen
      | some f =>
        let r ← Act.restOf f
        match r with
        | .ok text =>
          Act.skip i f text.length
          return .ok text
        | .error e => return .error e

/-- The size of the file at a path, or of the file of the standard input for a dash, if the
standard output goes to it too. -/
def writesTo (path : String) : Act (Option Nat) := do
  match ← Act.openedAt 1 with
  | some (_, { target := .file l, .. }) =>
    let input ← do
      if path = "-" then
        match ← Act.openedAt 0 with
        | some (_, { target := .file m, .. }) => pure (some m)
        | _ => pure none
      else match (← Act.files).walk .follow (pathOf path) with
        | .ok (.present m _) => pure (some m)
        | _ => pure none
    if input = some l then
      match (← Act.files).node? l with
      | some (.file content) => return some content.size
      | _ => return none
    else return none
  | _ => return none

/-- The text of an input; what is wrong with it is reported. -/
def inputOf (name path : String) : Act (Option String) := do
  match ← readInput path with
  | .ok text => return some text
  | .error e =>
    let shown := if path = "-" then "-" else quotedIfNeeded path
    let _ ← report name (shown ++ ": " ++ e.reason)
    return none

/-- The texts of inputs one after another, and the status. -/
def inputsOf (name : String) (paths : List String) : Act (String × Nat) := do
  let mut text := ""
  let mut status := 0
  for path in if paths.isEmpty then ["-"] else paths do
    match ← inputOf name path with
    | some t => text := text ++ t
    | none => status := 1
  return (text, status)

/-- A whole number that is not negative. -/
def count? (s : String) : Option Nat :=
  numberIn? 10 s.toList

/-- A number with a letter that multiplies it. -/
def scaled? (s : String) : Option Nat :=
  let digits := s.toList.takeWhile isDigit
  let letters := String.ofList (s.toList.drop digits.length)
  let factor? : Option Nat := match letters with
    | "" => some 1
    | "b" => some 512
    | "k" | "K" | "KiB" => some 1024
    | "kB" | "KB" => some 1000
    | "M" | "m" | "MiB" => some (1024 * 1024)
    | "MB" => some (1000 * 1000)
    | "G" | "GiB" => some (1024 * 1024 * 1024)
    | "GB" => some (1000 * 1000 * 1000)
    | "T" => some (1024 * 1024 * 1024 * 1024)
    | _ => none
  match factor?, (if digits.isEmpty && !letters.isEmpty then some 1 else numberIn? 10 digits) with
  | some f, some n => some (n * f)
  | _, _ => none

end Tool
end SpeechConfig.Shell
