/-
# Leaving and going on

The commands that end a shell, a call or a round of a loop, and those that do next to
nothing.
-/
import SpeechConfig.Shell.Builtin.Basic

namespace SpeechConfig.Shell

def statusByte (n : Int) : Nat :=
  (n % 256).toNat

/-- A number of the small language: digits and nothing else. -/
def smallCount (name s : String) : Act Nat := do
  match numberIn? 10 s.toList with
  | some n =>
    if n < Nat.pow 2 31 then return n
    else
      blame name ("Illegal number: " ++ s)
      throw (.exit 2)
  | none =>
    blame name ("Illegal number: " ++ s)
    throw (.exit 2)

/-- Gives up because there are too many words. -/
def tooMany (name : String) : Act Nat := do
  blame name "too many arguments"
  Act.setStatus 1
  throw .abandon

def runExit (name : String) (args : List String) : Act Nat := do
  let args := match args with
    | "--" :: rest => rest
    | args => args
  if ← Act.isBash then
    match args with
    | [] => throw (.exit (← Act.status))
    | s :: rest =>
      match numberArgument? s with
      | none =>
        blame name (s ++ ": numeric argument required")
        throw (.exit 2)
      | some n => if rest.isEmpty then throw (.exit (statusByte n)) else tooMany name
  else
    match args with
    | [] => throw (.exit (← Act.status))
    | s :: _ => throw (.exit ((← smallCount name s) % 256))

def runReturn (name : String) (args : List String) : Act Nat := do
  let args := match args with
    | "--" :: rest => rest
    | args => args
  if ← Act.isBash then
    let status ← match args with
      | [] => Act.status
      | s :: rest =>
        match numberArgument? s with
        | none =>
          blame name (s ++ ": numeric argument required")
          pure 2
        | some n => if rest.isEmpty then pure (statusByte n) else tooMany name
    if ← isInCall then throw (.leaveCall status)
    else blamed name "can only \x60return' from a function or sourced script"
  else
    match args with
    | [] => throw (.leaveCall (← Act.status))
    | s :: _ => throw (.leaveCall ((← smallCount name s) % 256))

def runLoopExit (name : String) (stop : Nat → Stop) (args : List String) : Act Nat := do
  let loops := (← Act.process).loops
  let args := match args with
    | "--" :: rest => rest
    | args => args
  if ← Act.isBash then
    if loops = 0 then
      blame name "only meaningful in a \x60for', \x60while', or \x60until' loop"
      return 0
    else match args with
    | [] => throw (stop 1)
    | s :: rest =>
      match numberArgument? s with
      | none =>
        blame name (s ++ ": numeric argument required")
        throw (.exit 128)
      | some n =>
        if !rest.isEmpty then tooMany name
        else if n ≤ 0 then
          blame name (s ++ ": loop count out of range")
          Act.setStatus 1
          throw (.leaveLoop loops)
        else throw (stop (min n.toNat loops))
  else
    let n ← match args with
      | [] => pure 1
      | s :: _ => smallCount name s
    if n = 0 then
      blame name ("Illegal number: " ++ args.headD "")
      throw (.exit 2)
    else if loops = 0 then return 0
    else throw (stop (min n loops))

def runShift (name : String) (args : List String) : Act Nat := do
  let parameters := (← Act.process).parameters
  let dropped (n : Nat) : Act Nat := do
    Act.update fun p => { p with parameters := parameters.drop n }
    return 0
  if ← Act.isBash then
    match args with
    | [] => if parameters.isEmpty then return 1 else dropped 1
    | s :: rest =>
      match numberArgument? s with
      | none => blamed name (s ++ ": numeric argument required")
      | some n =>
        if !rest.isEmpty then blamed name "too many arguments"
        else if n < 0 then blamed name (s ++ ": shift count out of range")
        else if parameters.length < n then
          if ← Act.hasSwitch "shift_verbose" then blamed name (s ++ ": shift count out of range") else return 1
        else dropped n.toNat
  else
    let n ← match args with
      | [] => pure 1
      | s :: _ => smallCount name s
    if parameters.length < n then
      blame name "can't shift that many"
      throw (.exit 2)
    else dropped n

/-- Works out expressions; the status says whether the last one is worth something. -/
def runLet (name : String) (args : List String) : Act Nat := do
  match args with
  | [] => blamed name "expression expected"
  | args =>
    let mut value : Int := 0
    for a in args do
      match ← (calculate a).run with
      | .ok n => value := n
      | .error m =>
        blame name m.message
        return 1
    return if value = 0 then 1 else 0

end SpeechConfig.Shell
