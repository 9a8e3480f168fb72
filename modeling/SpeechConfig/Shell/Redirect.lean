/-
# Redirections

Connecting streams with files, with each other and with texts, for one command or for
good.
-/
import SpeechConfig.Shell.Assignment

namespace SpeechConfig.Shell

/-- The stream that a redirection is about if it names none. -/
def Direction.usualStream : Direction → Nat
  | .read | .readWrite | .duplicateInput | .document | .line => 0
  | _ => 1

/-- The lowest stream from a number on that is not open. -/
def freeStream (start : Nat) : Act Nat := do
  let used := (← Act.process).streams.map Prod.fst
  return ((List.range' start (used.length + 1)).find? fun n => !used.contains n).getD start

/-- What is wrong with a file that cannot be opened. -/
def openingMessage (target : String) (creates : Bool) (fault : StreamFault) : Act String := do
  if ← Act.isBash then return target ++ ": " ++ fault.reason
  else
    let reason := match fault with
      | .files .notFound | .files .notDirectory =>
        if creates then "Directory nonexistent" else "No such file"
      | fault => fault.reason
    return (if creates then "cannot create " else "cannot open ") ++ target ++ ": " ++ reason

/-- Opens a file for a redirection, and returns what is wrong if it cannot be opened. -/
def openTarget (target : String) (direction : Direction) : Act (Except String Nat) := do
  let careful ← Act.hasOption "noclobber"
  let opened ← match direction with
    | .read => Act.openToRead target
    | .readWrite => Act.openToWrite target .keep
    | .append | .appendBoth => Act.openToWrite target .extend
    | .overwrite => Act.openToWrite target .fresh
    | _ => Act.openToWrite target (if careful then .careful else .fresh)
  match opened with
  | .ok i => return .ok i
  | .error (.files .exists) =>
    if ← Act.isBash then return .error (target ++ ": cannot overwrite existing file")
    else return .error ("cannot create " ++ target ++ ": File exists")
  | .error fault => return .error (← openingMessage target (direction != .read) fault)

def openText (text : String) : Act Nat := do
  let buffer ← Act.newBuffer { unread := text.toList }
  Act.register { target := .buffer buffer, writable := false }

/-- Carries out a redirection, and returns what is wrong if it fails. -/
def redirectOne (x : Executor) (r : Redirect) : Act (Option String) := do
  match r with
  | .mk _ stream direction word =>
    let isBash ← Act.isBash
    let textTarget : Act (Except String String) := do
      if isBash then
        match ← fieldsOfWord x word with
        | [t] => return .ok t
        | _ => return .error (word.source ++ ": ambiguous redirect")
      else return .ok (← textOfWord x word)
    let number : Act Nat := do
      match stream with
      | .usual => return direction.usualStream
      | .number n => return n
      | .heldBy name =>
        let n ← freeStream 10
        Act.setText name (Nat.repr n)
        return n
    let toFile (direction : Direction) : Act (Option String) := do
      match ← textTarget with
      | .error e => return some e
      | .ok t =>
        match ← openTarget t direction with
        | .error e => return some e
        | .ok i =>
          Act.connect (← number) i
          if direction = .writeBoth ∨ direction = .appendBoth then Act.connect 2 i
          return none
    match direction with
    | .document =>
      Act.connect (← number) (← openText (← textOfWord x word))
      return none
    | .line =>
      Act.connect (← number) (← openText ((← textOfWord x word) ++ "\n"))
      return none
    | .duplicateInput | .duplicateOutput =>
      match ← textTarget with
      | .error e => return some e
      | .ok t =>
        let (digits, moves) := match t.toList.reverse with
          | '-' :: rest => (rest.reverse, true)
          | _ => (t.toList, false)
        if t = "-" then
          match stream with
          | .heldBy name =>
            match numberIn? 10 (← Act.textOr name "").toList with
            | some n => Act.closeStream n
            | none => pure ()
          | _ => Act.closeStream (← number)
          return none
        else match numberIn? 10 digits with
        | some n =>
          match (← Act.process).streams.lookup n with
          | none => return some (t ++ ": Bad file descriptor")
          | some i =>
            Act.connect (← number) i
            if moves then Act.closeStream n
            return none
        | none =>
          if direction = .duplicateOutput && isBash && (stream == .usual || stream == .number 1) then
            match ← openTarget t .writeBoth with
            | .error e => return some e
            | .ok i =>
              Act.connect 1 i
              Act.connect 2 i
              return none
          else if isBash then return some (word.source ++ ": ambiguous redirect")
          else return some "Bad fd number"
    | direction => toFile direction

/-- Carries out redirections up to the first that fails, which is reported. -/
def redirectAll (x : Executor) : List Redirect → Act Bool
  | [] => return true
  | r :: rest => do
    match ← redirectOne x r with
    | none => redirectAll x rest
    | some message =>
      Act.complain message
      return false

/-- Whether a redirection leaves its stream open for what follows. -/
def Redirect.lasts : Redirect → Bool
  | .mk _ (.heldBy _) _ _ => true
  | _ => false

/-- Brings back the streams that redirections changed. -/
def restoreStreams (before changed : List (Nat × Nat)) (kept : Bool) : Act Unit := do
  let now := (← Act.process).streams
  let numbers := ((before ++ changed).map Prod.fst).eraseDups
  for n in numbers do
    if before.lookup n != changed.lookup n && !(kept && n ≥ 10 && (before.lookup n).isNone) then
      match before.lookup n with
      | some i => Act.connect n i
      | none => if (now.lookup n).isSome then Act.closeStream n

/-- Runs a part with redirections that hold for it alone; none if one of them failed. -/
def withRedirections {α : Type} (x : Executor) (redirects : List Redirect) (part : Act α) :
    Act (Option α) := do
  if redirects.isEmpty then return some (← part)
  else
    let before := (← Act.process).streams
    let kept := redirects.any Redirect.lasts
    let ok ← Act.attempt (redirectAll x redirects)
    let changed := (← Act.process).streams
    let undo := restoreStreams before changed kept
    match ok with
    | .error e =>
      undo
      throw e
    | .ok false =>
      undo
      return none
    | .ok true => return some (← Act.undoing part undo)

/-- Ends the processes that stand in for files and were started since. -/
def finishHelpers (x : Executor) (before : List (Nat × Option Command)) : Act Unit := do
  let helpers := (← Act.process).helpers
  let new := helpers.take (helpers.length - before.length)
  if !new.isEmpty then
    Act.update fun p => { p with helpers := before }
    for (stream, body) in new do
      let opened := (← Act.process).streams.lookup stream
      Act.closeStream stream
      match body, opened with
      | some body, some i =>
        let status ← Act.status
        let _ ← apart x do
          Act.connect 0 i
          x.run body
        Act.setStatus status
      | _, _ => pure ()

end SpeechConfig.Shell
