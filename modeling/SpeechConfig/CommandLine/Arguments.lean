/-
# Command line arguments

Arguments are groups read from left to right: a switch alone, or an option with
the argument behind it, whatever that looks like.  A later group wins over an
earlier one of the same option.
-/
import SpeechConfig.Path

namespace SpeechConfig.CommandLine

inductive Command where
  | generate (request : Path)
  | printDefaultSettings
deriving DecidableEq, Repr

structure Arguments where
  command : Command
  settings : Option Path
  workDir : Option Path
  dryRun : Bool
  strict : Bool
  compilerOutput : Bool
  verbose : Bool
deriving DecidableEq, Repr

/-- Why a command line is not understood. -/
inductive UsageFault where
  | missingValue (option : String)
  | unknown (argument : String)
  | noRequest
deriving DecidableEq, Repr

def UsageFault.message : UsageFault → String
  | .missingValue option => "missing value for " ++ option
  | .unknown argument => "unknown argument: " ++ argument
  | .noRequest => "--request is required"

def usage : String :=
  "Usage: lexis --request <file.json> [--settings <file.json>] [--work-dir <dir>] " ++
    "[--dry-run] [--strict] [--compiler-output] [--verbose]\n" ++
    "       lexis --print-default-settings"

/-- What has been read so far. -/
structure Draft where
  request : Option Path := none
  settings : Option Path := none
  workDir : Option Path := none
  printDefaultSettings : Bool := false
  dryRun : Bool := false
  strict : Bool := false
  compilerOutput : Bool := false
  verbose : Bool := false
deriving DecidableEq, Repr

/-- An option that takes a value: its full name and where the value goes. -/
def valueOption? : String → Option (String × (Path → Draft → Draft))
  | "--request" => some ("--request", fun p d => { d with request := some p })
  | "-r" => some ("--request", fun p d => { d with request := some p })
  | "--settings" => some ("--settings", fun p d => { d with settings := some p })
  | "--work-dir" => some ("--work-dir", fun p d => { d with workDir := some p })
  | _ => none

/-- A switch: what it turns on. -/
def switch? : String → Option (Draft → Draft)
  | "--dry-run" => some fun d => { d with dryRun := true }
  | "--strict" => some fun d => { d with strict := true }
  | "--compiler-output" => some fun d => { d with compilerOutput := true }
  | "--verbose" => some fun d => { d with verbose := true }
  | "-v" => some fun d => { d with verbose := true }
  | "--print-default-settings" => some fun d => { d with printDefaultSettings := true }
  | _ => none

def asksForHelp (argument : String) : Bool :=
  argument == "--help" || argument == "-h"

/-- What reading arguments comes to: arguments, a call for help, or a fault. -/
inductive Reading (α : Type) where
  | help
  | fault (f : UsageFault)
  | done (x : α)
deriving DecidableEq, Repr

/-- Reads groups, starting from a draft. -/
def readGroups (d : Draft) : List String → Reading Draft
  | [] => .done d
  | argument :: rest =>
    match valueOption? argument with
    | some (name, store) =>
      match rest with
      | value :: rest => readGroups (store ⟨value⟩ d) rest
      | [] => .fault (.missingValue name)
    | none =>
      match switch? argument with
      | some turnOn => readGroups (turnOn d) rest
      | none => if asksForHelp argument then .help else .fault (.unknown argument)

/-- The arguments of a draft; printing settings needs no request. -/
def Draft.close (d : Draft) : Reading Arguments :=
  let arguments (command : Command) : Arguments :=
    ⟨command, d.settings, d.workDir, d.dryRun, d.strict, d.compilerOutput, d.verbose⟩
  if d.printDefaultSettings then .done (arguments .printDefaultSettings)
  else match d.request with
    | some request => .done (arguments (.generate request))
    | none => .fault .noRequest

def read (arguments : List String) : Reading Arguments :=
  match readGroups {} arguments with
  | .help => .help
  | .fault f => .fault f
  | .done d => d.close

end SpeechConfig.CommandLine
