/-
# Signals

The names and numbers of signals, and how they are spelt in arguments.
-/
import SpeechConfig.Shell.Octets

namespace SpeechConfig.Shell

def signalNames : List String :=
  ["HUP", "INT", "QUIT", "ILL", "TRAP", "ABRT", "BUS", "FPE", "KILL", "USR1", "SEGV", "USR2",
    "PIPE", "ALRM", "TERM", "STKFLT", "CHLD", "CONT", "STOP", "TSTP", "TTIN", "TTOU", "URG",
    "XCPU", "XFSZ", "VTALRM", "PROF", "WINCH", "IO", "PWR", "SYS"]

def signalName? (n : Nat) : Option String :=
  if n = 0 then none
  else if n ≤ 31 then signalNames[n - 1]?
  else if n = 34 then some "RTMIN"
  else if n = 64 then some "RTMAX"
  else if 34 < n ∧ n ≤ 49 then some ("RTMIN+" ++ Nat.repr (n - 34))
  else if 49 < n ∧ n < 64 then some ("RTMAX-" ++ Nat.repr (64 - n))
  else none

/-- The number of the signal that a name spells, with `SIG` in front or without it. -/
def signalNamed? (name : String) : Option Nat :=
  let name := uppered name
  let short := if name.startsWith "SIG" then dropText 3 name else name
  ((List.range 65).drop 1).find? fun n => signalName? n == some short

/-- The number of the signal that a text spells by name or number. -/
def signalOf? (s : String) : Option Nat :=
  match numberIn? 10 s.toList with
  | some n => if n ≤ 64 then some n else none
  | none => signalNamed? s

/-- What becomes of a process that does not handle a signal. -/
inductive SignalEffect where
  | ends
  | ignored
  | stops
deriving DecidableEq, Repr

def effectOf (n : Nat) : SignalEffect :=
  if [17, 18, 23, 28].contains n then .ignored
  else if [19, 20, 21, 22].contains n then .stops
  else .ends

/-- What a shell reports of a child that a signal ended. -/
def signalReport (n : Nat) : String :=
  match n with
  | 1 => "Hangup"
  | 3 => "Quit"
  | 4 => "Illegal instruction"
  | 5 => "Trace/breakpoint trap"
  | 6 => "Aborted"
  | 7 => "Bus error"
  | 8 => "Floating point exception"
  | 9 => "Killed"
  | 10 => "User defined signal 1"
  | 11 => "Segmentation fault"
  | 12 => "User defined signal 2"
  | 14 => "Alarm clock"
  | 15 => "Terminated"
  | 16 => "Stack fault"
  | 24 => "CPU time limit exceeded"
  | 25 => "File size limit exceeded"
  | 26 => "Virtual timer expired"
  | 27 => "Profiling timer expired"
  | 29 => "I/O possible"
  | 30 => "Power failure"
  | 31 => "Bad system call"
  | n => "Unknown signal " ++ Nat.repr n

end SpeechConfig.Shell
