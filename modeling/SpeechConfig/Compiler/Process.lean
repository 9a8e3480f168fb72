/-
# Processes

What is known of a program that was run to its end, and how its end is reported.
-/
import SpeechConfig.FileSystem.Basic
import SpeechConfig.FileSystem.Fault

namespace SpeechConfig

inductive Ending where
  | exit (status : Nat)
  | signal (number : Nat)
deriving DecidableEq, Repr

namespace Ending

/-- Whether the process did what it was started for. -/
def isSuccess (e : Ending) : Bool :=
  e == .exit 0

/-- The name of a signal, empty if it has none. -/
def signalName (number : Nat) : String :=
  [ "", "SIGHUP", "SIGINT", "SIGQUIT", "SIGILL", "SIGTRAP", "SIGABRT", "SIGBUS", "SIGFPE",
    "SIGKILL", "SIGUSR1", "SIGSEGV", "SIGUSR2", "SIGPIPE", "SIGALRM", "SIGTERM", "SIGSTKFLT",
    "SIGCHLD", "SIGCONT", "SIGSTOP", "SIGTSTP", "SIGTTIN", "SIGTTOU", "SIGURG", "SIGXCPU",
    "SIGXFSZ", "SIGVTALRM", "SIGPROF", "SIGWINCH", "SIGIO", "SIGPWR", "SIGSYS" ].getD number ""

def describe : Ending → String
  | .exit status => "exit status: " ++ Nat.repr status
  | .signal number =>
    let name := signalName number
    "signal: " ++ Nat.repr number ++ (if name.isEmpty then "" else " (" ++ name ++ ")")

end Ending

/-- A process that has ended, with the files as it left them. -/
structure Finished where
  files : FileSystem
  stdout : List UInt8
  stderr : List UInt8
  ending : Ending

/-- The programs that can be started: from the name of a program, its one argument
and the files, seen from the directory it runs in, to its end. -/
abbrev Programs := String → String → FileSystem → Except FileSystem.Fault Finished

end SpeechConfig
