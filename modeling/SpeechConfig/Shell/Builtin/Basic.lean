/-
# Commands of the shell itself

What the commands that are part of a shell have in common: their names, the lines that say
how they are used, and how their flags are read.
-/
import SpeechConfig.Shell.Redirect

namespace SpeechConfig.Shell

/-- The commands of the large language, in order. -/
def largeBuiltins : List String :=
  [".", ":", "[", "alias", "bg", "bind", "break", "builtin", "caller", "cd", "command", "compgen",
    "complete", "compopt", "continue", "declare", "dirs", "disown", "echo", "enable", "eval",
    "exec", "exit", "export", "false", "fc", "fg", "getopts", "hash", "help", "history", "jobs",
    "kill", "let", "local", "logout", "mapfile", "popd", "printf", "pushd", "pwd", "read",
    "readarray", "readonly", "return", "set", "shift", "shopt", "source", "suspend", "test",
    "times", "trap", "true", "type", "typeset", "ulimit", "umask", "unalias", "unset", "wait"]

def smallBuiltins : List String :=
  [".", ":", "[", "alias", "bg", "break", "cd", "chdir", "command", "continue", "echo", "eval",
    "exec", "exit", "export", "false", "fg", "getopts", "hash", "jobs", "kill", "local", "printf",
    "pwd", "read", "readonly", "return", "set", "shift", "test", "times", "trap", "true", "type",
    "ulimit", "umask", "unalias", "unset", "wait"]

/-- The commands whose assignments stay, and whose faults end the small language. -/
def specialBuiltins : List String :=
  [":", ".", "break", "continue", "eval", "exec", "exit", "export", "readonly", "return", "set",
    "shift", "source", "times", "trap", "unset"]

/-- Whether a name is that of a command of the shell. -/
def isBuiltin (name : String) : Act Bool := do
  return (if ← Act.isBash then largeBuiltins else smallBuiltins).contains name

def usageOf (name : String) : String :=
  let rest := match name with
    | "." | "source" => "filename [arguments]"
    | "alias" => "[-p] [name[=value] ... ]"
    | "bg" => "[job_spec ...]"
    | "bind" => "[-lpsvPSVX] [-m keymap] [-f filename] [-q name] [-u name] [-r keyseq] [-x keyseq:shell-command] [keyseq:readline-function or readline-command]"
    | "break" | "continue" | "exit" | "logout" | "return" | "shift" => "[n]"
    | "builtin" => "[shell-builtin [arg ...]]"
    | "caller" => "[expr]"
    | "cd" => "[-L|[-P [-e]] [-@]] [dir]"
    | "command" => "[-pVv] command [arg ...]"
    | "compgen" => "[-abcdefgjksuv] [-o option] [-A action] [-G globpat] [-W wordlist] [-F function] [-C command] [-X filterpat] [-P prefix] [-S suffix] [word]"
    | "declare" => "[-aAfFgiIlnrtux] [name[=value] ...] or declare -p [-aAfFilnrtux] [name ...]"
    | "typeset" => "[-aAfFgiIlnrtux] name[=value] ... or typeset -p [-aAfFilnrtux] [name ...]"
    | "dirs" => "[-clpv] [+N] [-N]"
    | "disown" => "[-h] [-ar] [jobspec ... | pid ...]"
    | "echo" => "[-neE] [arg ...]"
    | "enable" => "[-a] [-dnps] [-f filename] [name ...]"
    | "eval" => "[arg ...]"
    | "exec" => "[-cl] [-a name] [command [argument ...]] [redirection ...]"
    | "export" => "[-fn] [name[=value] ...] or export -p"
    | "fc" => "[-e ename] [-lnr] [first] [last] or fc -s [pat=rep] [command]"
    | "fg" => "[job_spec]"
    | "getopts" => "optstring name [arg ...]"
    | "hash" => "[-lr] [-p pathname] [-dt] [name ...]"
    | "help" => "[-dms] [pattern ...]"
    | "history" => "[-c] [-d offset] [n] or history -anrw [filename] or history -ps arg [arg...]"
    | "jobs" => "[-lnprs] [jobspec ...] or jobs -x command [args]"
    | "kill" => "[-s sigspec | -n signum | -sigspec] pid | jobspec ... or kill -l [sigspec]"
    | "let" => "arg [arg ...]"
    | "local" => "[option] name[=value] ..."
    | "mapfile" | "readarray" => "[-d delim] [-n count] [-O origin] [-s count] [-t] [-u fd] [-C callback] [-c quantum] [array]"
    | "popd" => "[-n] [+N | -N]"
    | "printf" => "[-v var] format [arguments]"
    | "pushd" => "[-n] [+N | -N | dir]"
    | "pwd" => "[-LP]"
    | "read" => "[-ers] [-a array] [-d delim] [-i text] [-n nchars] [-N nchars] [-p prompt] [-t timeout] [-u fd] [name ...]"
    | "readonly" => "[-aAf] [name[=value] ...] or readonly -p"
    | "set" => "[-abefhkmnptuvxBCEHPT] [-o option-name] [--] [-] [arg ...]"
    | "shopt" => "[-pqsu] [-o] [optname ...]"
    | "suspend" => "[-f]"
    | "test" => "[expr]"
    | "trap" => "[-lp] [[arg] signal_spec ...]"
    | "type" => "[-afptP] name [name ...]"
    | "ulimit" => "[-SHabcdefiklmnpqrstuvxPRT] [limit]"
    | "umask" => "[-p] [-S] [mode]"
    | "unalias" => "[-a] name [name ...]"
    | "unset" => "[-f] [-v] [-n] [name ...]"
    | "wait" => "[-fn] [-p var] [id ...]"
    | _ => ""
  if rest.isEmpty then name else name ++ " " ++ rest

/-- Says how a command is used. -/
def showUsage (name : String) : Act Nat := do
  Act.warn (name ++ ": usage: " ++ usageOf name)
  return 2

/-- Reports a fault of a command. -/
def blame (name message : String) : Act Unit := do
  if ← Act.isBash then Act.complain (name ++ ": " ++ message)
  else Act.complainOf name message

/-- Reports a fault of a command, with a status. -/
def blamed (name message : String) (status : Nat := 1) : Act Nat := do
  blame name message
  return status

/-- The flags of a command, each with its argument, and the words behind them. -/
structure Flags where
  flags : List (Char × String)
  operands : List String

namespace Flags

def has (f : Flags) (c : Char) : Bool :=
  f.flags.any fun e => e.1 == c

/-- The argument of the last flag of a letter. -/
def value? (f : Flags) (c : Char) : Option String :=
  (f.flags.filter fun e => e.1 == c).getLast?.map Prod.snd

end Flags

/-- What is wrong with flags: an unknown one, or one without its argument. -/
inductive FlagFault where
  | unknown (c : Char)
  | lacksArgument (c : Char)
deriving DecidableEq, Repr

/-- Reads the flags in front of words.  The letters in `plain` stand alone, those in
`valued` have an argument. -/
def readFlags (plain valued : List Char) : List String → Except FlagFault Flags
  | [] => .ok ⟨[], []⟩
  | a :: rest =>
    match a.toList with
    | ['-', '-'] => .ok ⟨[], rest⟩
    | '-' :: c :: cs =>
      let letters := c :: cs
      let known := letters.takeWhile plain.contains
      let flags := known.map fun c => (c, "")
      match letters.drop known.length with
      | [] => (readFlags plain valued rest).map fun f => { f with flags := flags ++ f.flags }
      | c :: more =>
        if valued.contains c then
          if more.isEmpty then
            match rest with
            | [] => .error (.lacksArgument c)
            | value :: rest =>
              (readFlags plain valued rest).map fun f =>
                { f with flags := flags ++ (c, value) :: f.flags }
          else
            (readFlags plain valued rest).map fun f =>
              { f with flags := flags ++ (c, String.ofList more) :: f.flags }
        else .error (.unknown c)
    | _ => .ok ⟨[], a :: rest⟩

/-- Reads the flags of a command and goes on with them, or reports what is wrong. -/
def withFlags (name plain valued : String) (args : List String) (run : Flags → Act Nat) : Act Nat := do
  match readFlags plain.toList valued.toList args with
  | .ok f => run f
  | .error e =>
    if ← Act.isBash then
      match e with
      | .unknown c => blame name ("-" ++ String.singleton c ++ ": invalid option")
      | .lacksArgument c => blame name ("-" ++ String.singleton c ++ ": option requires an argument")
      showUsage name
    else
      match e with
      | .unknown c => blamed name ("Illegal option -" ++ String.singleton c) 2
      | .lacksArgument c => blamed name ("No arg for -" ++ String.singleton c ++ " option") 2

/-- Writes the output of a command, and reports if that is not possible. -/
def emit (name text : String) : Act Nat := do
  match ← Act.write 1 text with
  | .ok () => return 0
  | .error fault =>
    if ← Act.isBash then blamed name ("write error: " ++ fault.reason)
    else
      blame name "I/O error"
      return 1

/-- The whole number of an argument, with space in front of it and blanks behind it. -/
def numberArgument? (s : String) : Option Int :=
  let cs := (s.toList.dropWhile isSpace).reverse.dropWhile isBlank
  match integerOf? (String.ofList cs.reverse) with
  | some n => if (Nat.pow 2 63 : Nat) ≤ n ∨ n < -(Nat.pow 2 63 : Nat) then none else some n
  | none => none

/-- Whether a function or a sourced file is being run. -/
def isInCall : Act Bool := do
  return !(← Act.process).frames.isEmpty

def isInFunction : Act Bool := do
  return (← Act.process).frames.any Frame.isFunction

end SpeechConfig.Shell
