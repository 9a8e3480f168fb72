/-
# Options

The options and switches of a shell: their names and letters, and the commands that turn
them on and off.
-/
import SpeechConfig.Shell.Builtin.Basic
import SpeechConfig.Shell.Syntax.Printed

namespace SpeechConfig.Shell

/-- The options of the large language, each with its letter if it has one. -/
def largeOptions : List (String × Option Char) :=
  [("allexport", some 'a'), ("braceexpand", some 'B'), ("emacs", none), ("errexit", some 'e'),
    ("errtrace", some 'E'), ("functrace", some 'T'), ("hashall", some 'h'),
    ("histexpand", some 'H'), ("history", none), ("ignoreeof", none),
    ("interactive-comments", none), ("keyword", some 'k'), ("monitor", some 'm'),
    ("noclobber", some 'C'), ("noexec", some 'n'), ("noglob", some 'f'), ("nolog", none),
    ("notify", some 'b'), ("nounset", some 'u'), ("onecmd", some 't'), ("physical", some 'P'),
    ("pipefail", none), ("posix", none), ("privileged", some 'p'), ("verbose", some 'v'),
    ("vi", none), ("xtrace", some 'x')]

def smallOptions : List (String × Option Char) :=
  [("errexit", some 'e'), ("noglob", some 'f'), ("ignoreeof", some 'I'), ("interactive", some 'i'),
    ("monitor", some 'm'), ("noexec", some 'n'), ("stdin", some 's'), ("xtrace", some 'x'),
    ("verbose", some 'v'), ("vi", some 'V'), ("emacs", some 'E'), ("noclobber", some 'C'),
    ("allexport", some 'a'), ("notify", some 'b'), ("nounset", some 'u'), ("nolog", none),
    ("debug", none)]

/-- The options that are on when a shell begins. -/
def startOptions : List String := ["braceexpand", "hashall", "interactive-comments"]

def switchNames : List String :=
  ["autocd", "assoc_expand_once", "cdable_vars", "cdspell", "checkhash", "checkjobs",
    "checkwinsize", "cmdhist", "compat31", "compat32", "compat40", "compat41", "compat42",
    "compat43", "compat44", "complete_fullquote", "direxpand", "dirspell", "dotglob", "execfail",
    "expand_aliases", "extdebug", "extglob", "extquote", "failglob", "force_fignore",
    "globasciiranges", "globskipdots", "globstar", "gnu_errfmt", "histappend", "histreedit",
    "histverify", "hostcomplete", "huponexit", "inherit_errexit", "interactive_comments",
    "lastpipe", "lithist", "localvar_inherit", "localvar_unset", "login_shell", "mailwarn",
    "no_empty_cmd_completion", "nocaseglob", "nocasematch", "noexpand_translation", "nullglob",
    "patsub_replacement", "progcomp", "progcomp_alias", "promptvars", "restricted_shell",
    "shift_verbose", "sourcepath", "varredir_close", "xpg_echo"]

/-- The switches that are on when a shell begins. -/
def startSwitches : List String :=
  ["checkwinsize", "cmdhist", "complete_fullquote", "extquote", "force_fignore",
    "globasciiranges", "globskipdots", "hostcomplete", "interactive_comments",
    "patsub_replacement", "progcomp", "promptvars", "sourcepath"]

def knownOptions : Act (List (String × Option Char)) := do
  return if ← Act.isBash then largeOptions else smallOptions

def setOption (on : Bool) (name : String) : Act Unit :=
  Act.update fun p =>
    let others := p.options.filter (· != name)
    { p with options := if on then name :: others else others }

def setSwitch (on : Bool) (name : String) : Act Unit :=
  Act.update fun p =>
    let others := p.switches.filter (· != name)
    { p with switches := if on then name :: others else others }

/-- A name and whether it is on. -/
def onOffLine (width : Nat) (name : String) (on : Bool) : String :=
  padded width true name ++ "\t" ++ (if on then "on" else "off") ++ "\n"

/-- The state of all options, as a list or as the commands that would set them. -/
def shownOptions (asCommands : Bool) : Act String := do
  let p ← Act.process
  let isBash ← Act.isBash
  let lines := (← knownOptions).map fun (name, _) =>
    let on := p.options.contains name
    if asCommands then "set " ++ (if on then "-o " else "+o ") ++ name ++ "\n"
    else if isBash then onOffLine 15 name on
    else padded 16 true name ++ (if on then "on" else "off") ++ "\n"
  return (if isBash || asCommands then "" else "Current option settings\n") ++ String.join lines

/-- What the words of `set` ask for: options to be turned, new parameters, or a list. -/
structure SetRequest where
  turns : List (Bool × String) := []
  parameters : Option (List String) := none
  lists : List Bool := []

/-- Reads the words of `set`; a fault is the word or the name that is unknown. -/
def readSet (known : List (String × Option Char)) : List String → Except (String × Bool) SetRequest
  | [] => .ok {}
  | a :: rest =>
    match a.toList with
    | ['-', '-'] => .ok { parameters := some rest }
    | ['-'] =>
      .ok { turns := [(false, "xtrace"), (false, "verbose")]
            parameters := if rest.isEmpty then none else some rest }
    | sign :: c :: cs =>
      if sign = '-' ∨ sign = '+' then
        let on := sign == '-'
        let letters := (c :: cs).filter (· != 'o')
        let named := letters.map fun c => (c, known.find? fun e => e.2 == some c)
        match named.find? fun e => e.2.isNone with
        | some (c, _) => .error (String.ofList [sign, c], true)
        | none =>
          let turns := named.filterMap fun e => e.2.map fun k => (on, k.1)
          if (c :: cs).contains 'o' then
            match rest with
            | [] => .ok { turns := turns, lists := [!on] }
            | name :: rest =>
              if known.any fun e => e.1 == name then
                (readSet known rest).map fun r => { r with turns := turns ++ (on, name) :: r.turns }
              else .error (name, false)
          else (readSet known rest).map fun r => { r with turns := turns ++ r.turns }
      else .ok { parameters := some (a :: rest) }
    | _ => .ok { parameters := some (a :: rest) }

/-- The variables and functions of the shell, as commands that would set them. -/
def shownVariables : Act String := do
  let p ← Act.process
  let isBash ← Act.isBash
  let lines := (p.bindings.mergeSort fun a b => textLe a.1 b.1).filterMap fun (name, v) =>
    match v.value with
    | .missing => none
    | .text s => some (name ++ "=" ++ (if isBash then listed s else singleQuoted s) ++ "\n")
    | value => some (name ++ "=" ++ shownValue value ++ "\n")
  let functions := if isBash then
      (p.functions.mergeSort fun a b => textLe a.1 b.1).map fun f => shownFunction f.1 f.2 ++ "\n"
    else []
  return String.join (lines ++ functions)

def runSet (name : String) (args : List String) : Act Nat := do
  if args.isEmpty then emit name (← shownVariables)
  else match readSet (← knownOptions) args with
  | .error (word, isFlag) =>
    if ← Act.isBash then
      if isFlag then
        blame name (word ++ ": invalid option")
        showUsage name
      else blamed name (word ++ ": invalid option name") 2
    else
      blame name ("Illegal option " ++ (if isFlag then word else "-o " ++ word))
      throw (.exit 2)
  | .ok request =>
    for (on, option) in request.turns do
      setOption on option
    match request.parameters with
    | some parameters => Act.update fun p => { p with parameters := parameters }
    | none => pure ()
    for asCommands in request.lists do
      let _ ← emit name (← shownOptions asCommands)
    return 0

def runShopt (name : String) (args : List String) : Act Nat :=
  withFlags name "pqsuo" "" args fun f => do
    let known := if f.has 'o' then largeOptions.map Prod.fst else switchNames
    let isOn (s : String) : Act Bool := if f.has 'o' then Act.hasOption s else Act.hasSwitch s
    let line (s : String) (on : Bool) : String :=
      if f.has 'p' then
        (if f.has 'o' then "set " ++ (if on then "-o " else "+o ")
         else "shopt " ++ (if on then "-s " else "-u ")) ++ s ++ "\n"
      else onOffLine 15 s on
    if f.has 's' && f.has 'u' then blamed name "cannot set and unset shell options simultaneously"
    else
      let mut status := 0
      let mut out := ""
      if f.operands.isEmpty then
        for s in known do
          let on ← isOn s
          if (!f.has 's' || on) && (!f.has 'u' || !on) then out := out ++ line s on
      else
        for s in f.operands do
          if !known.contains s then
            blame name (s ++ (if f.has 'o' then ": invalid option name" else ": invalid shell option name"))
            status := 1
          else if f.has 's' || f.has 'u' then
            if f.has 'o' then setOption (f.has 's') s else setSwitch (f.has 's') s
          else
            let on ← isOn s
            if !on then status := 1
            if !f.has 'q' then out := out ++ line s on
      let _ ← emit name out
      return status

end SpeechConfig.Shell
