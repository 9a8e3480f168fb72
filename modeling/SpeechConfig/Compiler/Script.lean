/-
# Compiler scripts

A compiler that is a script of the engine's language pack: it is copied next to
the corpus, unless it is there already, and a shell runs it in that directory.
What it prints becomes log lines.  In strict mode its failure is a failure; else it
is only a warning.
-/
import SpeechConfig.Compiler.Basic
import SpeechConfig.Compiler.Process
import SpeechConfig.FileSystem.Operations
import SpeechConfig.Text.Lines
import SpeechConfig.Text.Utf8

namespace SpeechConfig

/-- A script that compiles language models. -/
structure Script where
  path : Path
  format : ModelFormat
  mode : CompileMode
  verbose : Bool := false
  shell : Path := ⟨"bash"⟩
deriving DecidableEq, Repr

namespace Script

/-- How many lines of the error output a failure keeps. -/
def tailLength : Nat := 20

/-- The last lines of an error output. -/
def stderrTail (stderr : List UInt8) : String :=
  let tail := Text.joinLines (Text.lastEntries tailLength (Text.lines (Text.ofOctets stderr)))
  if tail.isEmpty then "<empty>" else tail

def failure (s : Script) (detail : String) : Failure :=
  .compile s.path detail

/-- The log lines of a process: its output, then its error output. -/
def report (s : Script) (p : Finished) : List LogLine :=
  (Text.lines (Text.ofOctets p.stdout) ++ Text.lines (Text.ofOctets p.stderr)).map fun line =>
    ⟨if s.verbose then .info else .debug, line⟩

/-- Whether two paths lead to one place. -/
def samePlace (fs : FileSystem) (p q : Path) : Bool :=
  match fs.locate p, fs.locate q with
  | .ok l, .ok m => l == m
  | _, _ => false

/-- Puts the script into the working directory, unless it is there already. -/
def stage (s : Script) (workDir : Path) (name : String) (fs : FileSystem) :
    Except Failure FileSystem :=
  let copy := workDir.join name
  if samePlace fs s.path copy then .ok fs
  else match fs.copy s.path copy with
    | .ok fs => .ok fs
    | .error fault =>
      .error (s.failure ("cannot copy into " ++ workDir.text ++ ": " ++ fault.message))

/-- Starts the shell on the script in the working directory. -/
def start (s : Script) (programs : Programs) (workDir : Path) (name : String)
    (fs : FileSystem) : Except Failure Finished :=
  let started : Except FileSystem.Fault Finished := do
    if s.shell.text.toList.contains '\x00' then throw .nulInArgument
    let inside ← fs.enter workDir
    programs s.shell.text name inside
  match started with
  | .ok finished => .ok finished
  | .error fault => .error (s.failure ("cannot start " ++ s.shell.text ++ ": " ++ fault.message))

/-- Whether the script did its work. -/
def verdict (s : Script) (p : Finished) : Except Failure Unit :=
  if p.ending.isSuccess then .ok ()
  else .error (s.failure
    ("exited with " ++ p.ending.describe ++ "; stderr: " ++ stderrTail p.stderr))

/-- What a run of the script comes to, before the mode is taken into account. -/
structure Run where
  result : Except Failure Unit
  files : FileSystem
  log : List LogLine

def run (s : Script) (programs : Programs) (workDir : Path) (fs : FileSystem) : Run :=
  match s.path.fileName? with
  | none => ⟨.error (s.failure "script path has no file name"), fs, []⟩
  | some name =>
    match s.stage workDir name fs with
    | .error e => ⟨.error e, fs, []⟩
    | .ok staged =>
      match s.start programs workDir name staged with
      | .error e => ⟨.error e, staged, []⟩
      | .ok finished =>
        ⟨s.verdict finished, { finished.files with workDir := fs.workDir }, s.report finished⟩

/-- The directory a corpus lies in. -/
def workDirOf (corpus : Path) : Path :=
  corpus.parent?.getD ⟨"."⟩

/-- Compiles a corpus, of which the script keeps no record. -/
def compile (s : Script) (programs : Programs) (corpus : Path) (fs : FileSystem) : Compilation :=
  let model := s.format.modelOf corpus
  let r := s.run programs (workDirOf corpus) fs
  match r.result, s.mode with
  | .ok (), _ => ⟨.ok model, r.files, r.log, []⟩
  | .error e, .strict => ⟨.error e, r.files, r.log, []⟩
  | .error e, .legacy =>
    ⟨.ok model, r.files,
      r.log ++ [.warn ("ignoring language model compiler failure: " ++ e.message)], []⟩

def toCompiler (s : Script) (programs : Programs) : Compiler :=
  ⟨s.compile programs⟩

end Script
end SpeechConfig
