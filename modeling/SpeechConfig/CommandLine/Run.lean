/-
# The command

One run of the command from arguments, variables and files to an exit status, what
is printed but for the log, and the files it leaves.  Settings come from their file, then from
variables, then from options.  The stages are the settings, the request's file,
the request itself and its configuration; the first that fails is reported.
-/
import SpeechConfig.CommandLine.Arguments
import SpeechConfig.Document.Bundle
import SpeechConfig.Document.Vocabulary
import SpeechConfig.Generator
import SpeechConfig.Settings.Override
import SpeechConfig.Settings.Store

namespace SpeechConfig.CommandLine

/-- What a run of the command leaves behind.  Of what is printed to the standard error, `stderr` holds
what the command itself says of its end.  Lines that are logged there on the way are left out, and
so is the place in a document (`Json.Fault.message`). -/
structure Exit where
  status : Nat
  stdout : String
  stderr : String
  files : FileSystem

inductive RunFault where
  | settings (path : Path) (failure : Failure)
  | requestFile (path : Path) (fault : FileSystem.Fault)
  | requestDocument (path : Path) (fault : Json.Fault)
  | configuration (failure : Failure)
deriving DecidableEq, Repr

/-- A failure with its cause behind it; only a fault of the file system has one. -/
def chain (f : Failure) : String :=
  match f with
  | .io fault => f.message ++ ": " ++ fault.message
  | _ => f.message

/-- The fault in words, the outermost circumstance first. -/
def RunFault.message : RunFault → String
  | .settings path failure => "cannot load settings " ++ path.text ++ ": " ++ chain failure
  | .requestFile path fault => "cannot read request " ++ path.text ++ ": " ++ fault.message
  | .requestDocument path fault =>
    "invalid request document " ++ path.text ++ ": " ++ fault.message
  | .configuration failure => chain failure

def Arguments.apply (a : Arguments) (s : Settings) : Settings :=
  { s with
    workDir := match a.workDir with
      | some dir => some dir
      | none => s.workDir
    compileMode := if a.strict then .strict else s.compileMode
    allowCompilerOutput := a.compilerOutput || s.allowCompilerOutput }

/-- The settings of a run. -/
def Arguments.resolve (a : Arguments) (env : Environment) (fs : FileSystem) :
    Except RunFault Settings :=
  let path := a.settings.getD (Settings.defaultPath env)
  match Settings.load fs path with
  | .error e => .error (.settings path e)
  | .ok (s, _) => .ok (a.apply (s.overrides env).1).normalize

def loadRequest (fs : FileSystem) (path : Path) : Except RunFault Request :=
  match fs.readText path with
  | .error fault => .error (.requestFile path fault)
  | .ok text =>
    match Request.ofText text with
    | .error fault => .error (.requestDocument path fault)
    | .ok r => .ok r

/-- The generator of a run: a dry run has no compiler but the stub. -/
def Arguments.generator (a : Arguments) (programs : Programs) (s : Settings) : Generator :=
  if a.dryRun then .new s (.stub s.policies.modelFormat) else .withScript s programs

/-- Configures the engine for the request in a file. -/
def Arguments.configure (a : Arguments) (request : Path) (programs : Programs)
    (env : Environment) (fs : FileSystem) : Except RunFault Bundle × FileSystem :=
  match a.resolve env fs with
  | .error e => (.error e, fs)
  | .ok s =>
    match loadRequest fs request with
    | .error e => (.error e, fs)
    | .ok r =>
      let o := (a.generator programs s).configureDefault r fs
      match o.result with
      | .error e => (.error (.configuration e), o.files)
      | .ok b => (.ok b, o.files)

/-- Runs a command that was understood. -/
def Arguments.run (a : Arguments) (programs : Programs) (env : Environment)
    (fs : FileSystem) : Exit :=
  match a.command with
  | .printDefaultSettings => ⟨0, Settings.default.toJson.pretty ++ "\n", "", fs⟩
  | .generate request =>
    match a.configure request programs env fs with
    | (.ok b, fs) => ⟨0, b.toJson.pretty ++ "\n", "", fs⟩
    | (.error e, fs) => ⟨1, "", "lexis: " ++ e.message ++ "\n", fs⟩

def run (arguments : List String) (programs : Programs) (env : Environment)
    (fs : FileSystem) : Exit :=
  match read arguments with
  | .help => ⟨0, usage ++ "\n", "", fs⟩
  | .fault f => ⟨2, "", "lexis: " ++ f.message ++ "\n\n" ++ usage ++ "\n", fs⟩
  | .done a => a.run programs env fs

end SpeechConfig.CommandLine
