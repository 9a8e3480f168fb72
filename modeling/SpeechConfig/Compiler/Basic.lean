/-
# Language model compilers

A compiler is handed the path of a corpus and answers with the path of the model.
It may keep a record of the corpora it was handed.  The stub compiles nothing: it
answers with the expected path, and it does keep a record.
-/
import SpeechConfig.Failure
import SpeechConfig.FileSystem.Basic
import SpeechConfig.Log
import SpeechConfig.Settings.Policy

namespace SpeechConfig

/-- What came of a call to a compiler; `record` is what the call adds to the compiler's own record
of corpora. -/
structure Compilation where
  result : Except Failure Path
  files : FileSystem
  log : List LogLine
  record : List Path

/-- A compiler: what it does with a corpus in a file system. -/
structure Compiler where
  compile : Path → FileSystem → Compilation

/-- The compiler that says where a model of the format would be, and records what it was asked. -/
def Compiler.stub (format : ModelFormat) : Compiler :=
  ⟨fun corpus fs => ⟨.ok (format.modelOf corpus), fs, [], [corpus]⟩⟩

end SpeechConfig
