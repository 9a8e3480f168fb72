/-
# Faults of the file system

Why an operation on files fails, and the text each cause is reported with.
-/
namespace SpeechConfig.FileSystem

inductive Fault where
  | notFound
  | permissionDenied
  | exists
  | notDirectory
  | isDirectory
  | invalidArgument
  | nameTooLong
  | notEmpty
  | tooManyLinks
  | notUtf8
  | nulInName
  | nulInArgument
  | notRegular
deriving DecidableEq, Repr

/-- The number the operating system gives the cause, where it has one. -/
def Fault.code? : Fault → Option Nat
  | .notFound => some 2
  | .permissionDenied => some 13
  | .exists => some 17
  | .notDirectory => some 20
  | .isDirectory => some 21
  | .invalidArgument => some 22
  | .nameTooLong => some 36
  | .notEmpty => some 39
  | .tooManyLinks => some 40
  | .notUtf8 | .nulInName | .nulInArgument | .notRegular => none

def Fault.reason : Fault → String
  | .notFound => "No such file or directory"
  | .permissionDenied => "Permission denied"
  | .exists => "File exists"
  | .notDirectory => "Not a directory"
  | .isDirectory => "Is a directory"
  | .invalidArgument => "Invalid argument"
  | .nameTooLong => "File name too long"
  | .notEmpty => "Directory not empty"
  | .tooManyLinks => "Too many levels of symbolic links"
  | .notUtf8 => "stream did not contain valid UTF-8"
  | .nulInName => "file name contained an unexpected NUL byte"
  | .nulInArgument => "nul byte found in provided data"
  | .notRegular => "the source path is neither a regular file nor a symlink to a regular file"

/-- The cause as it is reported, with its number if it has one. -/
def Fault.message (f : Fault) : String :=
  match f.code? with
  | some code => f.reason ++ " (os error " ++ Nat.repr code ++ ")"
  | none => f.reason

end SpeechConfig.FileSystem
