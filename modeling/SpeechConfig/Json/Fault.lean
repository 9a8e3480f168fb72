/-
# Faults of a JSON document

The first problem met when a document is read from left to right: the text is
malformed, it ends too early, or a value does not fit the shape that is read.
-/
import SpeechConfig.Text.Quoted

namespace SpeechConfig.Json

/-- A place where the text breaks a rule of the notation. -/
inductive Malformed where
  | expectedValue
  | expectedLiteral
  | keyNotString
  | trailingComma
  | trailingCharacters
  | expectedColon
  | expectedCommaOrBracket
  | expectedCommaOrBrace
  | invalidNumber
  | numberOutOfRange
  | invalidEscape
  | loneSurrogate
  | unexpectedEndOfEscape
  | controlCharacter
deriving DecidableEq, Repr

/-- What was open when the text ended. -/
inductive Open where
  | value
  | list
  | object
  | string
deriving DecidableEq, Repr

/-- What stands where another kind of value is wanted. -/
inductive Found where
  | null
  | boolean (b : Bool)
  | integer (n : Int)
  | floating (text : String)
  | string (s : String)
  | sequence
  | map
deriving DecidableEq, Repr

/-- A value that does not fit its shape. -/
inductive Mismatch where
  | wrongKind (found : Found) (expected : String)
  | duplicateField (key : String)
  | missingField (key : String)
  | tooShort (length : Nat) (name : String) (fields : Nat)
  | unknownVariant (name first second : String)
  | duplicateWord (token : String)
deriving DecidableEq, Repr

/-- The first problem of a document. -/
inductive Fault where
  | malformed (cause : Malformed)
  | truncated (context : Open)
  | mismatch (cause : Mismatch)
deriving DecidableEq, Repr

def Malformed.message : Malformed → String
  | .expectedValue => "expected value"
  | .expectedLiteral => "expected ident"
  | .keyNotString => "key must be a string"
  | .trailingComma => "trailing comma"
  | .trailingCharacters => "trailing characters"
  | .expectedColon => "expected `:`"
  | .expectedCommaOrBracket => "expected `,` or `]`"
  | .expectedCommaOrBrace => "expected `,` or `\x7d`"
  | .invalidNumber => "invalid number"
  | .numberOutOfRange => "number out of range"
  | .invalidEscape => "invalid escape"
  | .loneSurrogate => "lone leading surrogate in hex escape"
  | .unexpectedEndOfEscape => "unexpected end of hex escape"
  | .controlCharacter => "control character (\\u0000-\\u001F) found while parsing a string"

def Open.message : Open → String
  | .value => "EOF while parsing a value"
  | .list => "EOF while parsing a list"
  | .object => "EOF while parsing an object"
  | .string => "EOF while parsing a string"

/-- A value, named by its kind and where it is short also by its text. -/
def Found.describe : Found → String
  | .null => "null"
  | .boolean b => "boolean `" ++ (if b then "true" else "false") ++ "`"
  | .integer n => "integer `" ++ Int.repr n ++ "`"
  | .floating text => "floating point `" ++ text ++ "`"
  | .string s => "string " ++ Text.quoted s
  | .sequence => "sequence"
  | .map => "map"

def duplicateWordMessage (token : String) : String :=
  "word `" ++ token ++ "` appears more than once in the word list"

def Mismatch.message : Mismatch → String
  | .wrongKind found expected => "invalid type: " ++ found.describe ++ ", expected " ++ expected
  | .duplicateField key => "duplicate field `" ++ key ++ "`"
  | .missingField key => "missing field `" ++ key ++ "`"
  | .tooShort length name fields =>
    "invalid length " ++ Nat.repr length ++ ", expected struct " ++ name ++ " with " ++
      Nat.repr fields ++ " elements"
  | .unknownVariant name first second =>
    "unknown variant `" ++ name ++ "`, expected `" ++ first ++ "` or `" ++ second ++ "`"
  | .duplicateWord token => duplicateWordMessage token

/-- The problem in words, without ` at line L column C` behind them: where a problem was met is not
kept. -/
def Fault.message : Fault → String
  | .malformed cause => cause.message
  | .truncated context => context.message
  | .mismatch cause => cause.message

end SpeechConfig.Json
