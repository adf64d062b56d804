import RpcStubs.Json.Position
import RpcStubs.Text.Quoted

/-!
# What can be wrong with a JSON text

A fault is a problem and the position at which it was noticed. Problems are of two kinds: the text
is no JSON, or its value does not have the shape that is asked for.
-/

namespace RpcStubs.Json

/-- A value that was found in place of another, as far as a message tells about it. -/
inductive Found where
  | null
  | boolean (value : Bool)
  | integer (value : Int)
  /-- A number with a fraction or an exponent, or one too large for an integer, by its digits. -/
  | floating (digits : String)
  | text (value : String)
  | list
  | object
deriving Repr, DecidableEq, Inhabited

/-- A found value in words. -/
def Found.words : Found → String
  | .null => "null"
  | .boolean value => "boolean `" ++ toString value ++ "`"
  | .integer value => "integer `" ++ toString value ++ "`"
  | .floating digits => "floating point `" ++ digits ++ "`"
  | .text value => "string " ++ Text.quoted value
  | .list => "sequence"
  | .object => "map"

/-- What can be wrong. -/
inductive Problem where
  | endInList
  | endInObject
  | endInString
  | endInValue
  | colonExpected
  | listCommaOrEndExpected
  | objectCommaOrEndExpected
  | wordExpected
  | valueExpected
  | badEscape
  | badNumber
  | numberTooLarge
  | controlCharacter
  | keyExpected
  | loneSurrogate
  | commaBeforeEnd
  | moreCharacters
  | endOfSurrogates
  /-- A value of another type than the expected one. -/
  | wrongType (found : Found) (expected : String)
  /-- A record without a field that it needs. -/
  | missingField (key : String)
  /-- A record with two values for a field. -/
  | duplicateField (key : String)
  /-- A record written as a list that is too short. -/
  | wrongLength (length : Nat) (expected : String)
deriving Repr, DecidableEq, Inhabited

/-- A problem in words. -/
def Problem.message : Problem → String
  | endInList => "EOF while parsing a list"
  | endInObject => "EOF while parsing an object"
  | endInString => "EOF while parsing a string"
  | endInValue => "EOF while parsing a value"
  | colonExpected => "expected `:`"
  | listCommaOrEndExpected => "expected `,` or `]`"
  | objectCommaOrEndExpected => "expected `,` or `\x7d`"
  | wordExpected => "expected ident"
  | valueExpected => "expected value"
  | badEscape => "invalid escape"
  | badNumber => "invalid number"
  | numberTooLarge => "number out of range"
  | controlCharacter => "control character (\\u0000-\\u001F) found while parsing a string"
  | keyExpected => "key must be a string"
  | loneSurrogate => "lone leading surrogate in hex escape"
  | commaBeforeEnd => "trailing comma"
  | moreCharacters => "trailing characters"
  | endOfSurrogates => "unexpected end of hex escape"
  | wrongType found expected => "invalid type: " ++ found.words ++ ", expected " ++ expected
  | missingField key => "missing field `" ++ key ++ "`"
  | duplicateField key => "duplicate field `" ++ key ++ "`"
  | wrongLength length expected =>
      "invalid length " ++ toString length ++ ", expected " ++ expected

/-- A problem and where it was noticed. -/
structure Fault where
  problem : Problem
  position : Position
deriving Repr, DecidableEq, Inhabited

/-- A fault in words. -/
def Fault.message (fault : Fault) : String :=
  fault.problem.message ++ " at line " ++ toString fault.position.line ++ " column "
    ++ toString fault.position.column

end RpcStubs.Json
