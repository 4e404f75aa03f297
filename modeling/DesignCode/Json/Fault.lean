import DesignCode.Text.Quoted
import DesignCode.Json.Printer

/-!
# What can be wrong with a JSON text

A `Fault` names the first thing that keeps a text from denoting a value of the kind that is asked
for.  `Fault.category` tells a text that breaks off from one that is no JSON and from one that
denotes something else; `Fault.message` is the wording.
-/

namespace DesignCode.Json

open Decimal (digitChars)

/-- What stands in a text where something else was asked for. -/
inductive Found where
  | null
  | bool (b : Bool)
  | int (n : Int)
  | float (x : Float)
  | string (s : String)
  | sequence
  | map

/-- What is wrong with a text. -/
inductive Fault where
  | endsInValue
  | endsInList
  | endsInObject
  | endsInString
  | noValue
  | noWord
  | noColon
  | noListEnd
  | noObjectEnd
  | trailingComma
  | trailingCharacters
  | keyNotString
  | invalidNumber
  | numberOutOfRange
  | invalidEscape
  | loneSurrogate
  | missingSurrogate
  | controlCharacter
  | tooDeep
  | missingField (name : String)
  | duplicateField (name : String)
  | unknownVariant (name : String) (known : List String)
  | wrongLength (length : Nat) (expected : String)
  | wrongType (found : Found) (expected : String)
  | wrongValue (found : Found) (expected : String)
  | noAlternative (type : String)

/-- The three ways in which a text can be wrong. -/
inductive Category where
  /-- The text ends too early. -/
  | brokenOff
  /-- The text is no JSON. -/
  | malformed
  /-- The text denotes something else than asked for. -/
  | mismatch

def Category.name : Category → String
  | brokenOff => "eof"
  | malformed => "syntax"
  | mismatch => "data"

def Fault.category : Fault → Category
  | endsInValue | endsInList | endsInObject | endsInString => .brokenOff
  | missingField _ | duplicateField _ | unknownVariant _ _ | wrongLength _ _ | wrongType _ _
  | wrongValue _ _ | noAlternative _ => .mismatch
  | _ => .malformed

/-- A name between backticks. -/
def ticked (name : String) : String := "`" ++ name ++ "`"

/-- How a message speaks of what was found. -/
def Found.describe : Found → String
  | null => "null"
  | bool b => "boolean " ++ ticked (String.ofList (boolText b))
  | int n => "integer " ++ ticked (String.ofList (intText n))
  | float x => "floating point " ++ ticked (String.ofList (floatText x))
  | string s => "string " ++ String.ofList (Text.quoted s.toList)
  | sequence => "sequence"
  | map => "map"

/-- How a message lists the names of variants. -/
def listNames : List String → String
  | [a] => ticked a
  | [a, b] => ticked a ++ " or " ++ ticked b
  | names => "one of " ++ ", ".intercalate (names.map ticked)

def Fault.message : Fault → String
  | endsInValue => "EOF while parsing a value"
  | endsInList => "EOF while parsing a list"
  | endsInObject => "EOF while parsing an object"
  | endsInString => "EOF while parsing a string"
  | noValue => "expected value"
  | noWord => "expected ident"
  | noColon => "expected `:`"
  | noListEnd => "expected `,` or `]`"
  | noObjectEnd => "expected `,` or `\x7d`"
  | trailingComma => "trailing comma"
  | trailingCharacters => "trailing characters"
  | keyNotString => "key must be a string"
  | invalidNumber => "invalid number"
  | numberOutOfRange => "number out of range"
  | invalidEscape => "invalid escape"
  | loneSurrogate => "lone leading surrogate in hex escape"
  | missingSurrogate => "unexpected end of hex escape"
  | controlCharacter =>
    "control character (\\u0000-\\u001F) found while parsing a string"
  | tooDeep => "recursion limit exceeded"
  | missingField name => "missing field " ++ ticked name
  | duplicateField name => "duplicate field " ++ ticked name
  | unknownVariant name known =>
    "unknown variant " ++ ticked name ++ ", expected " ++ listNames known
  | wrongLength n expected => "invalid length " ++ String.ofList (digitChars n) ++
    ", expected " ++ expected
  | wrongType found expected => "invalid type: " ++ found.describe ++ ", expected " ++ expected
  | wrongValue found expected => "invalid value: " ++ found.describe ++ ", expected " ++ expected
  | noAlternative type => "data did not match any variant of untagged enum " ++ type

end DesignCode.Json
