/-
# Faults in JSON text and where they are

A fault has a cause and a place. The place is the text that was not yet
consumed when the fault was found and a number of bytes past its start; line
and column are counted from it in bytes of the UTF-8 form, the column from the
last line feed on.

Key definitions: `Json.Found`, `Json.Problem`, `Json.Fault`,
`Json.Fault.position`, `Json.Fault.message`.
-/
import HotReload.Decimal.Shortest
import HotReload.Text.Quoted

namespace HotReload

namespace Json

/-- A value found where another kind of value is expected. -/
inductive Found where
  | null
  | boolean (value : Bool)
  | integer (value : Int)
  | floating (negative : Bool) (magnitude : Binary64)
  | string (value : String)
  | list
  | object
deriving DecidableEq

/-- Floating point numbers have an exponent from 10^16 on and below 10^-5. -/
def floatForm : Decimal.Form := ⟨16, -5⟩

namespace Found

/-- How a message names the value. -/
def describe : Found → String
  | null => "null"
  | boolean value => "boolean `" ++ toString value ++ "`"
  | integer value => "integer `" ++ toString value ++ "`"
  | floating negative magnitude =>
    "floating point `" ++ (if negative then "-" else "") ++ magnitude.shortest.render floatForm ++
      "`"
  | string value => "string " ++ quote value
  | list => "sequence"
  | object => "map"

end Found

/-- Why a text is not read. -/
inductive Problem where
  | endOfValue
  | endOfList
  | endOfObject
  | endOfString
  | noValue
  | misspelledWord
  | invalidNumber
  | numberOutOfRange
  | controlCharacter
  | invalidEscape
  | loneSurrogate
  | unpairedSurrogate
  | keyNotString
  | noColon
  | noListEnd
  | noObjectEnd
  | trailingComma
  | trailingCharacters
  | duplicateField (name : String)
  | invalidType (found : Found) (expected : String)
deriving DecidableEq

namespace Problem

/-- The wording of a problem. -/
def describe : Problem → String
  | endOfValue => "EOF while parsing a value"
  | endOfList => "EOF while parsing a list"
  | endOfObject => "EOF while parsing an object"
  | endOfString => "EOF while parsing a string"
  | noValue => "expected value"
  | misspelledWord => "expected ident"
  | invalidNumber => "invalid number"
  | numberOutOfRange => "number out of range"
  | controlCharacter => "control character (\\u0000-\\u001F) found while parsing a string"
  | invalidEscape => "invalid escape"
  | loneSurrogate => "lone leading surrogate in hex escape"
  | unpairedSurrogate => "unexpected end of hex escape"
  | keyNotString => "key must be a string"
  | noColon => "expected `:`"
  | noListEnd => "expected `,` or `]`"
  | noObjectEnd => "expected `,` or `\x7d`"
  | trailingComma => "trailing comma"
  | trailingCharacters => "trailing characters"
  | duplicateField name => "duplicate field `" ++ name ++ "`"
  | invalidType found expected => "invalid type: " ++ found.describe ++ ", expected " ++ expected

end Problem

/-- A problem, the text not consumed when it was found, and how many bytes past
the start of that text it lies. -/
structure Fault where
  problem : Problem
  rest : List Char
  ahead : Nat
deriving DecidableEq

/-- A fault at the start of the text not consumed. -/
def Problem.here (p : Problem) (rest : List Char) : Fault := ⟨p, rest, 0⟩

/-- A fault just past the first byte of the text not consumed. -/
def Problem.next (p : Problem) (rest : List Char) : Fault := ⟨p, rest, 1⟩

/-- The number of bytes of the UTF-8 form of a text. -/
def byteLength : List Char → Nat
  | [] => 0
  | c :: text => c.utf8Size + byteLength text

namespace Fault

/-- The number of bytes before the fault; it never lies past the end. -/
def offset (f : Fault) (text : List Char) : Nat :=
  min (byteLength text) (byteLength text - byteLength f.rest + f.ahead)

/-- The line, counted from one, and the number of bytes before the fault in
that line. -/
def position (f : Fault) (text : List Char) : Nat × Nat :=
  let before := (String.ofList text).toUTF8.toList.take (f.offset text)
  (before.count 10 + 1, (before.reverse.takeWhile (· != 10)).length)

/-- The message about a fault in the given text. -/
def message (f : Fault) (text : List Char) : String :=
  let (line, column) := f.position text
  f.problem.describe ++ " at line " ++ toString line ++ " column " ++ toString column

end Fault

end Json

end HotReload
