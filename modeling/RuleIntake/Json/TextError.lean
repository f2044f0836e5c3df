import RuleIntake.Json.Cursor
import RuleIntake.Wire.Mismatch

/-!
# Faults of JSON texts

A text is refused with a fault and the place where it was noticed.
-/

namespace RuleIntake.Json

inductive Fault
  | endInValue
  | endInList
  | endInObject
  | endInString
  | expectedColon
  | expectedListCommaOrEnd
  | expectedObjectCommaOrEnd
  | expectedIdent
  | expectedValue
  | invalidEscape
  | invalidNumber
  | numberOutOfRange
  | controlCharacter
  | keyMustBeString
  | loneSurrogate
  | endInHexEscape
  | trailingComma
  | trailingCharacters
  | tooDeep
  | mismatch (m : Wire.Mismatch)
deriving DecidableEq

def Fault.text : Fault → String
  | endInValue => "EOF while parsing a value"
  | endInList => "EOF while parsing a list"
  | endInObject => "EOF while parsing an object"
  | endInString => "EOF while parsing a string"
  | expectedColon => "expected `:`"
  | expectedListCommaOrEnd => "expected `,` or `]`"
  | expectedObjectCommaOrEnd => "expected `,` or `\x7d`"
  | expectedIdent => "expected ident"
  | expectedValue => "expected value"
  | invalidEscape => "invalid escape"
  | invalidNumber => "invalid number"
  | numberOutOfRange => "number out of range"
  | controlCharacter => "control character (\\u0000-\\u001F) found while parsing a string"
  | keyMustBeString => "key must be a string"
  | loneSurrogate => "lone leading surrogate in hex escape"
  | endInHexEscape => "unexpected end of hex escape"
  | trailingComma => "trailing comma"
  | trailingCharacters => "trailing characters"
  | tooDeep => "recursion limit exceeded"
  | mismatch m => m.text .json

structure TextError where
  fault : Fault
  position : Position
deriving DecidableEq

def TextError.text (e : TextError) : String :=
  e.fault.text ++ " at line " ++ toString e.position.line ++ " column " ++
    toString e.position.column

/-- Reads something from a cursor and says where it ends. -/
abbrev Reading (α : Type) := Except TextError (α × Cursor)

namespace Cursor

/-- Refuses the text for what was read so far. -/
def failHere {α : Type} (c : Cursor) (fault : Fault) : Except TextError α :=
  .error ⟨fault, c.position⟩

/-- Refuses the text for its next byte. -/
def failNext {α : Type} (c : Cursor) (fault : Fault) : Except TextError α :=
  .error ⟨fault, c.afterNext⟩

end Cursor

end RuleIntake.Json
