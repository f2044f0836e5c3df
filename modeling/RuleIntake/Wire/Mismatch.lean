import RuleIntake.Json.Basic
import RuleIntake.Text.Quoted

/-!
# Mismatches between data and type

A `Mismatch` says why well-formed data spells no value of the type asked for: what was found and
what would have been accepted. Formats differ in how they name what was found, so the text of a
mismatch takes a `Vocabulary`.
-/

namespace RuleIntake.Wire

/-- What a reader came upon. -/
inductive Found
  | nothing
  | bool (b : Bool)
  | integer (n : Int)
  | float (x : Binary64)
  | infinite (negative : Bool)
  | notANumber
  | string (s : String)
  | bytes
  | sequence
  | map
  | extension
deriving DecidableEq

/-- What would have been accepted. -/
inductive Expectation
  | string
  | stringKey
  | sequence
  | map
  | boolean
  | u32
  | unit
  | optional
  | anyValue
  | fieldIdentifier
  | variantIdentifier
  | stringOrMap
  | singleKeyMap
  | fewerElements
  | record (name : String)
  | recordOf (name : String) (size : Nat)
  | enumeration (name : String)
  | variantIndex (count : Nat)
deriving DecidableEq

/-- Why data spells no value of the type asked for. -/
inductive Mismatch
  | invalidType (found : Found) (expected : Expectation)
  | invalidValue (found : Found) (expected : Expectation)
  | invalidLength (length : Nat) (expected : Expectation)
  | unknownVariant (name : String) (variants : List String)
  | missingField (name : String)
  | duplicateField (name : String)
deriving DecidableEq

/-- How a format names absent values and writes floating point numbers. -/
structure Vocabulary where
  nothing : String
  float : Binary64 → String

def Vocabulary.json : Vocabulary := ⟨"null", Binary64.text⟩

/-- The words of MessagePack, where numbers have no exponent. -/
def Vocabulary.messagePack : Vocabulary := ⟨"unit value", Binary64.plainText⟩

def ticked (s : String) : String := "`" ++ s ++ "`"

def Found.text (words : Vocabulary) : Found → String
  | nothing => words.nothing
  | bool b => "boolean " ++ ticked (if b then "true" else "false")
  | integer n => "integer " ++ ticked (toString n)
  | float x => "floating point " ++ ticked (words.float x)
  | infinite negative => "floating point " ++ ticked (if negative then "-inf" else "inf")
  | notANumber => "floating point " ++ ticked "NaN"
  | string s => "string " ++ Text.quoted s
  | bytes => "byte array"
  | sequence => "sequence"
  | map => "map"
  | extension => "newtype struct"

def Expectation.text : Expectation → String
  | string => "a string"
  | stringKey => "a string key"
  | sequence => "a sequence"
  | map => "a map"
  | boolean => "a boolean"
  | u32 => "u32"
  | unit => "unit"
  | optional => "option"
  | anyValue => "any valid JSON value"
  | fieldIdentifier => "field identifier"
  | variantIdentifier => "variant identifier"
  | stringOrMap => "string or map"
  | singleKeyMap => "map with a single key"
  | fewerElements => "fewer elements in array"
  | record name => "struct " ++ name
  | recordOf name size => "struct " ++ name ++ " with " ++ toString size ++ " elements"
  | enumeration name => "enum " ++ name
  | variantIndex count => "variant index 0 <= i < " ++ toString count

/-- The names to choose from: two are joined by a word, more are listed. -/
def choices : List String → String
  | [] => ""
  | [a] => ticked a
  | [a, b] => ticked a ++ " or " ++ ticked b
  | names => "one of " ++ ", ".intercalate (names.map ticked)

def Mismatch.text (words : Vocabulary) : Mismatch → String
  | invalidType found expected =>
    "invalid type: " ++ found.text words ++ ", expected " ++ expected.text
  | invalidValue found expected =>
    "invalid value: " ++ found.text words ++ ", expected " ++ expected.text
  | invalidLength length expected =>
    "invalid length " ++ toString length ++ ", expected " ++ expected.text
  | unknownVariant name variants =>
    "unknown variant " ++ ticked name ++ ", expected " ++ choices variants
  | missingField name => "missing field " ++ ticked name
  | duplicateField name => "duplicate field " ++ ticked name

end RuleIntake.Wire
