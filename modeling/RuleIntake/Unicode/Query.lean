import RuleIntake.Unicode.Age
import RuleIntake.Unicode.Segmentation

/-!
# Property queries

A pattern names a set of characters by a property, or by a property and one of its values. Names
are matched loosely: case, blanks, hyphens, underscores and a leading `is` do not count.
-/

namespace RuleIntake.Unicode

/-- Why a query names no set. -/
inductive QueryError
  | unknownProperty
  | unknownValue
deriving DecidableEq, Repr

/-- Drops what does not count in a name. `isc` keeps its prefix, as it is a name of its own. -/
def looseName (name : String) : String :=
  let chars := name.toList
  let tail : Option (List Char) :=
    match chars with
    | 'i' :: 's' :: rest => some rest
    | 'I' :: 's' :: rest => some rest
    | 'i' :: 'S' :: rest => some rest
    | 'I' :: 'S' :: rest => some rest
    | _ => none
  let kept := ((tail.getD chars).filter fun c =>
    c.toNat < 128 && c ≠ ' ' && c ≠ '_' && c ≠ '-').map Char.toLower
  if tail.isSome && kept == ['c'] then "isc" else String.ofList kept

def find? (table : List (List String × CharSet)) (name : String) : Option CharSet :=
  (table.find? (·.1.contains name)).map (·.2)

/-- Categories and scripts that have a name and no members. -/
def memberless : List String :=
  ["cs", "surrogate", "zzzz", "unknown", "hrkt", "katakanaorhiragana"]

def named (name : String) : Except QueryError CharSet :=
  let name := looseName name
  let category := find? Category.named name
  let found := (find? Property.named name).or (category.or (find? Script.named name))
  let hidden := Property.untabled.contains name && !(["cf", "lc"].contains name)
  match if hidden then none else found with
  | some set => .ok set
  | none =>
    if memberless.contains name then .error .unknownValue else .error .unknownProperty

/-- The properties whose values have tables, each with the look-up of a value. -/
def valued : List (List String × (String → Option CharSet)) := [
  (["gc", "generalcategory"], find? Category.named),
  (["sc", "script"], find? Script.named),
  (["scx", "scriptextensions"], fun value =>
    match Script.named.find? (·.1.contains value) with
    | some (short :: _, own) => some (Script.withExtensions short own)
    | _ => none),
  (["age"], Age.upTo?),
  (["gcb", "graphemeclusterbreak"], find? Segmentation.graphemeClasses),
  (["wb", "wordbreak"], find? Segmentation.wordClasses),
  (["sb", "sentencebreak"], find? Segmentation.sentenceClasses)]

/-- The set of characters whose property has the given value. -/
def withValue (property value : String) : Except QueryError CharSet :=
  let property := looseName property
  match valued.find? (·.1.contains property) with
  | some (_, lookup) =>
    match lookup (looseName value) with
    | some set => .ok set
    | none => .error .unknownValue
  | none =>
    if (find? Property.named property).isSome || Property.untabled.contains property then
      .error .unknownValue
    else
      .error .unknownProperty

/-! ## Classes with a name of their own -/

def digit : CharSet := Category.decimalNumber

def space : CharSet := Property.whiteSpace

/-- What words are made of: alphabetic characters, marks, digits, connectors and joiners. -/
def word : CharSet := .unions
  [Property.alphabetic, Category.mark, Category.decimalNumber, Category.connectorPunctuation,
    Property.joinControl]

def alphanumeric : CharSet := Property.alphabetic.union Category.number

end RuleIntake.Unicode
