import RuleIntake.Json.Basic

/-!
# Wire formats

A document can arrive as JSON text, as a JSON value or as MessagePack bytes. `WireFormat` collects
what each format can read, so that a type describes its spelling once, for all of them: a record
is a list of named fields, and each field knows how to put what it read into the record.
-/

namespace RuleIntake.Wire

/-- The values of an enumeration under their wire names, in declaration order. Unknown names stand
for the fallback if there is one. -/
structure Variants (α : Type) where
  typeName : String
  named : List (String × α)
  fallback : Option α

namespace Variants

variable {α : Type}

def names (v : Variants α) : List String := v.named.map (·.1)

def ofName? (v : Variants α) (name : String) : Option α :=
  ((v.named.find? (·.1 == name)).map (·.2)).or v.fallback

def ofIndex? (v : Variants α) (index : Nat) : Option α :=
  ((v.named[index]?).map (·.2)).or v.fallback

end Variants

/-- A field of a record of type `α`: its wire name, and how to read it into a record. -/
structure Field (R : Type → Type) (α : Type) where
  name : String
  read : R (α → α)

/-- What a format can read. `R α` reads one value of the format as an `α`. -/
class WireFormat (R : Type → Type) extends Functor R where
  string : R String
  optional {α : Type} : R α → R (Option α)
  anyValue : R Json
  enumeration {α : Type} : Variants α → R α
  /-- A record, spelled as a map from names or as a sequence in declaration order. Fields that are
  left out keep their value in the record that is given last. -/
  record {α : Type} : String → List (Field R α) → α → R α

/-- The field that is read as told and then put into the record. -/
def Field.of {R : Type → Type} [Functor R] {α β : Type} (name : String) (read : R β)
    (put : β → α → α) : Field R α :=
  ⟨name, put <$> read⟩

end RuleIntake.Wire
