import RuleIntake.Rule.Error

/-!
# Events

What happens to documents is told in events, some of them warnings.
-/

namespace RuleIntake

/-- Which routes of a service are meant. -/
inductive Direction
  | inbound
  | outbound
deriving DecidableEq, Repr

def Direction.text : Direction → String
  | inbound => "inbound"
  | outbound => "outbound"

/-- Which end of a route is meant. -/
inductive RouteSide
  | source
  | destination
deriving DecidableEq, Repr

def RouteSide.text : RouteSide → String
  | source => "source"
  | destination => "destination"

inductive Event
  /-- A pattern has a matcher. Of the pattern so many characters are shown. -/
  | matcherReady (field pattern : String) (previewLength : Nat)
  | extractionFailed (service : ServiceKey) (kind : RuleKind) (error : RuleError)
  | constructed (service : ServiceKey) (kind : RuleKind) (revision : String)
  | publishedInvalid (service : ServiceKey) (error : RuleError)
  | validationSkipped
  | validated (service : ServiceKey) (revision : String) (matchers : Nat)
  | invalid (service : ServiceKey) (revision : String) (error : RuleError)
  | routeInvalid (direction : Direction) (index : Nat) (side : RouteSide) (error : RuleError)
  | labelsInvalid (rule : String) (error : RuleError)
  | snapshotEncoded (service : ServiceKey) (size : Nat)
  | snapshotMissing (service : ServiceKey) (kind : RuleKind)
  | snapshotInvalid (service : ServiceKey) (error : RuleError)
  | bootstrapped (service : ServiceKey) (kind : RuleKind) (revision : String)
deriving DecidableEq

namespace Event

def isWarning : Event → Bool
  | extractionFailed _ _ _ => true
  | invalid _ _ _ => true
  | routeInvalid _ _ _ _ => true
  | labelsInvalid _ _ => true
  | snapshotInvalid _ _ => true
  | _ => false

def message : Event → String
  | matcherReady field pattern previewLength =>
    "Regex matcher ready | Field: " ++ field ++ " | Pattern: " ++
      String.ofList (pattern.toList.take previewLength)
  | extractionFailed service kind error =>
    "Rule payload extraction failed | Service: " ++ service.text ++ " | Kind: " ++ kind.text ++
      " | Error: " ++ error.message
  | constructed service kind revision =>
    "Rule document constructed | Service: " ++ service.text ++ " | Kind: " ++ kind.text ++
      " | Revision: " ++ revision
  | publishedInvalid service error =>
    "Publishing invalid rule document | Service: " ++ service.text ++
      " | Error kept on document: " ++ error.message
  | validationSkipped => "Skip validation of uninitialized rule document"
  | validated service revision matchers =>
    "Rule document validated | Service: " ++ service.text ++ " | Revision: " ++ revision ++
      " | Matchers: " ++ toString matchers
  | invalid service revision error =>
    "Rule document invalid | Service: " ++ service.text ++ " | Revision: " ++ revision ++
      " | Error: " ++ error.message
  | routeInvalid direction index side error =>
    "Routing " ++ direction.text ++ " route #" ++ toString index ++ " " ++ side.text ++
      " invalid: " ++ error.message
  | labelsInvalid rule error =>
    "Rate limit rule " ++ rule ++ " labels invalid: " ++ error.message
  | snapshotEncoded service size =>
    "Snapshot encoded | Service: " ++ service.text ++ " | Size: " ++ toString size ++ " bytes"
  | snapshotMissing service kind =>
    "No snapshot found | Service: " ++ service.text ++ " | Kind: " ++ kind.text
  | snapshotInvalid service error =>
    "Snapshot rule document invalid | Service: " ++ service.text ++ " | Error: " ++ error.message
  | bootstrapped service kind revision =>
    "Rule document bootstrapped from snapshot | Service: " ++ service.text ++ " | Kind: " ++
      kind.text ++ " | Revision: " ++ revision

def line (e : Event) : String := (if e.isWarning then "WARN " else "DEBUG ") ++ e.message

/-- The longest preview that can be laid out. -/
def maxPreviewLength : Nat := 0x10000 - 1

/-- Whether an event can be told at all. -/
def isTellable : Event → Bool
  | matcherReady _ _ previewLength => previewLength ≤ maxPreviewLength
  | _ => true

/-- What is said when an event cannot be told. -/
def layoutPanic : String := "Formatting argument out of range"

end Event

end RuleIntake
