import RuleIntake.Rule.Kind
import RuleIntake.Rule.RateLimit
import RuleIntake.Rule.Routing

/-!
# Payloads

The rules of a document, of one kind or the other.
-/

namespace RuleIntake

inductive Payload
  | routing (r : Routing)
  | rateLimiting (r : RateLimit)
deriving DecidableEq

namespace Payload

def kind : Payload → RuleKind
  | routing _ => .routing
  | rateLimiting _ => .rateLimiting

/-- The revision that the rules themselves carry. -/
def revision : Payload → Option String
  | routing r => r.revision
  | rateLimiting r => r.revision

def toJson : Payload → Json
  | routing r => r.toJson
  | rateLimiting r => r.toJson

def decoder : RuleKind → Json.Decoder Payload
  | .routing => Payload.routing <$> Routing.decoder
  | .rateLimiting => Payload.rateLimiting <$> RateLimit.decoder

end Payload

end RuleIntake
