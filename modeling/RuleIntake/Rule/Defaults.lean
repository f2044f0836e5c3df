import RuleIntake.Rule.Payload

/-!
# Defaults

What rules leave out is filled in, and rate limit rules are brought into the order in which they
are tried: the lowest priority number first, then by identifier.
-/

namespace RuleIntake

namespace Destination

def defaultWeight : UInt32 := 100

def withDefaults (d : Destination) : Destination :=
  { d with
    weight := some (d.weight.getD defaultWeight)
    priority := some (d.priority.getD 0)
    isolate := some (d.isolate.getD false) }

end Destination

def Route.withDefaults (r : Route) : Route :=
  { r with destinations := r.destinations.map Destination.withDefaults }

def Routing.withDefaults (r : Routing) : Routing :=
  { r with
    inbounds := r.inbounds.map Route.withDefaults
    outbounds := r.outbounds.map Route.withDefaults }

namespace RateLimitRule

/-- What is done with requests above the limit. -/
def defaultAction : String := "reject"

def withDefaults (r : RateLimitRule) : RateLimitRule :=
  { r with
    priority := some (r.priority.getD 0)
    resource := some (r.resource.getD .qps)
    limitType := some (r.limitType.getD .global)
    action := some (r.action.getD defaultAction)
    disable := some (r.disable.getD false) }

/-- Whether a rule may be tried before another. -/
def comesBefore (a b : RateLimitRule) : Bool :=
  let p := a.priority.getD 0
  let q := b.priority.getD 0
  p < q || (p == q && a.id ≤ b.id)

end RateLimitRule

/-- Fills in what is missing and sorts. Rules that are equal in rank keep their order. -/
def RateLimit.withDefaults (r : RateLimit) : RateLimit :=
  { r with
    rules := (r.rules.map RateLimitRule.withDefaults).mergeSort RateLimitRule.comesBefore }

/-- Completes a payload as rules of a kind. Rules of the other kind stay as they are. -/
def Payload.withDefaults (kind : RuleKind) (p : Payload) : Payload :=
  match kind, p with
  | .routing, .routing r => .routing r.withDefaults
  | .rateLimiting, .rateLimiting r => .rateLimiting r.withDefaults
  | _, _ => p

end RuleIntake
