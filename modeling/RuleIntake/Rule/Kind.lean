import RuleIntake.Wire.Format

/-!
# Kinds of documents and of rules

Documents of two types hold rules; the others belong to somebody else. An unknown type is no error
of its own, so that new types can be introduced by those who send documents.
-/

namespace RuleIntake

/-- What a document says it is about. -/
inductive DocumentType
  | serviceInstance
  | cluster
  | routing
  | rateLimit
  | circuitBreaker
  | services
  | unknown
deriving DecidableEq, Repr

namespace DocumentType

instance : Inhabited DocumentType := ⟨unknown⟩

/-- The name on the wire and in messages. -/
def name : DocumentType → String
  | serviceInstance => "INSTANCE"
  | cluster => "CLUSTER"
  | routing => "ROUTING"
  | rateLimit => "RATE_LIMIT"
  | circuitBreaker => "CIRCUIT_BREAKER"
  | services => "SERVICES"
  | unknown => "UNKNOWN"

def all : List DocumentType :=
  [serviceInstance, cluster, routing, rateLimit, circuitBreaker, services, unknown]

/-- Names that nobody knows stand for the unknown type. -/
def variants : Wire.Variants DocumentType :=
  ⟨"DocumentType", all.map fun t => (t.name, t), some unknown⟩

end DocumentType

inductive RuleKind
  | routing
  | rateLimiting
deriving DecidableEq, Repr

namespace RuleKind

/-- The name on the wire. -/
def wireName : RuleKind → String
  | routing => "Routing"
  | rateLimiting => "RateLimiting"

/-- The name in messages. -/
def text : RuleKind → String
  | routing => "routing"
  | rateLimiting => "rate_limiting"

def all : List RuleKind := [routing, rateLimiting]

def variants : Wire.Variants RuleKind := ⟨"RuleKind", all.map fun k => (k.wireName, k), none⟩

end RuleKind

/-- The kind of the rules in documents of a type. -/
def DocumentType.ruleKind? : DocumentType → Option RuleKind
  | .routing => some .routing
  | .rateLimit => some .rateLimiting
  | _ => none

def RuleKind.documentType : RuleKind → DocumentType
  | .routing => .routing
  | .rateLimiting => .rateLimit

end RuleIntake
