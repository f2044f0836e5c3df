import RuleIntake.Rule.MatchEntry

/-!
# Rate limit rules

A rule limits the requests whose labels match, to an amount in a span of time.
-/

namespace RuleIntake

open Json Wire

/-- What is limited. -/
inductive LimitResource
  | qps
  | concurrency
deriving DecidableEq, Repr

namespace LimitResource

def name : LimitResource → String
  | qps => "QPS"
  | concurrency => "CONCURRENCY"

def all : List LimitResource := [qps, concurrency]

def variants : Wire.Variants LimitResource := ⟨"LimitResource", all.map fun r => (r.name, r), none⟩

end LimitResource

/-- Over what the limit is taken. -/
inductive LimitType
  | global
  | perInstance
deriving DecidableEq, Repr

namespace LimitType

def name : LimitType → String
  | global => "GLOBAL"
  | perInstance => "LOCAL"

def all : List LimitType := [global, perInstance]

def variants : Wire.Variants LimitType := ⟨"LimitType", all.map fun t => (t.name, t), none⟩

end LimitType

/-- How many requests there may be in a span of time. -/
structure Amount where
  maxAmount : UInt32
  validDuration : String
deriving DecidableEq, Inhabited

namespace Amount

def fields : List (Field Decoder Amount) := [
  .of "maxAmount" Decoder.word fun v a => { a with maxAmount := v },
  .of "validDuration" Decoder.string fun v a => { a with validDuration := v }]

def decoder : Decoder Amount := Decoder.record "Amount" fields ⟨0, ""⟩

def toJson (a : Amount) : Json :=
  .ofEntries [("maxAmount", .ofWord a.maxAmount), ("validDuration", .string a.validDuration)]

end Amount

structure RateLimitRule where
  id : String
  namespaceName : String
  service : String
  priority : Option UInt32
  resource : Option LimitResource
  limitType : Option LimitType
  labels : MatchMetadata
  amounts : List Amount
  action : Option String
  disable : Option Bool
  revision : Option String
deriving DecidableEq, Inhabited

namespace RateLimitRule

def fields : List (Field Decoder RateLimitRule) := [
  .of "id" Decoder.string fun v r => { r with id := v },
  .of "namespace" Decoder.string fun v r => { r with namespaceName := v },
  .of "service" Decoder.string fun v r => { r with service := v },
  .of "priority" (Decoder.optional Decoder.word) fun v r => { r with priority := v },
  .of "resource" (Decoder.optional (Decoder.enumeration LimitResource.variants))
    fun v r => { r with resource := v },
  .of "type" (Decoder.optional (Decoder.enumeration LimitType.variants))
    fun v r => { r with limitType := v },
  .of "labels" MatchMetadata.decoder fun v r => { r with labels := v },
  .of "amounts" (Decoder.list Amount.decoder) fun v r => { r with amounts := v },
  .of "action" (Decoder.optional Decoder.string) fun v r => { r with action := v },
  .of "disable" (Decoder.optional Decoder.boolean) fun v r => { r with disable := v },
  .of "revision" (Decoder.optional Decoder.string) fun v r => { r with revision := v }]

def decoder : Decoder RateLimitRule :=
  Decoder.record "RateLimitRule" fields
    ⟨"", "", "", none, none, none, .empty, [], none, none, none⟩

def toJson (r : RateLimitRule) : Json :=
  .ofEntries [("id", .string r.id), ("namespace", .string r.namespaceName),
    ("service", .string r.service), ("priority", .ofOption .ofWord r.priority),
    ("resource", .ofOption (fun x => .string x.name) r.resource),
    ("type", .ofOption (fun x => .string x.name) r.limitType),
    ("labels", r.labels.toJson),
    ("amounts", .array (r.amounts.map Amount.toJson)), ("action", .ofOption .string r.action),
    ("disable", .ofOption .bool r.disable), ("revision", .ofOption .string r.revision)]

end RateLimitRule

/-- The limits of a service. -/
structure RateLimit where
  rules : List RateLimitRule
  revision : Option String
deriving DecidableEq, Inhabited

namespace RateLimit

def fields : List (Field Decoder RateLimit) := [
  .of "rules" (Decoder.list RateLimitRule.decoder) fun v r => { r with rules := v },
  .of "revision" (Decoder.optional Decoder.string) fun v r => { r with revision := v }]

def decoder : Decoder RateLimit := Decoder.record "RateLimit" fields ⟨[], none⟩

def toJson (r : RateLimit) : Json :=
  .ofEntries [("rules", .array (r.rules.map RateLimitRule.toJson)),
    ("revision", .ofOption .string r.revision)]

end RateLimit

end RuleIntake
