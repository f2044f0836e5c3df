import RuleIntake.Rule.MatchEntry

/-!
# Routing rules

A route leads requests that come from one of its sources to its destinations.
-/

namespace RuleIntake

open Json Wire

/-- Where requests come from. -/
structure Source where
  namespaceName : String
  service : String
  metadata : MatchMetadata
deriving DecidableEq, Inhabited

namespace Source

def fields : List (Field Decoder Source) := [
  .of "namespace" Decoder.string fun v s => { s with namespaceName := v },
  .of "service" Decoder.string fun v s => { s with service := v },
  .of "metadata" MatchMetadata.decoder fun v s => { s with metadata := v }]

def decoder : Decoder Source := Decoder.record "Source" fields ⟨"", "", .empty⟩

def toJson (s : Source) : Json :=
  .ofEntries [("namespace", .string s.namespaceName), ("service", .string s.service),
    ("metadata", s.metadata.toJson)]

end Source

/-- Where requests go to. -/
structure Destination where
  namespaceName : String
  service : String
  metadata : MatchMetadata
  priority : Option UInt32
  weight : Option UInt32
  transfer : Option String
  isolate : Option Bool
deriving DecidableEq, Inhabited

namespace Destination

def fields : List (Field Decoder Destination) := [
  .of "namespace" Decoder.string fun v d => { d with namespaceName := v },
  .of "service" Decoder.string fun v d => { d with service := v },
  .of "metadata" MatchMetadata.decoder fun v d => { d with metadata := v },
  .of "priority" (Decoder.optional Decoder.word) fun v d => { d with priority := v },
  .of "weight" (Decoder.optional Decoder.word) fun v d => { d with weight := v },
  .of "transfer" (Decoder.optional Decoder.string) fun v d => { d with transfer := v },
  .of "isolate" (Decoder.optional Decoder.boolean) fun v d => { d with isolate := v }]

def decoder : Decoder Destination :=
  Decoder.record "Destination" fields ⟨"", "", .empty, none, none, none, none⟩

def toJson (d : Destination) : Json :=
  .ofEntries [("namespace", .string d.namespaceName), ("service", .string d.service),
    ("metadata", d.metadata.toJson), ("priority", .ofOption .ofWord d.priority),
    ("weight", .ofOption .ofWord d.weight), ("transfer", .ofOption .string d.transfer),
    ("isolate", .ofOption .bool d.isolate)]

end Destination

/-- Sources, and the destinations of requests from them. -/
structure Route where
  sources : List Source
  destinations : List Destination
deriving DecidableEq, Inhabited

namespace Route

def fields : List (Field Decoder Route) := [
  .of "sources" (Decoder.list Source.decoder) fun v r => { r with sources := v },
  .of "destinations" (Decoder.list Destination.decoder) fun v r => { r with destinations := v }]

def decoder : Decoder Route := Decoder.record "Route" fields ⟨[], []⟩

def toJson (r : Route) : Json :=
  .ofEntries [("sources", .array (r.sources.map Source.toJson)),
    ("destinations", .array (r.destinations.map Destination.toJson))]

end Route

/-- The routes to and from a service. -/
structure Routing where
  namespaceName : String
  service : String
  inbounds : List Route
  outbounds : List Route
  revision : Option String
deriving DecidableEq, Inhabited

namespace Routing

def fields : List (Field Decoder Routing) := [
  .of "namespace" Decoder.string fun v r => { r with namespaceName := v },
  .of "service" Decoder.string fun v r => { r with service := v },
  .of "inbounds" (Decoder.list Route.decoder) fun v r => { r with inbounds := v },
  .of "outbounds" (Decoder.list Route.decoder) fun v r => { r with outbounds := v },
  .of "revision" (Decoder.optional Decoder.string) fun v r => { r with revision := v }]

def decoder : Decoder Routing := Decoder.record "Routing" fields ⟨"", "", [], [], none⟩

def toJson (r : Routing) : Json :=
  .ofEntries [("namespace", .string r.namespaceName), ("service", .string r.service),
    ("inbounds", .array (r.inbounds.map Route.toJson)),
    ("outbounds", .array (r.outbounds.map Route.toJson)),
    ("revision", .ofOption .string r.revision)]

end Routing

end RuleIntake
