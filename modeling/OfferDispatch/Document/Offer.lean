import OfferDispatch.Document.Basic
import OfferDispatch.Offer.Basic

/-!
# Offers as documents
-/

namespace OfferDispatch.Document

instance : Document PortRange where
  encode r := .obj [("begin", encode r.first), ("end", encode r.last)]
  decode? document := do
    let [first, last] ← parts? ["begin", "end"] document | none
    return ⟨← decode? first, ← decode? last⟩

/-- The content of a resource of a given kind. -/
def resourceValue? (kind : String) (content : Json) : Option (ResourceValue Float) :=
  if kind = "scalar" then (decode? content).map .scalar
  else if kind = "ranges" then (decode? content).map .ranges
  else if kind = "set" then (decode? content).map .set
  else none

/-- The kind stands beside the content. -/
instance : Document (ResourceValue Float) where
  encode
    | .scalar amount => .obj [("type", .str "scalar"), ("value", encode amount)]
    | .ranges ranges => .obj [("type", .str "ranges"), ("value", encode ranges)]
    | .set items => .obj [("type", .str "set"), ("value", encode items)]
  decode? document := do
    let [kind, content] ← parts? ["type", "value"] document | none
    resourceValue? (← choice? kind) content

instance : Document (Resource Float) where
  encode r := .obj [("name", encode r.name), ("role", encode r.role), ("value", encode r.value)]
  decode? document := do
    let [name, role, value] ← parts? ["name", "role", "value"] document | none
    return ⟨← decode? name, ← decode? role, ← decode? value⟩

instance : Document Attribute where
  encode a := .obj [("name", encode a.name), ("value", encode a.value)]
  decode? document := do
    let [name, value] ← parts? ["name", "value"] document | none
    return ⟨← decode? name, ← decode? value⟩

instance : Document Maintenance where
  encode m := .obj [("start", encode m.start), ("end", encode m.stop)]
  decode? document := do
    let [start, stop] ← parts? ["start", "end"] document | none
    return ⟨← decode? start, ← decode? stop⟩

instance : Document (Offer Float) where
  encode o := .obj [("id", encode o.id), ("agent_id", encode o.agent),
    ("hostname", encode o.hostname), ("resources", encode o.resources),
    ("attributes", encode o.attributes), ("unavailability", encode o.maintenance)]
  decode? document := do
    let [id, agent, hostname, resources, attributes, maintenance] ← parts?
      ["id", "agent_id", "hostname", "resources", "attributes", "unavailability"] document | none
    return ⟨← decode? id, ← decode? agent, ← decode? hostname, ← decode? resources,
      ← decode? attributes, ← decode? maintenance⟩

end OfferDispatch.Document
