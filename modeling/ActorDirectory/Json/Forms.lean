import ActorDirectory.Address
import ActorDirectory.Json.Printer
import ActorDirectory.Json.Reader
import ActorDirectory.Membership.Member

-- The JSON form of each value: what is written for it, and what is read as it. Reading takes
-- a record's fields by name in any order, or as the array of their values. It checks ranges
-- but not whether a grain is well formed.
namespace ActorDirectory

namespace Grain

def toJson (grain : Grain) : Json :=
  .ofFields [("grain_type", .ofText grain.kind), ("key", .ofText grain.key)]

def ofJson? (json : Json) : Option Grain := do
  match ← json.members? ["grain_type", "key"] with
  | [kind, key] => some ⟨← kind.text?, ← key.text?⟩
  | _ => none

end Grain

namespace Silo

def toJson (silo : Silo) : Json :=
  .ofFields [("ip", .ofText silo.ip.toText), ("port", .ofNat silo.port.toNat),
    ("generation", .ofNat silo.generation.toNat)]

def ofJson? (json : Json) : Option Silo := do
  match ← json.members? ["ip", "port", "generation"] with
  | [ip, port, generation] =>
    let ip ← Ip.parse? (← ip.text?).toList
    let port ← port.natural? UInt16.size
    let generation ← generation.natural? UInt32.size
    some ⟨ip, UInt16.ofNat port, UInt32.ofNat generation⟩
  | _ => none

end Silo

namespace Activation

def toJson (activation : Activation) : Json := .ofNat activation.value

def ofJson? (json : Json) : Option Activation := (json.natural? (Text.capacity 16 32)).map ofNat

end Activation

namespace Address

def toJson (address : Address) : Json :=
  .ofFields [("grain", address.grain.toJson), ("silo", address.silo.toJson),
    ("activation", address.activation.toJson)]

def ofJson? (json : Json) : Option Address := do
  match ← json.members? ["grain", "silo", "activation"] with
  | [grain, silo, activation] =>
    some ⟨← Grain.ofJson? grain, ← Silo.ofJson? silo, ← Activation.ofJson? activation⟩
  | _ => none

end Address

namespace Record

def toJson (record : Record) : Json :=
  .ofFields [("SiloAddress", .ofText record.silo), ("GrainId", .ofText record.grain),
    ("ActivationId", .ofText record.activation)]

def ofJson? (json : Json) : Option Record := do
  match ← json.members? ["SiloAddress", "GrainId", "ActivationId"] with
  | [silo, grain, activation] => some ⟨← silo.text?, ← grain.text?, ← activation.text?⟩
  | _ => none

def toJsonText (record : Record) : String := record.toJson.toText

def ofJsonText? (text : String) : Option Record := do ofJson? (← Json.parse? text)

end Record

namespace Status

def toJson (status : Status) : Json := .ofText status.toText

def ofJson? (json : Json) : Option Status := do ofText? (← json.name?)

end Status

namespace Epoch

def toJson (epoch : Epoch) : Json := .ofNat epoch.number.toNat

def ofJson? (json : Json) : Option Epoch :=
  (json.natural? UInt64.size).map fun number => ⟨UInt64.ofNat number⟩

end Epoch

namespace Member

def toJson (member : Member) : Json :=
  .ofFields [("silo", member.silo.toJson), ("status", member.status.toJson),
    ("name", .ofText member.name)]

def ofJson? (json : Json) : Option Member := do
  match ← json.members? ["silo", "status", "name"] with
  | [silo, status, name] => some ⟨← Silo.ofJson? silo, ← Status.ofJson? status, ← name.text?⟩
  | _ => none

end Member
end ActorDirectory
