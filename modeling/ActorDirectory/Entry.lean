import ActorDirectory.Address

namespace ActorDirectory
open Text

-- The wire form of one registration. Silo and activation share one packed field.
structure Entry where
  grain : String
  packed : String
  etag : String
  deriving DecidableEq, Repr

inductive Outcome where
  | success (entry : Entry)
  | redirect (entry actual : Entry)
  | failure (entry : Entry) (cause : Fault)
  deriving DecidableEq, Repr

namespace Entry

def ofAddress (address : Address) (version : Version) : Entry :=
  ⟨address.grain.toText, "1," ++ address.activation.toText ++ "," ++ address.silo.toText,
    version.toEtag⟩

def parts? (packed : String) : Option (String × String × String) := do
  let (layout, rest) ← cut ',' packed.toList
  let (activation, silo) ← cut ',' rest
  some (String.ofList layout, String.ofList activation, String.ofList silo)

def toAddress (entry : Entry) : Except ParseFault Address :=
  match parts? entry.packed with
  | none => .error (.entry entry.packed "wrong format")
  | some (layout, activation, silo) =>
    if layout = "1" then Address.parse entry.grain silo activation
    else .error (.entry entry.packed "unknown version")

def version (entry : Entry) : Version := Version.ofEtag entry.etag

def toTagged (entry : Entry) : Except ParseFault Tagged :=
  entry.toAddress.map fun address => ⟨address, entry.version⟩

def toFound (entry : Entry) : Except ParseFault Found :=
  entry.toAddress.map fun address => ⟨[address], entry.version⟩

end Entry

namespace Outcome

def entry : Outcome → Entry
  | success entry => entry
  | redirect entry _ => entry
  | failure entry _ => entry

-- What is stored after the attempt; nothing is known after a failure.
def authoritative? : Outcome → Option Entry
  | success entry => some entry
  | redirect _ actual => some actual
  | failure _ _ => none

def authoritative : Outcome → Except Fault Entry
  | success entry => .ok entry
  | redirect _ actual => .ok actual
  | failure _ cause => .error cause

def isSuccess : Outcome → Bool
  | success _ => true
  | _ => false

end Outcome
end ActorDirectory
