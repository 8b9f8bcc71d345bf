import ActorDirectory.Activation
import ActorDirectory.Fault
import ActorDirectory.Grain

namespace ActorDirectory

structure Address where
  grain : Grain
  silo : Silo
  activation : Activation
  deriving DecidableEq, Repr

structure Tagged where
  address : Address
  version : Version
  deriving DecidableEq, Repr

structure Found where
  addresses : List Address
  version : Version
  deriving DecidableEq, Repr

structure Record where
  silo : String
  grain : String
  activation : String
  deriving DecidableEq, Repr

namespace Grain

def parse (text : String) : Except ParseFault Grain :=
  match parse? text with
  | some grain => .ok grain
  | none => .error (.grain text)

def make (kind key : String) : Except ParseFault Grain :=
  match make? kind key with
  | some grain => .ok grain
  | none => .error (.grain (kind ++ "/" ++ key))

end Grain

namespace Silo

def parse (text : String) : Except ParseFault Silo :=
  match parse? text with
  | some silo => .ok silo
  | none => .error (.silo text)

end Silo

namespace Activation

def parse (text : String) : Except ParseFault Activation :=
  match parse? text with
  | some activation => .ok activation
  | none => .error (.activation text)

end Activation

namespace Address

-- The first malformed part is reported: grain, then silo, then activation.
def parse (grain silo activation : String) : Except ParseFault Address := do
  let grain ← Grain.parse grain
  let silo ← Silo.parse silo
  let activation ← Activation.parse activation
  .ok ⟨grain, silo, activation⟩

def toText (address : Address) : String :=
  s!"{address.grain.toText} on {address.silo.toText} [{address.activation.toText}]"

-- The same instance, whatever silo each side believes it to run on.
def sameInstance (a b : Address) : Bool := a.grain = b.grain ∧ a.activation = b.activation

def order (a b : Address) : Ordering :=
  (a.grain.order b.grain).then
    ((a.silo.order b.silo).then (compare a.activation.value b.activation.value))

def toRecord (address : Address) : Record :=
  ⟨address.silo.toText, address.grain.toText, address.activation.toText⟩

end Address

namespace Record

def toAddress (record : Record) : Except ParseFault Address :=
  Address.parse record.grain record.silo record.activation

end Record

namespace Found

def primary? (found : Found) : Option Address := found.addresses.head?

end Found
end ActorDirectory
