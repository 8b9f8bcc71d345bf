import ActorDirectory.Silo

namespace ActorDirectory
open Text

inductive Status where
  | joining
  | active
  | shuttingDown
  | dead
  deriving DecidableEq, Repr

structure Epoch where
  number : UInt64
  deriving DecidableEq, Repr

structure Member where
  silo : Silo
  status : Status
  name : String
  deriving DecidableEq, Repr

namespace Status

def all : List Status := [joining, active, shuttingDown, dead]

def toText : Status → String
  | joining => "Joining"
  | active => "Active"
  | shuttingDown => "ShuttingDown"
  | dead => "Dead"

def ofText? (text : String) : Option Status := all.find? (·.toText = text)

end Status

namespace Epoch

def next (epoch : Epoch) : Epoch := ⟨epoch.number + 1⟩

def toText (epoch : Epoch) : String := "v" ++ String.ofList (decimal epoch.number.toNat)

end Epoch

namespace Member

def unnamed (silo : Silo) (status : Status) : Member := ⟨silo, status, silo.toText⟩

def isActive (member : Member) : Bool := member.status = .active

end Member
end ActorDirectory
