import ActorDirectory.Keyed
import ActorDirectory.Membership.Member
import ActorDirectory.Order

namespace ActorDirectory

structure Standing where
  status : Status
  name : String
  deriving DecidableEq, Repr

structure Snapshot where
  standings : Keyed Silo Standing
  epoch : Epoch
  deriving DecidableEq

structure Changes where
  added : List Silo
  removed : List Silo
  died : List Silo
  deriving DecidableEq, Repr

namespace Snapshot

def empty : Snapshot := ⟨.empty, ⟨0⟩⟩

def ofMembers (members : List Member) (epoch : Epoch) : Snapshot :=
  ⟨.ofList (members.map fun member => (member.silo, ⟨member.status, member.name⟩)), epoch⟩

def members (snapshot : Snapshot) : List Member :=
  (Order.sortOn Silo.rank snapshot.standings.keys).filterMap fun silo =>
    (snapshot.standings.get? silo).map fun standing => ⟨silo, standing.status, standing.name⟩

-- A known silo keeps its name, a new one goes by its address. The epoch advances either way.
def updated (snapshot : Snapshot) (silo : Silo) (status : Status) : Snapshot :=
  let name := ((snapshot.standings.get? silo).map Standing.name).getD silo.toText
  ⟨snapshot.standings.put silo ⟨status, name⟩, snapshot.epoch.next⟩

def without (snapshot : Snapshot) (silo : Silo) : Snapshot :=
  ⟨snapshot.standings.erase silo, snapshot.epoch.next⟩

def withActive (silos : List Silo) : Snapshot :=
  silos.foldl (fun snapshot silo => snapshot.updated silo .active) empty

def status? (snapshot : Snapshot) (silo : Silo) : Option Status :=
  (snapshot.standings.get? silo).map Standing.status

def status (snapshot : Snapshot) (silo : Silo) : Status := (snapshot.status? silo).getD .dead

def isActive (snapshot : Snapshot) (silo : Silo) : Bool := snapshot.status silo = .active

def isDead (snapshot : Snapshot) (silo : Silo) : Bool := snapshot.status silo = .dead

def activeSilos (snapshot : Snapshot) : List Silo :=
  Order.sortOn Silo.rank (snapshot.standings.keys.filter snapshot.isActive)

-- A silo dies when it was known and not dead before and is dead or unknown now, whatever it
-- went through on the way.
def changesSince (snapshot earlier : Snapshot) : Changes where
  added := snapshot.activeSilos.filter (!earlier.isActive ·)
  removed := earlier.activeSilos.filter (!snapshot.isActive ·)
  died := Order.sortOn Silo.rank
    (earlier.standings.keys.filter fun silo => !earlier.isDead silo && snapshot.isDead silo)

end Snapshot

namespace Changes

def isEmpty (changes : Changes) : Bool :=
  changes.added.isEmpty && changes.removed.isEmpty && changes.died.isEmpty

end Changes
end ActorDirectory
