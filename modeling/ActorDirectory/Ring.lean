import ActorDirectory.Grain
import ActorDirectory.Order
import ActorDirectory.Silo

namespace ActorDirectory

structure Bucket where
  point : UInt64
  silo : Silo
  deriving DecidableEq, Repr

structure Ring where
  buckets : List Bucket
  deriving DecidableEq, Repr

namespace Bucket

def precedes (a b : Bucket) : Bool :=
  a.point < b.point ∨ a.point = b.point ∧ a.silo.rank ≤ b.silo.rank

def numbered (hash : String → UInt64) (silo : Silo) (number : Nat) : Bucket :=
  ⟨hash s!"{silo.toText}#{number}", silo⟩

end Bucket

namespace Ring

def empty : Ring := ⟨[]⟩

def bucketsOf (hash : String → UInt64) (perSilo : Nat) (silos : List Silo) : List Bucket :=
  silos.flatMap fun silo => (List.range perSilo).map (Bucket.numbered hash silo)

def build (hash : String → UInt64) (perSilo : Nat) (silos : List Silo) : Ring :=
  ⟨Order.sort Bucket.precedes (bucketsOf hash perSilo silos)⟩

def isEmpty (ring : Ring) : Bool := ring.buckets.isEmpty

-- Clockwise from a point: the first bucket at or after it, past the last one the first of all.
def ownerAt? (ring : Ring) (point : UInt64) : Option Silo :=
  (ring.buckets.find? (point ≤ ·.point) <|> ring.buckets.head?).map Bucket.silo

def owner? (hash : String → UInt64) (ring : Ring) (grain : Grain) : Option Silo :=
  ring.ownerAt? (hash grain.toText)

end Ring
end ActorDirectory
