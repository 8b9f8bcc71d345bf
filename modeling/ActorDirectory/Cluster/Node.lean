import ActorDirectory.Membership.View
import ActorDirectory.Partition

namespace ActorDirectory

structure Hosted where
  address : Address
  single : Bool
  deriving DecidableEq, Repr

structure Catalog where
  hosted : List Hosted := []
  destroyed : List Address := []
  deriving DecidableEq, Repr

structure Node where
  silo : Silo
  partition : Partition := .empty
  membership : Membership := .empty
  catalog : Catalog := {}
  isRunning : Bool := true
  deriving DecidableEq

inductive Route where
  | here
  | forward (owner : Silo)
  deriving DecidableEq, Repr

namespace Catalog

def add (catalog : Catalog) (address : Address) (single : Bool) : Catalog :=
  { catalog with hosted := catalog.hosted ++ [⟨address, single⟩] }

def hosts (catalog : Catalog) (address : Address) : Bool :=
  catalog.hosted.any (·.address = address)

def remove (catalog : Catalog) (address : Address) : Bool × Catalog :=
  (catalog.hosts address,
    { catalog with hosted := catalog.hosted.filter (·.address ≠ address) })

def destroy (catalog : Catalog) (addresses : List Address) : Catalog :=
  addresses.foldl (fun catalog address =>
    match catalog.remove address with
    | (true, rest) => { rest with destroyed := rest.destroyed ++ [address] }
    | (false, _) => catalog) catalog

end Catalog

namespace Node

def owner? (hash : String → UInt64) (node : Node) (grain : Grain) : Option Silo :=
  node.membership.owner? hash grain

def owns (hash : String → UInt64) (node : Node) (grain : Grain) : Bool :=
  node.owner? hash grain = some node.silo

-- A stopped silo answers nothing, and a request that was forwarded too often is given up.
def route (hash : String → UInt64) (maxHops : UInt8) (node : Node) (grain : Grain)
    (hops : UInt8) : Except Fault Route :=
  if !node.isRunning then .error .notRunning
  else if maxHops < hops then .error (.tooManyHops grain.toText hops)
  else
    match node.owner? hash grain with
    | none => .error .noActiveSilos
    | some owner => .ok (if owner = node.silo then .here else .forward owner)

-- Answers only for grains that this silo owns, without asking another.
def localLookup (hash : String → UInt64) (node : Node) (grain : Grain) : Option Found :=
  if node.isRunning && node.owns hash grain then node.partition.lookup grain else none

end Node
end ActorDirectory
