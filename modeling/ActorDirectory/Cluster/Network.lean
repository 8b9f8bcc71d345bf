import ActorDirectory.Cluster.Node
import ActorDirectory.Settings

namespace ActorDirectory

inductive Message where
  | register (address : Address) (single : Bool) (hops : UInt8)
  | unregister (addresses : List Address) (hops : UInt8)
  | lookup (grain : Grain) (hops : UInt8)
  | accept (single multi : List Address)
  | delete (addresses : List Address)
  deriving DecidableEq, Repr

structure Sent where
  source : Silo
  target : Silo
  message : Message
  deriving DecidableEq, Repr

structure Cluster where
  hash : String → UInt64
  settings : Settings
  nodes : Keyed Silo Node := .empty
  linked : List Silo := []
  unreachable : List Silo := []
  sent : List Sent := []

structure Leg where
  source : Silo
  target : Silo
  hops : UInt8
  deriving DecidableEq, Repr

namespace Message

def listed (addresses : List Address) : String :=
  "; ".intercalate (addresses.map Address.toText)

def toText : Message → String
  | register address single hops => s!"register hops={hops} single={single} {address.toText}"
  | unregister addresses hops => s!"unregister hops={hops} {listed addresses}"
  | lookup grain hops => s!"lookup hops={hops} {grain.toText}"
  | accept single multi => s!"accept single=({listed single}) multi=({listed multi})"
  | delete addresses => "delete " ++ listed addresses

end Message

namespace Sent

def toText (sent : Sent) : String :=
  s!"{sent.source.toText} > {sent.target.toText} {sent.message.toText}"

def order (a b : Sent) : Ordering := (a.source.order b.source).then (a.target.order b.target)

end Sent

namespace Cluster

def owner? (cluster : Cluster) (silo : Silo) (grain : Grain) : Option Silo :=
  (cluster.nodes.get? silo).bind (·.owner? cluster.hash grain)

def owns (cluster : Cluster) (silo : Silo) (grain : Grain) : Bool :=
  cluster.owner? silo grain = some silo

def silos (cluster : Cluster) : List Silo := Order.sortOn Silo.rank cluster.nodes.keys

def putNode (cluster : Cluster) (node : Node) : Cluster :=
  { cluster with nodes := cluster.nodes.put node.silo node }

def modifyNode (cluster : Cluster) (silo : Silo) (change : Node → Node) : Cluster :=
  match cluster.nodes.get? silo with
  | none => cluster
  | some node => { cluster with nodes := cluster.nodes.put silo (change node) }

def modifyPartition (cluster : Cluster) (silo : Silo) (change : Partition → Partition) :
    Cluster :=
  cluster.modifyNode silo fun node => { node with partition := change node.partition }

def send (cluster : Cluster) (source target : Silo) (message : Message) : Cluster :=
  { cluster with sent := cluster.sent ++ [⟨source, target, message⟩] }

def start (cluster : Cluster) (silo : Silo) : Cluster :=
  { cluster.putNode { silo } with
    linked := if silo ∈ cluster.linked then cluster.linked else cluster.linked ++ [silo] }

def link (cluster : Cluster) (silo : Silo) : Cluster :=
  { cluster with linked := silo :: cluster.linked.erase silo }

def unlink (cluster : Cluster) (silo : Silo) : Cluster :=
  { cluster with linked := cluster.linked.filter (· ≠ silo) }

def setReachable (cluster : Cluster) (silo : Silo) (reachable : Bool) : Cluster :=
  let others := cluster.unreachable.filter (· ≠ silo)
  { cluster with unreachable := if reachable then others else silo :: others }

def remove (cluster : Cluster) (silo : Silo) : Cluster :=
  { cluster with nodes := cluster.nodes.erase silo }

def reach (cluster : Cluster) (target : Silo) : Except Fault Node :=
  if target ∈ cluster.unreachable then
    .error (.transport (target.toText ++ " is unreachable"))
  else
    match cluster.nodes.get? target with
    | some node => if target ∈ cluster.linked then .ok node else .error (.siloUnavailable target)
    | none => .error (.siloUnavailable target)

-- A request is forwarded at most 255 times; room is how often it still can be.
def hopsAt (room : Nat) : UInt8 := UInt8.ofNat (255 - room)

def roomAt (hops : UInt8) : Nat := 255 - hops.toNat

-- The hops that a request for a grain makes, and the silo that answers it.
def travel (cluster : Cluster) (grain : Grain) : Nat → Node → List Leg × Except Fault Silo
  | room, node =>
    match node.route cluster.hash cluster.settings.maxHops grain (hopsAt room) with
    | .error fault => ([], .error fault)
    | .ok .here => ([], .ok node.silo)
    | .ok (.forward owner) =>
      match room with
      | 0 => ([], .error (.tooManyHops grain.toText (hopsAt 0)))
      | room + 1 =>
        let leg : Leg := ⟨node.silo, owner, hopsAt room⟩
        match cluster.reach owner with
        | .error fault => ([leg], .error fault)
        | .ok next =>
          let (legs, ending) := travel cluster grain room next
          (leg :: legs, ending)

def travelFrom (cluster : Cluster) (silo : Silo) (grain : Grain) (hops : UInt8) :
    List Leg × Except Fault Silo :=
  match cluster.nodes.get? silo with
  | none => ([], .error (.siloUnavailable silo))
  | some node => cluster.travel grain (roomAt hops) node

def sendAlong (cluster : Cluster) (legs : List Leg) (message : UInt8 → Message) : Cluster :=
  legs.foldl (fun cluster leg => cluster.send leg.source leg.target (message leg.hops)) cluster

def register (cluster : Cluster) (silo : Silo) (address : Address) (single : Bool)
    (hops : UInt8) : Except Fault Tagged × Cluster :=
  let (legs, ending) := cluster.travelFrom silo address.grain hops
  let cluster := cluster.sendAlong legs (.register address single)
  match ending with
  | .error fault => (.error fault, cluster)
  | .ok owner =>
    match cluster.nodes.get? owner with
    | none => (.error (.siloUnavailable owner), cluster)
    | some node =>
      let (tagged, partition) := node.partition.register address single
      (.ok tagged, cluster.modifyPartition owner fun _ => partition)

def lookup (cluster : Cluster) (silo : Silo) (grain : Grain) (hops : UInt8) :
    Except Fault (Option Found) × Cluster :=
  let (legs, ending) := cluster.travelFrom silo grain hops
  let cluster := cluster.sendAlong legs (.lookup grain)
  match ending with
  | .error fault => (.error fault, cluster)
  | .ok owner =>
    (.ok ((cluster.nodes.get? owner).bind (·.partition.lookup grain)), cluster)

-- Takes away the addresses that the silo owns and sorts out those to forward. An address that
-- cannot be routed ends this at once.
def unregisterHere (cluster : Cluster) (silo : Silo) (room : Nat) :
    List Address → Except Fault (List (Silo × Address)) × Cluster
  | [] => (.ok [], cluster)
  | address :: rest =>
    match cluster.nodes.get? silo with
    | none => (.error (.siloUnavailable silo), cluster)
    | some node =>
      match node.route cluster.hash cluster.settings.maxHops address.grain (hopsAt room) with
      | .error fault => (.error fault, cluster)
      | .ok .here =>
        (cluster.modifyPartition silo fun partition => (partition.unregister address).2)
          |>.unregisterHere silo room rest
      | .ok (.forward owner) =>
        if room = 0 then (.error (.tooManyHops address.grain.toText (hopsAt 0)), cluster)
        else
          let (remote, cluster) := cluster.unregisterHere silo room rest
          (remote.map ((owner, address) :: ·), cluster)

def firstFault : Except Fault Unit → Except Fault Unit → Except Fault Unit
  | .ok (), result => result
  | fault, _ => fault

-- Addresses owned elsewhere are forwarded in one batch for each owner. Every batch is
-- forwarded, whatever becomes of the others.
def unregisterAll : Nat → Cluster → Silo → List Address → Except Fault Unit × Cluster
  | room, cluster, silo, addresses =>
    match cluster.unregisterHere silo room addresses with
    | (.error fault, cluster) => (.error fault, cluster)
    | (.ok remote, cluster) =>
      match room with
      | 0 => (.ok (), cluster)
      | room + 1 =>
        (Order.group Prod.fst remote).foldl (fun (result, cluster) (owner, batch) =>
          let batch := batch.map Prod.snd
          let cluster := cluster.send silo owner (.unregister batch (hopsAt room))
          match cluster.reach owner with
          | .error fault => (firstFault result (.error fault), cluster)
          | .ok _ =>
            let (answer, cluster) := unregisterAll room cluster owner batch
            (firstFault result answer, cluster)) (.ok (), cluster)

def unregisterMany (cluster : Cluster) (silo : Silo) (addresses : List Address)
    (hops : UInt8) : Except Fault Unit × Cluster :=
  unregisterAll (roomAt hops) cluster silo addresses

def unregister (cluster : Cluster) (silo : Silo) (address : Address) (hops : UInt8) :
    Except Fault Unit × Cluster :=
  cluster.unregisterMany silo [address] hops

def localLookup (cluster : Cluster) (silo : Silo) (grain : Grain) : Option Found :=
  (cluster.nodes.get? silo).bind (·.localLookup cluster.hash grain)

end Cluster
end ActorDirectory
