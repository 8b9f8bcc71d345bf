import ActorDirectory.Cluster.Network
import ActorDirectory.Dispatch.Clock

-- What silos do when the membership changes. The old owner of a grain drops it, the silos that
-- host activations register them again with the new owner, and the new owner has duplicates
-- torn down.
namespace ActorDirectory

inductive Channel where
  | handoff (source target : Silo)
  | watch (silo : Silo)
  deriving DecidableEq, Repr

inductive Errand where
  | accept (single multi : List Address)
  | destroy (addresses : List Address)
  | follow (snapshot : Snapshot)
  deriving DecidableEq

namespace Channel

def source : Channel → Silo
  | handoff source _ => source
  | watch silo => silo

def isHandoffOf (silo : Silo) : Channel → Bool
  | handoff source _ => source = silo
  | watch _ => false

end Channel

namespace Partition

-- Registers what another silo hands over. Addresses of grains that run at most once lose to an
-- activation that is registered already.
def accept (partition : Partition) (single multi : List Address) :
    List Address × Partition :=
  let (losers, partition) := single.foldl (fun (losers, partition) address =>
    let (stored, partition) := partition.register address true
    if stored.address.activation = address.activation then (losers, partition)
    else (losers ++ [address], partition)) ([], partition)
  (losers, multi.foldl (fun partition address => (partition.register address false).2) partition)

end Partition

namespace Node

def accept (node : Node) (single multi : List Address) :
    List Address × Node × List (Request Channel Errand) :=
  let (losers, partition) := node.partition.accept single multi
  (losers, { node with partition },
    (Order.group Address.silo losers).map fun (host, losers) =>
      .enqueue (.handoff node.silo host) (.destroy losers))

def moved (hash : String → UInt64) (node : Node) (previous current : Membership) :
    List (Silo × Hosted) :=
  node.catalog.hosted.filterMap fun hosted =>
    match current.owner? hash hosted.address.grain with
    | none => none
    | some owner =>
      if previous.owner? hash hosted.address.grain = some owner then none
      else some (owner, hosted)

def handoffs (chunk : Nat) (source owner : Silo) (moved : List Hosted) :
    List (Request Channel Errand) :=
  let single := (moved.filter (·.single)).map Hosted.address
  let multi := (moved.filter (!·.single)).map Hosted.address
  (Order.chunks chunk single).map (fun run => .enqueue (.handoff source owner) (.accept run [])) ++
    (Order.chunks chunk multi).map fun run => .enqueue (.handoff source owner) (.accept [] run)

def reassign (hash : String → UInt64) (chunk : Nat) (node : Node)
    (previous current : Membership) : Node × List (Request Channel Errand) :=
  let changes := current.snapshot.changesSince previous.snapshot
  let closing := (changes.removed ++ changes.died).map fun silo =>
    .close (.handoff node.silo silo)
  let (_, partition) := node.partition.retain fun grain host =>
    current.owner? hash grain = some node.silo && !current.snapshot.isDead host
  let batches := Order.group Prod.fst (node.moved hash previous current)
  ({ node with partition },
    closing ++ batches.flatMap fun (owner, batch) =>
      handoffs chunk node.silo owner (batch.map Prod.snd))

-- A snapshot of an earlier epoch is passed over. One that changes neither the active silos nor
-- the live ones is taken in and changes nothing else.
def apply (hash : String → UInt64) (settings : Settings) (node : Node) (snapshot : Snapshot) :
    Node × List (Request Channel Errand) :=
  if !node.isRunning then (node, [])
  else
    match node.membership.install? hash settings.bucketsPerSilo snapshot with
    | none => (node, [])
    | some current =>
      let previous := node.membership
      let node := { node with membership := current }
      if (current.snapshot.changesSince previous.snapshot).isEmpty then (node, [])
      else node.reassign hash settings.handoffChunkSize previous current

end Node

namespace Cluster

def accept (cluster : Cluster) (silo : Silo) (single multi : List Address) :
    Except Fault (List Address) × Cluster × List (Request Channel Errand) :=
  match cluster.nodes.get? silo with
  | none => (.error (.siloUnavailable silo), cluster, [])
  | some node =>
    if !node.isRunning then (.error .notRunning, cluster, [])
    else
      let (losers, node, requests) := node.accept single multi
      (.ok losers, cluster.putNode node, requests)

def delete (cluster : Cluster) (silo : Silo) (addresses : List Address) :
    Except Fault Unit × Cluster :=
  match cluster.nodes.get? silo with
  | none => (.error (.siloUnavailable silo), cluster)
  | some node =>
    if !node.isRunning then (.error .notRunning, cluster)
    else (.ok (), cluster.putNode { node with catalog := node.catalog.destroy addresses })

def apply (cluster : Cluster) (silo : Silo) (snapshot : Snapshot) :
    Cluster × List (Request Channel Errand) :=
  match cluster.nodes.get? silo with
  | none => (cluster, [])
  | some node =>
    let (node, requests) := node.apply cluster.hash cluster.settings snapshot
    (cluster.putNode node, requests)

def done (cluster : Cluster) (requests : List (Request Channel Errand)) :
    Performed Channel Errand Cluster :=
  ⟨cluster, true, requests⟩

def failed (cluster : Cluster) : Performed Channel Errand Cluster := ⟨cluster, false, []⟩

def performAccept (cluster : Cluster) (node : Node) (target : Silo)
    (single multi : List Address) : Performed Channel Errand Cluster :=
  if target = node.silo then
    let (_, node, requests) := node.accept single multi
    (cluster.putNode node).done requests
  else
    let cluster := cluster.send node.silo target (.accept single multi)
    match cluster.reach target with
    | .error _ => cluster.failed
    | .ok _ =>
      match cluster.accept target single multi with
      | (.error _, cluster, _) => cluster.failed
      | (.ok _, cluster, requests) => cluster.done requests

def performDestroy (cluster : Cluster) (node : Node) (host : Silo) (addresses : List Address) :
    Performed Channel Errand Cluster :=
  if host = node.silo then
    (cluster.putNode { node with catalog := node.catalog.destroy addresses }).done []
  else
    let cluster := cluster.send node.silo host (.delete addresses)
    match cluster.reach host with
    | .error _ => cluster.failed
    | .ok _ =>
      match cluster.delete host addresses with
      | (.error _, cluster) => cluster.failed
      | (.ok _, cluster) => cluster.done []

-- Errands of a silo that is gone, and those to a silo that is not active, are skipped.
def perform (cluster : Cluster) (channel : Channel) (errand : Errand) :
    Performed Channel Errand Cluster :=
  match cluster.nodes.get? channel.source with
  | none => cluster.done []
  | some node =>
    match channel, errand with
    | .watch silo, .follow snapshot =>
      let (cluster, requests) := cluster.apply silo snapshot
      cluster.done requests
    | .handoff _ target, .accept single multi =>
      if node.membership.snapshot.isActive target then
        cluster.performAccept node target single multi
      else cluster.done []
    | .handoff _ target, .destroy addresses =>
      if node.membership.snapshot.isActive target then
        cluster.performDestroy node target addresses
      else cluster.done []
    | _, _ => cluster.done []

-- Every address handed over may lose, and then has to be torn down. Following a snapshot hands
-- over at most what is hosted.
def cost (cluster : Cluster) (channel : Channel) (errand : Errand) : Nat :=
  let attempts := max cluster.settings.handoffMaxAttempts 1
  match errand with
  | .accept single _ => attempts + (attempts + 2) * single.length
  | .destroy _ => attempts
  | .follow _ =>
    match cluster.nodes.get? channel.source with
    | none => attempts
    | some node => attempts + 2 * (attempts + 2) * node.catalog.hosted.length

def rules (settings : Settings) : Rules Channel Errand Cluster where
  attempts := max settings.handoffMaxAttempts 1
  delay := settings.handoffRetryDelay
  perform := fun cluster channel errand _ => cluster.perform channel errand
  cost := Cluster.cost

end Cluster
end ActorDirectory
