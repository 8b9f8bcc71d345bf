import ActorDirectory.Cluster.Handoff
import ActorDirectory.Store.External

namespace ActorDirectory

structure World where
  dispatch : Dispatch Channel Errand Cluster
  stores : Keyed String External

structure Report where
  silo : Silo
  registered : Nat
  hosted : Nat
  destroyed : Nat
  dropped : Nat
  deriving DecidableEq, Repr

namespace World

def empty (hash : String → UInt64) (settings : Settings) : World :=
  ⟨{ world := { hash, settings } }, .empty⟩

def cluster (world : World) : Cluster := world.dispatch.world

def now (world : World) : Nat := world.dispatch.now

def rules (world : World) : Rules Channel Errand Cluster := Cluster.rules world.cluster.settings

def withCluster (world : World) (cluster : Cluster) : World :=
  { world with dispatch := { world.dispatch with world := cluster } }

def request (world : World) (requests : List (Request Channel Errand)) : World :=
  { world with dispatch := world.dispatch.requestAll requests }

def wait (world : World) (duration : Nat) : World :=
  { world with dispatch := world.dispatch.wait world.rules duration }

def sleep (world : World) (duration : Nat) : World :=
  { world with dispatch := world.dispatch.sleep world.rules duration }

def quiet (world : World) : World :=
  { world with dispatch := world.dispatch.quiet world.rules }

def quiesce (world : World) (silo : Silo) : World :=
  { world with dispatch := world.dispatch.quiesce world.rules (Channel.isHandoffOf silo) }

def quiesceAll (world : World) : World := world.cluster.silos.foldl quiesce world.quiet

def settle (world : World) : World := (quiesceAll (quiesceAll (quiesceAll world))).quiet

def report (world : World) : List Report :=
  world.cluster.silos.filterMap fun silo =>
    (world.cluster.nodes.get? silo).map fun node =>
      ⟨silo, node.partition.size, node.catalog.hosted.length, node.catalog.destroyed.length,
        total ((world.dispatch.lanes.filter fun lane => lane.key.isHandoffOf silo).map
          Lane.dropped)⟩

def start (world : World) (silo : Silo) : World :=
  let dispatch := world.dispatch.blank fun channel => channel.source = silo
  { world with dispatch := { dispatch with world := world.cluster.start silo } }

-- The work that follows from the change stays pending.
def apply (world : World) (snapshot : Snapshot) (silo : Silo) : World :=
  let (cluster, requests) := world.cluster.apply silo snapshot
  (world.withCluster cluster).request requests

def applyAll (world : World) (snapshot : Snapshot) : World :=
  world.cluster.silos.foldl (·.apply snapshot ·) world

def stop (world : World) (silo : Silo) : World :=
  let world := world.withCluster
    (world.cluster.modifyNode silo fun node => { node with isRunning := false })
  { world with dispatch := world.dispatch.halt fun channel => channel.source = silo }

def drop (world : World) (silo : Silo) : World :=
  let dispatch := world.dispatch.blank fun channel => channel.source = silo
  { world with dispatch := { dispatch with world := world.cluster.remove silo } }

def accept (world : World) (silo : Silo) (single multi : List Address) :
    Except Fault (List Address) × World :=
  let (result, cluster, requests) := world.cluster.accept silo single multi
  (result, (world.withCluster cluster).request requests)

def watch? (world : World) (silo : Silo) : Option Nat :=
  (List.range world.dispatch.lanes.length).reverse.find? fun number =>
    (world.dispatch.lanes[number]?).any fun lane => lane.key = .watch silo

def isWatching? (world : World) (silo : Silo) : Option Bool := do
  let lane ← world.dispatch.lanes[← world.watch? silo]?
  some (!lane.hasEnded)

def unwatch (world : World) (silo : Silo) : World := world.request [.close (.watch silo)]

def watch (world : World) (silo : Silo) (snapshot : Snapshot) : World :=
  let world := (world.unwatch silo).request [.enqueue (.watch silo) (.follow snapshot)]
  if (world.cluster.nodes.get? silo).any (·.isRunning) then world
  else { world with dispatch := world.dispatch.halt (· = .watch silo) }

-- Only the newest snapshot is seen. Answers whether anyone follows.
def announce (world : World) (silo : Silo) (snapshot : Snapshot) : Bool × World :=
  match world.isWatching? silo, world.watch? silo with
  | some true, some number =>
    let dispatch := { world.dispatch with
      lanes := world.dispatch.lanes.modify number fun lane =>
        { lane with waiting := [], finished := lane.accepted } }
    (true, { world with dispatch }.request [.enqueue (.watch silo) (.follow snapshot)])
  | _, _ => (false, world)

def ask (world : World) (name : String) (use : External → Timed α × External) :
    Option (α × World) := do
  let store ← world.stores.get? name
  let (timed, store) := use store
  some (timed.result, { world with stores := world.stores.put name store }.wait timed.waited)

def lookupStore (world : World) (name grain : String) :
    Option (Except Fault (Option Entry) × World) :=
  world.ask name (·.lookup grain)

end World
end ActorDirectory
