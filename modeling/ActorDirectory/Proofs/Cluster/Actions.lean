import ActorDirectory.Proofs.Cluster.Handover
import ActorDirectory.Proofs.Dispatch.Turns
import ActorDirectory.World

-- Runs of a cluster: anything may be done at any time, and any lane may take the next turn.
namespace ActorDirectory

inductive Action where
  | start (silo : Silo)
  | stop (silo : Silo)
  | apply (silo : Silo) (snapshot : Snapshot)
  | turn (lane : Nat)
  | pass (time : Nat)
  | register (silo : Silo) (address : Address) (single : Bool) (hops : UInt8)
  | unregister (silo : Silo) (addresses : List Address) (hops : UInt8)
  | lookup (silo : Silo) (grain : Grain) (hops : UInt8)
  | host (silo : Silo) (address : Address) (single : Bool)
  | unhost (silo : Silo) (address : Address)
  deriving DecidableEq

inductive Effect where
  | follow (snapshot : Snapshot)
  | accept (single multi : List Address)
  | destroy (addresses : List Address)

namespace Action

-- The membership changes or pending work is done, and clients do nothing.
def Shifts (allowed : Snapshot → Prop) : Action → Prop
  | apply _ snapshot => allowed snapshot
  | turn _ | pass _ => True
  | _ => False

theorem shifts_concat {allowed : Snapshot → Prop} {run : List Action} {action : Action} :
    (∀ other ∈ run ++ [action], other.Shifts allowed) ↔
      (∀ other ∈ run, other.Shifts allowed) ∧ action.Shifts allowed := by
  simp [or_imp, forall_and]

end Action

namespace Node

variable {hash : String → UInt64} {settings : Settings} {node : Node} {effect : Effect}

def undergo (hash : String → UInt64) (settings : Settings) (node : Node) :
    Effect → Node × List (Request Channel Errand)
  | .follow snapshot => node.apply hash settings snapshot
  | .accept single multi => (node.accept single multi).2
  | .destroy addresses => ({ node with catalog := node.catalog.destroy addresses }, [])

theorem undergo_frame : (node.undergo hash settings effect).1.silo = node.silo ∧
    (node.undergo hash settings effect).1.isRunning = node.isRunning := by
  cases effect with
  | follow snapshot => exact ⟨apply_frame.1, apply_frame.2.1⟩
  | accept single multi => exact ⟨rfl, rfl⟩
  | destroy addresses => exact ⟨rfl, rfl⟩

theorem undergo_catalog : (node.undergo hash settings effect).1.catalog =
    match effect with
    | .destroy addresses => node.catalog.destroy addresses
    | _ => node.catalog := by
  cases effect with
  | follow snapshot => exact apply_frame.2.2
  | accept single multi => rfl
  | destroy addresses => rfl

theorem undergo_proper (proper : node.partition.Proper) :
    (node.undergo hash settings effect).1.partition.Proper := by
  cases effect with
  | follow snapshot => exact apply_proper proper
  | accept single multi =>
    rw [undergo, accept_frame, Partition.accept_partition]
    exact Partition.enlist_proper (Partition.enlist_proper proper)
  | destroy addresses => exact proper

theorem undergo_made (made : node.membership.Made hash settings.bucketsPerSilo) :
    (node.undergo hash settings effect).1.membership.Made hash settings.bucketsPerSilo := by
  cases effect with
  | follow snapshot =>
    rw [undergo, apply_membership]
    cases installed : node.installs? hash settings snapshot with
    | none => exact made
    | some current => exact (installs_eq_some.mp installed).2.2 ▸ Membership.made_ofSnapshot
  | accept single multi => exact made
  | destroy addresses => exact made

end Node

namespace Cluster

variable {cluster : Cluster} {source target silo : Silo} {node : Node}

def Named (cluster : Cluster) : Prop :=
  ∀ silo node, cluster.nodes.get? silo = some node → node.silo = silo

def ownerIn (cluster : Cluster) (snapshot : Snapshot) (grain : Grain) : Option Silo :=
  (Membership.ofSnapshot cluster.hash cluster.settings.bucketsPerSilo snapshot).owner? cluster.hash
    grain

theorem ownerIn_active {snapshot : Snapshot} {grain : Grain} {owner : Silo}
    (owned : cluster.ownerIn snapshot grain = some owner) : snapshot.isActive owner = true :=
  Membership.owner_active Membership.made_ofSnapshot owned

theorem ownerIn_exists {snapshot : Snapshot} (valid : cluster.settings.problems = [])
    (active : snapshot.isActive silo = true) (grain : Grain) :
    ∃ owner, cluster.ownerIn snapshot grain = some owner :=
  Membership.owner_exists (Settings.positive valid).2.1 active grain

def receiver? (cluster : Cluster) (source target : Silo) : Option Node := do
  let node ← cluster.nodes.get? source
  if node.membership.snapshot.isActive target then
    if target = source then some node else (cluster.reach target).toOption.filter (·.isRunning)
  else none

def effect? (cluster : Cluster) : Channel → Errand → Option (Node × Effect)
  | .watch silo, .follow snapshot => (cluster.nodes.get? silo).map (·, .follow snapshot)
  | .handoff source target, .accept single multi =>
    (cluster.receiver? source target).map (·, .accept single multi)
  | .handoff source target, .destroy addresses =>
    (cluster.receiver? source target).map (·, .destroy addresses)
  | _, _ => none

theorem reach_ok (reached : cluster.reach target = .ok node) :
    target ∉ cluster.unreachable ∧ target ∈ cluster.linked ∧
      cluster.nodes.get? target = some node := by
  simp only [reach] at reached
  split at reached
  · cases reached
  · rename_i reachable
    split at reached
    · rename_i found
      split at reached
      · rename_i linked
        cases reached
        exact ⟨reachable, linked, found⟩
      · cases reached
    · cases reached

theorem reach_of (reachable : target ∉ cluster.unreachable) (linked : target ∈ cluster.linked)
    (found : cluster.nodes.get? target = some node) : cluster.reach target = .ok node := by
  simp [reach, reachable, linked, found]

@[simp] theorem send_reach (cluster : Cluster) (source target silo : Silo) (message : Message) :
    (cluster.send source target message).reach silo = cluster.reach silo := rfl

@[simp] theorem send_nodes (cluster : Cluster) (source target : Silo) (message : Message) :
    (cluster.send source target message).nodes = cluster.nodes := rfl

theorem receiver_found (found : cluster.receiver? source target = some node) :
    cluster.nodes.get? target = some node := by
  obtain ⟨origin, here, received⟩ := Option.bind_eq_some_iff.mp found
  split at received
  · split at received
    · rename_i same
      rw [same]
      exact here.trans received
    · obtain ⟨reached, _⟩ := Option.filter_eq_some_iff.mp received
      cases ended : cluster.reach target with
      | error fault => simp [ended, Except.toOption] at reached
      | ok next =>
        have same : next = node := by simpa [ended, Except.toOption] using reached
        exact same ▸ (reach_ok ended).2.2
  · cases received

theorem receiver_sees (found : cluster.receiver? source target = some node) :
    ∃ origin, cluster.nodes.get? source = some origin ∧
      origin.membership.snapshot.isActive target = true := by
  obtain ⟨origin, here, received⟩ := Option.bind_eq_some_iff.mp found
  split at received
  · rename_i active
    exact ⟨origin, here, active⟩
  · cases received

theorem receiver_of_active {next : Node} (here : cluster.nodes.get? source = some node)
    (active : node.membership.snapshot.isActive target = true)
    (reached : cluster.reach target = .ok next) (running : next.isRunning = true) :
    cluster.receiver? source target = some next := by
  simp only [receiver?, here, active, Option.bind_eq_bind, Option.bind_some, ↓reduceIte]
  split
  · rename_i same
    subst same
    exact here.symm.trans (reach_ok reached).2.2
  · simp [reached, Except.toOption, running]

def nodesAfter (cluster : Cluster) : Option (Node × Effect) → Keyed Silo Node
  | some (node, effect) =>
    cluster.nodes.put node.silo (node.undergo cluster.hash cluster.settings effect).1
  | none => cluster.nodes

def asked (cluster : Cluster) : Option (Node × Effect) → List (Request Channel Errand)
  | some (node, effect) => (node.undergo cluster.hash cluster.settings effect).2
  | none => []

def PerformedAs (cluster : Cluster) (effect : Option (Node × Effect))
    (result : Performed Channel Errand Cluster) : Prop :=
  (∃ sent, result.world = { cluster with nodes := cluster.nodesAfter effect, sent }) ∧
    result.requests = cluster.asked effect ∧ (effect.isSome = true → result.succeeded = true)

-- How an errand can fare that a silo sends out.
inductive Reception (cluster : Cluster) (node : Node) (target : Silo) : Option Node → Prop where
  | home : target = node.silo → Reception cluster node target (some node)
  | lost {fault : Fault} : target ≠ node.silo → cluster.reach target = .error fault →
      Reception cluster node target none
  | refused {next : Node} : target ≠ node.silo → cluster.reach target = .ok next →
      next.isRunning = false → Reception cluster node target none
  | received {next : Node} : target ≠ node.silo → cluster.reach target = .ok next →
      next.isRunning = true → Reception cluster node target (some next)

theorem receiver_reception (named : cluster.Named) (here : cluster.nodes.get? source = some node)
    (active : node.membership.snapshot.isActive target) :
    cluster.Reception node target (cluster.receiver? source target) := by
  simp only [receiver?, here, active, Option.bind_eq_bind, Option.bind_some, ↓reduceIte]
  have name := named _ _ here
  split
  · rename_i same
    exact .home (same.trans name.symm)
  · rename_i away
    rw [← name] at away
    cases reached : cluster.reach target with
    | error fault => exact .lost away reached
    | ok next =>
      cases running : next.isRunning with
      | false => simpa [Except.toOption, Option.filter_some, running] using Reception.refused away reached running
      | true => simpa [Except.toOption, Option.filter_some, running] using Reception.received away reached running

theorem performAccept_as (single multi : List Address) {received : Option Node}
    (reception : cluster.Reception node target received) :
    cluster.PerformedAs (received.map (·, .accept single multi))
      (cluster.performAccept node target single multi) := by
  cases reception with
  | home same =>
    simp only [performAccept, same, ↓reduceIte]
    exact ⟨⟨cluster.sent, rfl⟩, rfl, fun _ => rfl⟩
  | lost away reached =>
    simp only [performAccept, away, ↓reduceIte, send_reach, reached]
    exact ⟨⟨_, rfl⟩, rfl, nofun⟩
  | refused away reached stopped =>
    have found := (reach_ok reached).2.2
    simp only [performAccept, away, ↓reduceIte, send_reach, reached, accept, send_nodes, found,
      stopped, Bool.not_false]
    exact ⟨⟨_, rfl⟩, rfl, nofun⟩
  | received away reached running =>
    have found := (reach_ok reached).2.2
    simp only [performAccept, away, ↓reduceIte, send_reach, reached, accept, send_nodes, found,
      running, Bool.not_true, Bool.false_eq_true]
    exact ⟨⟨_, rfl⟩, rfl, fun _ => rfl⟩

theorem performDestroy_as (addresses : List Address) {received : Option Node}
    (reception : cluster.Reception node target received) :
    cluster.PerformedAs (received.map (·, .destroy addresses))
      (cluster.performDestroy node target addresses) := by
  cases reception with
  | home same =>
    simp only [performDestroy, same, ↓reduceIte]
    exact ⟨⟨cluster.sent, rfl⟩, rfl, fun _ => rfl⟩
  | lost away reached =>
    simp only [performDestroy, away, ↓reduceIte, send_reach, reached]
    exact ⟨⟨_, rfl⟩, rfl, nofun⟩
  | refused away reached stopped =>
    have found := (reach_ok reached).2.2
    simp only [performDestroy, away, ↓reduceIte, send_reach, reached, delete, send_nodes, found,
      stopped, Bool.not_false]
    exact ⟨⟨_, rfl⟩, rfl, nofun⟩
  | received away reached running =>
    have found := (reach_ok reached).2.2
    simp only [performDestroy, away, ↓reduceIte, send_reach, reached, delete, send_nodes, found]
    -- The silo itself is put back, so that what is known of it must not be rewritten in it.
    rw [if_neg (by simp [running])]
    exact ⟨⟨_, rfl⟩, rfl, fun _ => rfl⟩

theorem apply_as (silo : Silo) (snapshot : Snapshot) :
    cluster.PerformedAs ((cluster.nodes.get? silo).map (·, .follow snapshot))
      ((cluster.apply silo snapshot).1.done (cluster.apply silo snapshot).2) := by
  cases here : cluster.nodes.get? silo with
  | none =>
    simp only [apply, here, Option.map_none]
    exact ⟨⟨cluster.sent, rfl⟩, rfl, fun absent => absurd absent Bool.false_ne_true⟩
  | some node =>
    simp only [apply, here, Option.map_some]
    refine ⟨⟨cluster.sent, ?_⟩, rfl, fun _ => rfl⟩
    simp only [nodesAfter, Node.undergo, putNode, Node.apply_frame.1, done]

theorem perform_as (named : cluster.Named) (channel : Channel) (errand : Errand) :
    cluster.PerformedAs (cluster.effect? channel errand) (cluster.perform channel errand) := by
  have nothing : cluster.PerformedAs none (cluster.done []) :=
    ⟨⟨cluster.sent, rfl⟩, rfl, nofun⟩
  cases here : cluster.nodes.get? channel.source with
  | none =>
    have untouched : cluster.effect? channel errand = none := by
      cases channel with
      | handoff source target =>
        have absent : cluster.nodes.get? source = none := here
        cases errand <;> simp [effect?, receiver?, absent]
      | watch silo =>
        have absent : cluster.nodes.get? silo = none := here
        cases errand <;> simp [effect?, absent]
    simp only [perform, here, untouched]
    exact nothing
  | some node =>
    simp only [perform, here]
    cases channel with
    | watch silo =>
      cases errand with
      | follow snapshot => exact apply_as silo snapshot
      | accept single multi => exact nothing
      | destroy addresses => exact nothing
    | handoff source target =>
      have here : cluster.nodes.get? source = some node := here
      have skipped : ¬node.membership.snapshot.isActive target →
          cluster.receiver? source target = none := fun inactive => by
        simp [receiver?, here, inactive]
      cases errand with
      | follow snapshot => exact nothing
      | accept single multi =>
        simp only [effect?]
        split
        · rename_i active
          exact performAccept_as single multi (receiver_reception named here active)
        · rename_i inactive
          rw [skipped inactive]
          exact nothing
      | destroy addresses =>
        simp only [effect?]
        split
        · rename_i active
          exact performDestroy_as addresses (receiver_reception named here active)
        · rename_i inactive
          rw [skipped inactive]
          exact nothing

end Cluster

namespace World

def node? (world : World) (silo : Silo) : Option Node := world.cluster.nodes.get? silo

def Hosts (world : World) (silo : Silo) (hosted : Hosted) : Prop :=
  ∃ node, world.node? silo = some node ∧ hosted ∈ node.catalog.hosted

def ownerIn (world : World) (snapshot : Snapshot) (grain : Grain) : Option Silo :=
  world.cluster.ownerIn snapshot grain

def Agrees (world : World) (snapshot : Snapshot) : Prop :=
  ∀ silo node, world.node? silo = some node → node.isRunning = true →
    node.membership =
      .ofSnapshot world.cluster.hash world.cluster.settings.bucketsPerSilo snapshot

def Lists (world : World) (silo : Silo) (grain : Grain) : Prop :=
  ∃ node, world.node? silo = some node ∧ node.isRunning = true ∧
    (node.partition.roster? grain).isSome = true

def act (world : World) : Action → World
  | .start silo => world.start silo
  | .stop silo => world.stop silo
  | .apply silo snapshot => world.apply snapshot silo
  | .turn lane => { world with dispatch := world.dispatch.turn world.rules lane }
  | .pass time => { world with dispatch := world.dispatch.fire time }
  | .register silo address single hops =>
    world.withCluster (world.cluster.register silo address single hops).2
  | .unregister silo addresses hops =>
    world.withCluster (world.cluster.unregisterMany silo addresses hops).2
  | .lookup silo grain hops => world.withCluster (world.cluster.lookup silo grain hops).2
  | .host silo address single =>
    world.withCluster (world.cluster.modifyNode silo fun node =>
      { node with catalog := node.catalog.add address single })
  | .unhost silo address =>
    world.withCluster (world.cluster.modifyNode silo fun node =>
      { node with catalog := (node.catalog.remove address).2 })

def play (world : World) (actions : List Action) : World := actions.foldl act world

@[simp] theorem play_nil (world : World) : world.play [] = world := rfl

@[simp] theorem play_concat (world : World) (run : List Action) (action : Action) :
    world.play (run ++ [action]) = (world.play run).act action := by
  simp [play]

def effect? (world : World) : Action → Option (Node × Effect)
  | .apply silo snapshot => (world.node? silo).map (·, .follow snapshot)
  | .turn number =>
    (world.dispatch.next? number).bind fun next => world.cluster.effect? next.1.key next.2
  | _ => none

def Performs (world : World) (action : Action) (key : Channel) (errand : Errand) : Prop :=
  ∃ number lane, action = .turn number ∧ world.dispatch.next? number = some (lane, errand) ∧
    lane.key = key

inductive Reaches (world : World) (action : Action) (node : Node) : Effect → Prop where
  | told {silo : Silo} {snapshot : Snapshot} : action = .apply silo snapshot →
      world.node? silo = some node → Reaches world action node (.follow snapshot)
  | followed {silo : Silo} {snapshot : Snapshot} :
      world.Performs action (.watch silo) (.follow snapshot) → world.node? silo = some node →
      Reaches world action node (.follow snapshot)
  | handed {source target : Silo} {single multi : List Address} :
      world.Performs action (.handoff source target) (.accept single multi) →
      world.cluster.receiver? source target = some node →
      Reaches world action node (.accept single multi)
  | condemned {source target : Silo} {addresses : List Address} :
      world.Performs action (.handoff source target) (.destroy addresses) →
      world.cluster.receiver? source target = some node →
      Reaches world action node (.destroy addresses)

def becomes (world : World) (action : Action) (node : Node) : Node :=
  match world.effect? action with
  | some (affected, effect) =>
    if affected = node then
      (node.undergo world.cluster.hash world.cluster.settings effect).1
    else node
  | none => node

def asks (world : World) (action : Action) : List (Request Channel Errand) :=
  world.cluster.asked (world.effect? action)

variable {world : World} {action : Action} {allowed : Snapshot → Prop} {silo : Silo} {node : Node}
  {effect : Effect} {key : Channel} {errand : Errand}

theorem effect_reaches (found : world.effect? action = some (node, effect)) :
    world.Reaches action node effect := by
  cases action with
  | apply silo snapshot =>
    obtain ⟨_, here, same⟩ := Option.map_eq_some_iff.mp found
    cases same
    exact .told rfl here
  | turn number =>
    obtain ⟨⟨lane, errand⟩, next, found⟩ := Option.bind_eq_some_iff.mp found
    have performs : world.Performs (.turn number) lane.key errand := ⟨number, lane, rfl, next, rfl⟩
    generalize lane.key = key at found performs
    cases key with
    | watch silo =>
      cases errand with
      | follow snapshot =>
        obtain ⟨_, here, same⟩ := Option.map_eq_some_iff.mp found
        cases same
        exact .followed performs here
      | accept single multi => cases found
      | destroy addresses => cases found
    | handoff source target =>
      cases errand with
      | follow snapshot => cases found
      | accept single multi =>
        obtain ⟨_, received, same⟩ := Option.map_eq_some_iff.mp found
        cases same
        exact .handed performs received
      | destroy addresses =>
        obtain ⟨_, received, same⟩ := Option.map_eq_some_iff.mp found
        cases same
        exact .condemned performs received
  | _ => cases found

theorem effect_found (named : world.cluster.Named)
    (found : world.effect? action = some (node, effect)) :
    world.node? node.silo = some node := by
  have somewhere : ∃ silo, world.node? silo = some node := by
    cases effect_reaches found with
    | told _ here => exact ⟨_, here⟩
    | followed _ here => exact ⟨_, here⟩
    | handed _ received => exact ⟨_, Cluster.receiver_found received⟩
    | condemned _ received => exact ⟨_, Cluster.receiver_found received⟩
  obtain ⟨silo, here⟩ := somewhere
  exact (named _ _ here).symm ▸ here

theorem asks_effect {request : Request Channel Errand} (asked : request ∈ world.asks action) :
    ∃ node effect, world.effect? action = some (node, effect) ∧
      request ∈ (node.undergo world.cluster.hash world.cluster.settings effect).2 := by
  rw [asks] at asked
  cases affected : world.effect? action with
  | none =>
    rw [affected] at asked
    cases asked
  | some snapshots =>
    rw [affected] at asked
    exact ⟨snapshots.1, snapshots.2, rfl, asked⟩

theorem act_as (named : world.cluster.Named) (shifts : action.Shifts allowed) :
    ∃ sent, (world.act action).cluster =
      { world.cluster with nodes := world.cluster.nodesAfter (world.effect? action), sent } := by
  cases action with
  | apply silo snapshot =>
    have same : (world.act (.apply silo snapshot)).cluster =
        (world.cluster.apply silo snapshot).1 := Dispatch.requestAll_world ..
    rw [same]
    exact (Cluster.apply_as silo snapshot).1
  | turn number =>
    cases next : world.dispatch.next? number with
    | none =>
      have same : (world.act (.turn number)).cluster = world.cluster :=
        (Dispatch.turn_idle next).1
      rw [same]
      exact ⟨world.cluster.sent, by simp [effect?, next, Cluster.nodesAfter]⟩
    | some lane =>
      obtain ⟨lane, errand⟩ := lane
      have same : (world.act (.turn number)).cluster =
          (world.cluster.perform lane.key errand).world :=
        (Dispatch.turn_performs next).1
      rw [same]
      simpa [effect?, next] using (Cluster.perform_as named lane.key errand).1
  | pass time => exact ⟨_, rfl⟩
  | _ => cases shifts

theorem act_node? (named : world.cluster.Named) (shifts : action.Shifts allowed) :
    (world.act action).node? silo = (world.node? silo).map (world.becomes action) := by
  obtain ⟨sent, after⟩ := act_as named shifts
  rw [node?, after]
  cases found : world.effect? action with
  | none =>
    have idle : world.becomes action = id := by
      funext node
      simp [becomes, found]
    simp [idle, node?, Cluster.nodesAfter]
  | some affected =>
    obtain ⟨affected, effect⟩ := affected
    have here := effect_found named found
    simp only [Cluster.nodesAfter, Keyed.get?_put]
    split
    · rename_i same
      subst same
      simp [here, becomes, found]
    · rename_i other
      cases before : world.node? silo with
      | none => exact before
      | some node =>
        have elsewhere : affected ≠ node := fun same => other (same ▸ (named _ _ before).symm)
        simp only [Option.map_some, becomes, found, elsewhere, ↓reduceIte]
        exact before

theorem act_becomes (named : world.cluster.Named) (shifts : action.Shifts allowed)
    (here : world.node? silo = some node) :
    (world.act action).node? silo = some (world.becomes action node) := by
  rw [act_node? named shifts, here]
  rfl

theorem act_came {after : Node} (named : world.cluster.Named) (shifts : action.Shifts allowed)
    (found : (world.act action).node? silo = some after) :
    ∃ node, world.node? silo = some node ∧ world.becomes action node = after := by
  rw [act_node? named shifts] at found
  exact Option.map_eq_some_iff.mp found

theorem act_network (named : world.cluster.Named) (shifts : action.Shifts allowed) :
    (world.act action).cluster.hash = world.cluster.hash ∧
      (world.act action).cluster.settings = world.cluster.settings ∧
      (world.act action).cluster.linked = world.cluster.linked ∧
      (world.act action).cluster.unreachable = world.cluster.unreachable := by
  obtain ⟨sent, after⟩ := act_as named shifts
  rw [after]
  exact ⟨rfl, rfl, rfl, rfl⟩

theorem becomes_frame : (world.becomes action node).silo = node.silo ∧
    (world.becomes action node).isRunning = node.isRunning := by
  simp only [becomes]
  split
  · split
    · exact Node.undergo_frame
    · exact ⟨rfl, rfl⟩
  · exact ⟨rfl, rfl⟩

theorem of_act_pending (named : world.cluster.Named) (shifts : action.Shifts allowed)
    (pending : (world.act action).dispatch.Pending key errand) :
    world.dispatch.Pending key errand ∨ .enqueue key errand ∈ world.asks action := by
  cases action with
  | apply silo snapshot =>
    rcases Dispatch.of_requestAll pending with pending | asked
    · exact .inl pending
    · have same : (world.cluster.apply silo snapshot).2 = world.asks (.apply silo snapshot) :=
        (Cluster.apply_as silo snapshot).2.1
      exact .inr (same ▸ asked)
  | turn number =>
    cases next : world.dispatch.next? number with
    | none => exact .inl (((Dispatch.turn_idle next).2.1 key errand).mp pending)
    | some lane =>
      obtain ⟨lane, task⟩ := lane
      rcases (Dispatch.turn_performs next).2.1 key errand pending with pending | ⟨_, asked⟩
      · exact .inl pending
      · refine .inr ?_
        rw [asks, effect?, next]
        exact (Cluster.perform_as named lane.key task).2.1 ▸ asked
  | pass time => exact .inl pending
  | _ => cases shifts

theorem act_pending (shifts : action.Shifts allowed) (pending : world.dispatch.Pending key errand) :
    (world.act action).dispatch.Pending key errand ∨ world.Performs action key errand := by
  cases action with
  | apply silo snapshot => exact .inl (Dispatch.requestAll_keeps _ pending)
  | turn number =>
    cases next : world.dispatch.next? number with
    | none => exact .inl (((Dispatch.turn_idle next).2.1 key errand).mpr pending)
    | some lane =>
      obtain ⟨lane, task⟩ := lane
      rcases (Dispatch.turn_performs next).2.2.1 key errand pending with kept | ⟨rfl, rfl⟩
      · exact .inl kept
      · exact .inr ⟨number, lane, rfl, next, rfl⟩
  | pass time => exact .inl pending
  | _ => cases shifts

theorem act_asks (named : world.cluster.Named) (shifts : action.Shifts allowed)
    (accepting : world.dispatch.Accepting key) (asked : .enqueue key errand ∈ world.asks action) :
    (world.act action).dispatch.Pending key errand := by
  cases action with
  | apply silo snapshot =>
    have same : (world.cluster.apply silo snapshot).2 = world.asks (.apply silo snapshot) :=
      (Cluster.apply_as silo snapshot).2.1
    rw [← same] at asked
    exact Dispatch.requestAll_pending accepting asked
  | turn number =>
    cases next : world.dispatch.next? number with
    | none =>
      rw [asks, effect?, next] at asked
      cases asked
    | some lane =>
      obtain ⟨lane, task⟩ := lane
      rw [asks, effect?, next] at asked
      obtain ⟨_, requests, succeeds⟩ := Cluster.perform_as named lane.key task
      refine (Dispatch.turn_performs next).2.2.2.1 key errand (succeeds ?_) accepting
        (requests ▸ asked)
      cases found : world.cluster.effect? lane.key task with
      | none =>
        simp only [Option.bind_some, found] at asked
        cases asked
      | some _ => rfl
  | pass time => cases asked
  | _ => cases shifts

theorem act_accepting (shifts : action.Shifts allowed) (accepting : world.dispatch.Accepting key) :
    (world.act action).dispatch.Accepting key := by
  cases action with
  | apply silo snapshot => exact Dispatch.requestAll_accepting _ accepting
  | turn number =>
    cases next : world.dispatch.next? number with
    | none => exact (Dispatch.turn_idle next).2.2 key accepting
    | some lane => exact (Dispatch.turn_performs next).2.2.2.2 key accepting
  | pass time => exact accepting
  | _ => cases shifts

-- What every reached state keeps to.
structure Sound (world : World) : Prop where
  valid : world.cluster.settings.problems = []
  named : world.cluster.Named
  made : ∀ silo node, world.node? silo = some node →
    node.membership.Made world.cluster.hash world.cluster.settings.bucketsPerSilo
  proper : ∀ silo node, world.node? silo = some node → node.partition.Proper
  accepting : ∀ silo node, world.node? silo = some node → node.isRunning = true →
    ∀ key : Channel, key.source = silo → world.dispatch.Accepting key

theorem becomes_cases (world : World) (action : Action) (node : Node) :
    (∃ effect, world.effect? action = some (node, effect) ∧ world.becomes action node =
      (node.undergo world.cluster.hash world.cluster.settings effect).1) ∨
    (∀ effect, world.effect? action ≠ some (node, effect)) ∧ world.becomes action node = node := by
  cases found : world.effect? action with
  | none => exact .inr ⟨fun _ => nofun, by simp [becomes, found]⟩
  | some affected =>
    obtain ⟨affected, effect⟩ := affected
    by_cases same : affected = node
    · subst same
      exact .inl ⟨effect, rfl, by simp [becomes, found]⟩
    · refine .inr ⟨fun _ equal => same ?_, by simp [becomes, found, same]⟩
      cases equal
      rfl

end World
end ActorDirectory
