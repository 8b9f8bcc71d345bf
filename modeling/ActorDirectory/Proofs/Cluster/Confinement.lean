import ActorDirectory.Proofs.Cluster.Forwarding

-- What a silo holds is its own business: it owns the grains, and the activations run on live
-- silos. That stays so in any surroundings, as long as nothing is handed over to it.
namespace ActorDirectory

namespace Partition

variable {partition : Partition}

theorem exists_holds (proper : partition.Proper) {grain : Grain} {holding : Holding}
    (found : partition.held.get? grain = some holding) :
    ∃ inst ∈ holding.instances, partition.Holds (inst.address grain) := by
  have known := roster?_held found
  obtain ⟨inst, present⟩ := List.exists_mem_of_ne_nil _ (proper grain _ known).1
  exact ⟨inst, present, holding.roster, known, present⟩

end Partition

namespace Node

variable {hash : String → UInt64} {settings : Settings} {node : Node} {snapshot : Snapshot}

structure Confined (hash : String → UInt64) (settings : Settings) (node : Node) : Prop where
  made : node.membership.Made hash settings.bucketsPerSilo
  proper : node.partition.Proper
  owned : ∀ address, node.partition.Holds address → node.owns hash address.grain = true
  alive : ∀ address, node.partition.Holds address →
    node.membership.snapshot.isDead address.silo = false

theorem fresh_confined (silo : Silo) : Confined hash settings { silo } where
  made := Membership.made_empty
  proper := Partition.proper_empty
  owned := fun _ ⟨_, found, _⟩ => nomatch found
  alive := fun _ ⟨_, found, _⟩ => nomatch found

theorem apply_alive {address : Address} (ignored : node.adopts? hash settings snapshot = none)
    (alive : node.membership.snapshot.isDead address.silo = false) :
    (node.apply hash settings snapshot).1.membership.snapshot.isDead address.silo = false := by
  rw [apply_membership]
  cases installed : node.installs? hash settings snapshot with
  | none => exact alive
  | some current =>
    have unchanged : (current.snapshot.changesSince node.membership.snapshot).isEmpty = true := by
      simpa [adopts?, installed] using ignored
    exact (Snapshot.changes_isEmpty.mp unchanged).2 address.silo alive

theorem apply_confined (confined : node.Confined hash settings) (snapshot : Snapshot) :
    (node.apply hash settings snapshot).1.Confined hash settings := by
  have made : (node.undergo hash settings (.follow snapshot)).1.membership.Made hash
      settings.bucketsPerSilo := undergo_made confined.made
  have name : (node.apply hash settings snapshot).1.silo = node.silo := apply_frame.1
  cases adopted : node.adopts? hash settings snapshot with
  | none =>
    refine ⟨made, apply_proper confined.proper, fun address holds => ?_, fun address holds => ?_⟩
    · have before := confined.owned address (apply_holds.mp holds).1
      rwa [owns, apply_owner confined.made adopted, name]
    · exact apply_alive adopted (confined.alive address (apply_holds.mp holds).1)
  | some current =>
    have took : (node.apply hash settings snapshot).1.membership = current := by
      rw [apply_membership, (adopts_eq_some.mp adopted).1, Option.getD_some]
    refine ⟨made, apply_proper confined.proper, fun address holds => ?_, fun address holds => ?_⟩
    · rw [owns, owner?, took, name]
      exact decide_eq_true ((apply_holds.mp holds).2 current adopted).1
    · rw [took]
      exact ((apply_holds.mp holds).2 current adopted).2

theorem register_confined (confined : node.Confined hash settings) {address : Address}
    (single : Bool) (owns : node.owns hash address.grain = true)
    (alive : node.membership.snapshot.isDead address.silo = false) :
    Confined hash settings
      { node with partition := (node.partition.register address single).2 } where
  made := confined.made
  proper := Partition.register_proper confined.proper address single
  owned := fun other holds =>
    (Partition.register_holds.mp holds).elim (confined.owned other) fun new => new.1 ▸ owns
  alive := fun other holds =>
    (Partition.register_holds.mp holds).elim (confined.alive other) fun new => new.1 ▸ alive

theorem unregister_confined (confined : node.Confined hash settings) (address : Address) :
    Confined hash settings
      { node with partition := (node.partition.unregister address).2 } where
  made := confined.made
  proper := Partition.unregister_proper confined.proper address
  owned := fun other holds => confined.owned other (Partition.unregister_holds.mp holds).1
  alive := fun other holds => confined.alive other (Partition.unregister_holds.mp holds).1

theorem stop_confined (confined : node.Confined hash settings) :
    Confined hash settings { node with isRunning := false } :=
  ⟨confined.made, confined.proper, confined.owned, confined.alive⟩

end Node

namespace Cluster

variable {cluster after : Cluster} {home silo : Silo} {node : Node}

-- What a cluster can have become since one silo was new in it. Of that silo is only asked what
-- clients and the membership ask, and what is registered with it runs, as far as it knows, on a
-- live silo. The other silos and the network do whatever they like.
inductive Lived (home : Silo) : Cluster → Prop where
  | opened {cluster : Cluster} : cluster.Named → cluster.nodes.get? home = some { silo := home } →
      Lived home cluster
  | apply {cluster : Cluster} (snapshot : Snapshot) : Lived home cluster →
      Lived home (cluster.apply home snapshot).1
  | register {cluster : Cluster} (address : Address) (single : Bool) (hops : UInt8) :
      Lived home cluster →
      (∀ node, cluster.nodes.get? home = some node →
        node.membership.snapshot.isDead address.silo = false) →
      Lived home (cluster.register home address single hops).2
  | unregister {cluster : Cluster} (address : Address) (hops : UInt8) : Lived home cluster →
      Lived home (cluster.unregister home address hops).2
  | unregisterMany {cluster : Cluster} (addresses : List Address) (hops : UInt8) :
      Lived home cluster → Lived home (cluster.unregisterMany home addresses hops).2
  | lookup {cluster : Cluster} (grain : Grain) (hops : UInt8) : Lived home cluster →
      Lived home (cluster.lookup home grain hops).2
  | stop {cluster : Cluster} : Lived home cluster →
      Lived home (cluster.modifyNode home fun node => { node with isRunning := false })
  | elsewhere {cluster after : Cluster} : Lived home cluster → after.Named →
      after.hash = cluster.hash → after.settings = cluster.settings →
      after.nodes.get? home = cluster.nodes.get? home → Lived home after

structure Shelters (cluster : Cluster) (home : Silo) : Prop where
  named : cluster.Named
  confined : ∃ node, cluster.nodes.get? home = some node ∧
    node.Confined cluster.hash cluster.settings

theorem tended_named (named : cluster.Named) (tended : cluster.Tended after) : after.Named := by
  intro silo next found
  have related := tended.2 silo
  rw [found] at related
  cases before : cluster.nodes.get? silo with
  | none => rw [before] at related; cases related
  | some node =>
    rw [before] at related
    cases related with
    | some kept =>
      obtain ⟨_, rfl, _⟩ := kept
      exact named silo node before

theorem shelters_put (shelters : cluster.Shelters home)
    (confined : node.silo = home → node.Confined cluster.hash cluster.settings) :
    (cluster.putNode node).Shelters home := by
  refine ⟨fun silo next found => ?_, ?_⟩
  · simp only [putNode, Keyed.get?_put] at found
    split at found
    · rename_i same
      exact Option.some.inj found ▸ same.symm
    · exact shelters.named silo next found
  · simp only [putNode, Keyed.get?_put]
    split
    · rename_i same
      exact ⟨node, rfl, confined same.symm⟩
    · exact shelters.confined

theorem shelters_modify (shelters : cluster.Shelters home) {change : Node → Node}
    (named : ∀ node : Node, (change node).silo = node.silo)
    (confined : ∀ node, cluster.nodes.get? silo = some node →
      node.Confined cluster.hash cluster.settings →
        (change node).Confined cluster.hash cluster.settings) :
    (cluster.modifyNode silo change).Shelters home := by
  simp only [modifyNode]
  split
  · exact shelters
  · rename_i node here
    have name := (named node).trans (shelters.named silo node here)
    have put : (cluster.putNode (change node)).Shelters home :=
      shelters_put shelters fun same => ?_
    · rwa [putNode, name] at put
    · obtain ⟨there, found, before⟩ := shelters.confined
      have same : silo = home := name.symm.trans same
      subst same
      cases here.symm.trans found
      exact confined node here before

theorem unregisterMany_shelters (shelters : cluster.Shelters home) (silo : Silo)
    (addresses : List Address) (hops : UInt8) :
    (cluster.unregisterMany silo addresses hops).2.Shelters home := by
  refine unregisterAll_induction (motive := (·.Shelters home)) (roomAt hops) silo addresses ?_ ?_
    shelters
  · exact fun middle silo node address _ here owns shelters =>
      shelters_modify shelters (fun _ => rfl) fun node _ confined =>
        node.unregister_confined confined address
  · exact fun middle sent shelters => ⟨shelters.named, shelters.confined⟩

theorem register_shelters (shelters : cluster.Shelters home) (silo : Silo) (address : Address)
    (single : Bool) (hops : UInt8)
    (alive : ∀ node, cluster.nodes.get? home = some node →
      node.membership.snapshot.isDead address.silo = false) :
    (cluster.register silo address single hops).2.Shelters home := by
  have tended := register_tended shelters.named silo address single hops
  have made := register_ends shelters.named silo address single hops
  generalize cluster.register silo address single hops = result at tended made
  refine ⟨tended_named shelters.named tended, ?_⟩
  obtain ⟨⟨nodes, sent, same⟩, _⟩ := tended
  obtain ⟨node, here, confined⟩ := shelters.confined
  cases made with
  | failed unchanged =>
    cases (same : _ = _)
    exact ⟨node, unchanged ▸ here, confined⟩
  | @made owner answering after answered changed =>
    cases (same : _ = _)
    by_cases own : home = owner
    · subst own
      cases here.symm.trans answered.here
      exact ⟨_, (changed home).trans (if_pos rfl),
        Node.register_confined confined single answered.owns (alive node here)⟩
    · exact ⟨node, ((changed home).trans (if_neg own)).trans here, confined⟩

theorem lookup_shelters (shelters : cluster.Shelters home) (silo : Silo) (grain : Grain)
    (hops : UInt8) : (cluster.lookup silo grain hops).2.Shelters home := by
  obtain ⟨sent, sending⟩ := sendAlong_sent cluster (cluster.travelFrom silo grain hops).1
    (.lookup grain)
  simp only [lookup, sending]
  split
  · exact ⟨shelters.named, shelters.confined⟩
  · exact ⟨shelters.named, shelters.confined⟩

theorem apply_shelters (shelters : cluster.Shelters home) (silo : Silo) (snapshot : Snapshot) :
    (cluster.apply silo snapshot).1.Shelters home := by
  simp only [apply]
  split
  · exact shelters
  · rename_i node here
    refine shelters_put shelters fun same => ?_
    obtain ⟨there, found, confined⟩ := shelters.confined
    have name : silo = home :=
      ((shelters.named silo node here).symm.trans Node.apply_frame.1.symm).trans same
    subst name
    cases here.symm.trans found
    exact Node.apply_confined confined snapshot

theorem lived_shelters (lived : cluster.Lived home) : cluster.Shelters home := by
  induction lived with
  | opened named fresh => exact ⟨named, _, fresh, Node.fresh_confined home⟩
  | apply snapshot _ shelters => exact apply_shelters shelters home snapshot
  | register address single hops _ alive shelters =>
    exact register_shelters shelters home address single hops alive
  | unregister address hops _ shelters =>
    exact unregisterMany_shelters shelters home [address] hops
  | unregisterMany addresses hops _ shelters =>
    exact unregisterMany_shelters shelters home addresses hops
  | lookup grain hops _ shelters => exact lookup_shelters shelters home grain hops
  | stop _ shelters =>
    exact shelters_modify shelters (fun _ => rfl) fun _ _ confined => Node.stop_confined confined
  | elsewhere _ named hash settings kept shelters =>
    refine ⟨named, ?_⟩
    rw [hash, settings, kept]
    exact shelters.confined

-- Whatever snapshots came, old ones and those that change nothing too, every entry is of a grain
-- that the silo owns by the membership that it has installed now, and no activation in it runs
-- on a silo that is dead or unknown there.
theorem holdings_stay_confined (lived : cluster.Lived home) :
    ∃ node, cluster.nodes.get? home = some node ∧
      ∀ grain holding, node.partition.held.get? grain = some holding →
        node.membership.owner? cluster.hash grain = some home ∧
          ∀ inst ∈ holding.instances, node.membership.snapshot.isDead inst.silo = false := by
  have shelters := lived_shelters lived
  obtain ⟨node, here, confined⟩ := shelters.confined
  refine ⟨node, here, fun grain holding found => ⟨?_, fun inst present => ?_⟩⟩
  · obtain ⟨inst, _, holds⟩ := Partition.exists_holds confined.proper found
    have owned := of_decide_eq_true (confined.owned _ holds)
    rwa [shelters.named home node here] at owned
  · have known : node.partition.roster? grain = some holding.roster := by
      rw [Partition.roster?, found]
      rfl
    exact confined.alive (inst.address grain) ⟨holding.roster, known, present⟩

end Cluster

namespace Duo

def departing : Cluster :=
  let alone := ((World.empty Xxh3.hashText settings).play [.start first]).cluster
  let joined := (alone.apply first (listed 1 .active .joining)).1
  ((joined.register first (runningOn second) true 0).2.apply first
    (listed 2 .active .shuttingDown)).1

theorem departing_lived : departing.Lived first := by
  have named : ((World.empty Xxh3.hashText settings).play [.start first]).cluster.Named :=
    (World.play_sound (World.empty_sound Xxh3.hashText (by decide)) _).named
  refine .apply _ (.register _ _ _ (.apply _ (.opened named rfl)) ?_)
  have each : ∀ pair ∈ (((World.empty Xxh3.hashText settings).play [.start first]).cluster.apply
      first (listed 1 .active .joining)).1.nodes.pairs,
      pair.2.membership.snapshot.isDead second = false := by
    decide +kernel
  exact fun node here => each _ (Keyed.mem_of_get? here)

-- That it leaves is no change of the membership, and nothing was purged.
theorem departing_confined : departing.Lived first ∧
    ∃ node, departing.nodes.get? first = some node ∧
      node.membership.snapshot = listed 2 .active .shuttingDown ∧
      ∃ holding, node.partition.held.get? grain = some holding ∧
        holding.instances.map (·.silo) = [second] ∧
        node.membership.owner? departing.hash grain = some first ∧
        ∀ inst ∈ holding.instances, node.membership.snapshot.isDead inst.silo = false := by
  have filled : ∃ node ∈ departing.nodes.get? first,
      node.membership.snapshot = listed 2 .active .shuttingDown ∧
        ∃ holding ∈ node.partition.held.get? grain,
          holding.instances.map (·.silo) = [second] := by
    decide +kernel
  obtain ⟨node, here, latest, holding, found, hosted⟩ := filled
  obtain ⟨there, again, stays⟩ := Cluster.holdings_stay_confined departing_lived
  cases Option.some.inj (Eq.trans (Eq.symm here) again)
  exact ⟨departing_lived, node, here, latest, holding, found, hosted, stays grain holding found⟩

end Duo
end ActorDirectory
