import ActorDirectory.Proofs.Cluster.Actions

-- What the calls of clients may change: a silo changes only entries of grains that it owns.
namespace ActorDirectory

namespace Node

def Tended (hash : String → UInt64) (before after : Node) : Prop :=
  ∃ partition, after = { before with partition } ∧
    (before.partition.Proper → partition.Proper) ∧
    ∀ grain, before.owns hash grain = false →
      partition.roster? grain = before.partition.roster? grain

variable {hash : String → UInt64} {node middle after : Node}

theorem tended_refl : node.Tended hash node := ⟨_, rfl, id, fun _ _ => rfl⟩

theorem tended_trans (one : node.Tended hash middle) (two : middle.Tended hash after) :
    node.Tended hash after := by
  obtain ⟨first, rfl, proper, kept⟩ := one
  obtain ⟨second, rfl, laterProper, laterKept⟩ := two
  exact ⟨second, rfl, laterProper ∘ proper,
    fun grain other => (laterKept grain other).trans (kept grain other)⟩

theorem route_here {maxHops hops : UInt8} {grain : Grain}
    (here : node.route hash maxHops grain hops = .ok .here) : node.owns hash grain := by
  simp only [route] at here
  split at here
  · cases here
  · split at here
    · cases here
    · split at here
      · cases here
      · rename_i owner owned
        split at here
        · rename_i same
          simp [owns, owned, same]
        · cases here

end Node

namespace Cluster

def Tended (before after : Cluster) : Prop :=
  (∃ nodes sent, after = { before with nodes, sent }) ∧
    ∀ silo, Option.Rel (Node.Tended before.hash) (before.nodes.get? silo) (after.nodes.get? silo)

variable {cluster middle after : Cluster} {node : Node} {silo owner : Silo} {grain : Grain}

theorem tended_sent (cluster : Cluster) (sent : List Sent) : cluster.Tended { cluster with sent } := by
  refine ⟨⟨_, _, rfl⟩, fun silo => ?_⟩
  cases cluster.nodes.get? silo with
  | none => exact .none
  | some node => exact .some Node.tended_refl

theorem tended_refl (cluster : Cluster) : cluster.Tended cluster := tended_sent cluster cluster.sent

theorem tended_trans (one : cluster.Tended middle) (two : middle.Tended after) :
    cluster.Tended after := by
  obtain ⟨⟨nodes, sent, rfl⟩, first⟩ := one
  obtain ⟨⟨laterNodes, laterSent, rfl⟩, second⟩ := two
  refine ⟨⟨laterNodes, laterSent, rfl⟩, fun silo => ?_⟩
  have one := first silo
  have two := second silo
  revert one two
  generalize cluster.nodes.get? silo = a
  generalize nodes.get? silo = b
  generalize laterNodes.get? silo = c
  intro one two
  cases one with
  | none => exact two
  | some one =>
    cases two with
    | some two => exact .some (Node.tended_trans one two)

theorem tended_owner (tended : cluster.Tended after) (silo : Silo) (grain : Grain) :
    after.owner? silo grain = cluster.owner? silo grain := by
  obtain ⟨⟨nodes, sent, rfl⟩, related⟩ := tended
  have related : Option.Rel (Node.Tended cluster.hash) (cluster.nodes.get? silo)
    (nodes.get? silo) := related silo
  simp only [owner?]
  generalize cluster.nodes.get? silo = before, nodes.get? silo = now at related ⊢
  cases related with
  | none => rfl
  | some tended =>
    obtain ⟨partition, rfl, _, _⟩ := tended
    rfl

theorem tended_modify {change : Partition → Partition} (here : cluster.nodes.get? silo = some node)
    (proper : node.partition.Proper → (change node.partition).Proper)
    (kept : ∀ grain, node.owns cluster.hash grain = false →
      (change node.partition).roster? grain = node.partition.roster? grain) :
    cluster.Tended (cluster.modifyPartition silo change) := by
  simp only [modifyPartition, modifyNode, here]
  refine ⟨⟨_, _, rfl⟩, fun other => ?_⟩
  by_cases same : other = silo
  · subst same
    simp only [here, Keyed.get?_put, ↓reduceIte]
    exact .some ⟨_, rfl, proper, kept⟩
  · simp only [Keyed.get?_put, same, ↓reduceIte]
    exact (tended_refl cluster).2 other

theorem sendAlong_sent (cluster : Cluster) (legs : List Leg) (message : UInt8 → Message) :
    ∃ sent, cluster.sendAlong legs message = { cluster with sent } := by
  induction legs generalizing cluster with
  | nil => exact ⟨_, rfl⟩
  | cons leg rest ih =>
    obtain ⟨sent, same⟩ := ih (cluster.send leg.source leg.target (message leg.hops))
    exact ⟨sent, same⟩

theorem travel_ends (named : cluster.Named) {room : Nat}
    (here : cluster.nodes.get? node.silo = some node)
    (ends : (cluster.travel grain room node).2 = .ok owner) :
    ∃ next, cluster.nodes.get? owner = some next ∧ next.owns cluster.hash grain := by
  induction room generalizing node with
  | zero =>
    rw [travel] at ends
    split at ends
    · cases ends
    · rename_i routed
      cases ends
      exact ⟨node, here, Node.route_here routed⟩
    · cases ends
  | succ room ih =>
    rw [travel] at ends
    split at ends
    · cases ends
    · rename_i routed
      cases ends
      exact ⟨node, here, Node.route_here routed⟩
    · simp only at ends
      split at ends
      · cases ends
      · rename_i next reached
        have found := (reach_ok reached).2.2
        exact ih ((named _ _ found).symm ▸ found) ends

theorem travelFrom_ends (named : cluster.Named) {hops : UInt8}
    (ends : (cluster.travelFrom silo grain hops).2 = .ok owner) :
    ∃ next, cluster.nodes.get? owner = some next ∧ next.owns cluster.hash grain := by
  simp only [travelFrom] at ends
  split at ends
  · cases ends
  · rename_i node here
    exact travel_ends named ((named _ _ here).symm ▸ here) ends

theorem register_tended (named : cluster.Named) (silo : Silo) (address : Address) (single : Bool)
    (hops : UInt8) : cluster.Tended (cluster.register silo address single hops).2 := by
  obtain ⟨sent, sending⟩ := sendAlong_sent cluster (cluster.travelFrom silo address.grain hops).1
    (.register address single)
  simp only [register, sending]
  split
  · exact tended_sent cluster sent
  · rename_i owner ends
    obtain ⟨node, here, owns⟩ := travelFrom_ends named ends
    simp only [here]
    refine tended_trans (tended_sent cluster sent)
      (tended_modify here (fun proper => Partition.register_proper proper address single) ?_)
    intro grain other
    refine (Partition.register_roster node.partition address single grain).trans (if_neg ?_)
    rintro rfl
    exact Bool.noConfusion (owns.symm.trans other)

theorem lookup_tended (silo : Silo) (grain : Grain) (hops : UInt8) :
    cluster.Tended (cluster.lookup silo grain hops).2 := by
  obtain ⟨sent, sending⟩ := sendAlong_sent cluster (cluster.travelFrom silo grain hops).1
    (.lookup grain)
  simp only [lookup, sending]
  split
  · exact tended_sent cluster sent
  · exact tended_sent cluster sent

def forwardBatch (room : Nat) (silo : Silo) (state : Except Fault Unit × Cluster)
    (batch : Silo × List (Silo × Address)) : Except Fault Unit × Cluster :=
  let addresses := batch.2.map Prod.snd
  let cluster := state.2.send silo batch.1 (.unregister addresses (hopsAt room))
  match cluster.reach batch.1 with
  | .error fault => (firstFault state.1 (.error fault), cluster)
  | .ok _ =>
    let (answer, cluster) := unregisterAll room cluster batch.1 addresses
    (firstFault state.1 answer, cluster)

theorem unregisterAll_zero (cluster : Cluster) (silo : Silo) (addresses : List Address) :
    unregisterAll 0 cluster silo addresses =
      ((cluster.unregisterHere silo 0 addresses).1.map fun _ => (),
        (cluster.unregisterHere silo 0 addresses).2) := by
  rw [unregisterAll]
  split
  · rename_i same
    rw [same]
    rfl
  · rename_i same
    rw [same]
    rfl

theorem unregisterAll_succ (room : Nat) (cluster : Cluster) (silo : Silo)
    (addresses : List Address) : unregisterAll (room + 1) cluster silo addresses =
      match cluster.unregisterHere silo (room + 1) addresses with
      | (.error fault, cluster) => (.error fault, cluster)
      | (.ok remote, cluster) =>
        (Order.group Prod.fst remote).foldl (forwardBatch room silo) (.ok (), cluster) := by
  rw [unregisterAll]
  rfl

theorem unregisterHere_listed {room : Nat} {addresses : List Address}
    {remote : List (Silo × Address)}
    (sorted : (cluster.unregisterHere silo room addresses).1 = .ok remote) :
    ∀ pair ∈ remote, pair.2 ∈ addresses := by
  induction addresses generalizing cluster remote with
  | nil =>
    cases sorted
    exact nofun
  | cons address rest ih =>
    rw [unregisterHere] at sorted
    split at sorted
    · cases sorted
    · split at sorted
      · cases sorted
      · exact fun pair present => List.mem_cons_of_mem _ (ih sorted pair present)
      · split at sorted
        · cases sorted
        · dsimp only at sorted
          cases later : (cluster.unregisterHere silo room rest).1 with
          | error fault =>
            rw [later] at sorted
            cases sorted
          | ok others =>
            rw [later] at sorted
            cases sorted
            intro pair present
            rcases List.mem_cons.mp present with rfl | present
            · exact List.mem_cons_self ..
            · exact List.mem_cons_of_mem _ (ih later pair present)

-- What holds of a cluster still holds after addresses are taken away, if it holds after a silo
-- takes away one of a grain that it owns and after messages are sent.
section Removal

variable {motive : Cluster → Prop}

theorem unregisterHere_induction (silo : Silo) (room : Nat) (addresses : List Address)
    (removed : ∀ (cluster : Cluster) (silo : Silo) (node : Node), ∀ address ∈ addresses,
      cluster.nodes.get? silo = some node → node.owns cluster.hash address.grain = true →
        motive cluster → motive (cluster.modifyPartition silo fun partition =>
          (partition.unregister address).2))
    (start : motive cluster) : motive (cluster.unregisterHere silo room addresses).2 := by
  induction addresses generalizing cluster with
  | nil => exact start
  | cons address rest ih =>
    have later := fun cluster silo node other (listed : other ∈ rest) =>
      removed cluster silo node other (List.mem_cons_of_mem _ listed)
    rw [unregisterHere]
    split
    · exact start
    · rename_i node here
      split
      · exact start
      · rename_i routed
        exact ih later (removed cluster silo node address (List.mem_cons_self ..) here
          (Node.route_here routed) start)
      · split
        · exact start
        · exact ih later start

theorem unregisterAll_induction (room : Nat) (silo : Silo) (addresses : List Address)
    (removed : ∀ (cluster : Cluster) (silo : Silo) (node : Node), ∀ address ∈ addresses,
      cluster.nodes.get? silo = some node → node.owns cluster.hash address.grain = true →
        motive cluster → motive (cluster.modifyPartition silo fun partition =>
          (partition.unregister address).2))
    (sending : ∀ (cluster : Cluster) (sent : List Sent), motive cluster →
      motive { cluster with sent })
    (start : motive cluster) : motive (unregisterAll room cluster silo addresses).2 := by
  induction room generalizing cluster silo addresses with
  | zero =>
    rw [unregisterAll_zero]
    exact unregisterHere_induction silo 0 addresses removed start
  | succ room ih =>
    have first : motive (cluster.unregisterHere silo (room + 1) addresses).2 :=
      unregisterHere_induction silo (room + 1) addresses removed start
    rw [unregisterAll_succ]
    split
    · rename_i same
      rw [same] at first
      exact first
    · rename_i remote middle same
      have listed := unregisterHere_listed (congrArg Prod.fst same)
      rw [same] at first
      refine List.foldlRecOn (motive := fun state : Except Fault Unit × Cluster => motive state.2)
        _ _ first fun state held batch grouped => ?_
      obtain ⟨owner, members⟩ := batch
      obtain ⟨_, rfl⟩ := Order.mem_group.mp grouped
      simp only [forwardBatch]
      split
      · exact sending _ _ held
      · refine ih owner _ ?_ (sending _ _ held)
        intro cluster silo node address present
        obtain ⟨pair, inside, rfl⟩ := List.mem_map.mp present
        exact removed cluster silo node pair.2 (listed pair (List.mem_filter.mp inside).1)

end Removal

theorem unregisterAll_tended (room : Nat) (cluster : Cluster) (silo : Silo)
    (addresses : List Address) : cluster.Tended (unregisterAll room cluster silo addresses).2 := by
  refine unregisterAll_induction room silo addresses ?_ ?_ (tended_refl cluster)
  · intro middle owner node address _ here owns tended
    refine tended_trans tended (tended_modify here
      (fun proper => Partition.unregister_proper proper address) ?_)
    intro grain other
    refine (Partition.unregister_roster node.partition address grain).trans (if_neg ?_)
    rintro rfl
    exact Bool.noConfusion (owns.symm.trans other)
  · exact fun middle sent tended => tended_trans tended (tended_sent middle sent)

end Cluster
end ActorDirectory
