import ActorDirectory.Proofs.Cluster.Confinement
import ActorDirectory.Proofs.Cluster.Shares

-- What a silo takes away of what it owns does not come back by itself. While nothing is done but
-- pending work, the silo has to be handed it again, or to come to own it.
namespace ActorDirectory

namespace Partition

variable {partition : Partition} {address other : Address}

def Names (partition : Partition) (address : Address) : Prop :=
  ∃ other, partition.Holds other ∧ other.sameInstance address = true

theorem sameInstance_swap {held : Address} (same : held.sameInstance address = true)
    (other : Address) : held.sameInstance other = other.sameInstance address := by
  obtain ⟨grain, activation⟩ := sameInstance_iff.mp same
  simp only [Address.sameInstance, grain, activation, eq_comm]

theorem unregister_names : (partition.unregister other).2.Names address ↔
    partition.Names address ∧ other.sameInstance address = false := by
  simp only [Names, unregister_holds]
  constructor
  · rintro ⟨held, ⟨holds, kept⟩, same⟩
    exact ⟨⟨held, holds, same⟩, (sameInstance_swap same other).symm.trans kept⟩
  · rintro ⟨⟨held, holds, same⟩, differs⟩
    exact ⟨held, ⟨holds, (sameInstance_swap same other).trans differs⟩, same⟩

theorem withdraw_names {addresses : List Address} : (partition.withdraw addresses).Names address ↔
    partition.Names address ∧ ∀ done ∈ addresses, done.sameInstance address = false := by
  induction addresses generalizing partition with
  | nil => simp [withdraw]
  | cons first rest ih =>
    rw [List.forall_mem_cons, ← and_assoc, ← unregister_names]
    exact ih

theorem withdraw_lacks {addresses : List Address} (listed : address ∈ addresses) :
    ¬(partition.withdraw addresses).Names address := by
  intro names
  have differs := (withdraw_names.mp names).2 address listed
  simp [Address.sameInstance] at differs

theorem lookup_names {grain : Grain} {found : Found} (looked : partition.lookup grain = some found)
    (present : other ∈ found.addresses) : partition.Holds other ∧ other.grain = grain := by
  have addresses := lookup_addresses partition grain
  rw [looked] at addresses
  obtain ⟨listed, _⟩ := Option.filter_eq_some_iff.mp addresses.symm
  obtain ⟨roster, known, same⟩ := Option.map_eq_some_iff.mp listed
  rw [← same] at present
  obtain ⟨inst, there, rfl⟩ := List.mem_map.mp present
  exact ⟨⟨roster, known, there⟩, rfl⟩

end Partition

namespace Node

variable {hash : String → UInt64} {node : Node} {grain : Grain}

theorem route_own (maxHops : UInt8) (running : node.isRunning = true)
    (owns : node.owns hash grain = true) : node.route hash maxHops grain 0 = .ok .here := by
  have owned := of_decide_eq_true owns
  simp [route, running, owned]

end Node

namespace Cluster

variable {cluster : Cluster} {silo : Silo} {address : Address}

def Names (cluster : Cluster) (silo : Silo) (address : Address) : Prop :=
  ∃ node, cluster.nodes.get? silo = some node ∧ node.partition.Names address

def Serves (cluster : Cluster) (silo : Silo) (grain : Grain) : Prop :=
  ∃ node, cluster.nodes.get? silo = some node ∧ node.silo = silo ∧ node.isRunning = true ∧
    node.owns cluster.hash grain = true

theorem modify_names {owner : Silo} {other : Address}
    (names : (cluster.modifyPartition owner fun partition =>
      (partition.unregister other).2).Names silo address) : cluster.Names silo address := by
  obtain ⟨node, here, names⟩ := names
  simp only [modifyPartition, modifyNode] at here
  split at here
  · exact ⟨node, here, names⟩
  · rename_i before found
    rw [Keyed.get?_put] at here
    split at here
    · rename_i same
      cases here
      exact ⟨before, same ▸ found, (Partition.unregister_names.mp names).1⟩
    · exact ⟨node, here, names⟩

theorem modify_serves {grain : Grain} (change : Partition → Partition)
    (serves : cluster.Serves silo grain) :
    (cluster.modifyPartition silo change).Serves silo grain := by
  obtain ⟨node, here, named, running, owns⟩ := serves
  refine ⟨{ node with partition := change node.partition }, ?_, named, running, ?_⟩
  · simp [modifyPartition, modifyNode, here]
  · simp only [modifyPartition, modifyNode, here]
    exact owns

theorem unregisterAll_names {room : Nat} {source : Silo} {addresses : List Address}
    (names : (unregisterAll room cluster source addresses).2.Names silo address) :
    cluster.Names silo address := by
  by_contra lacks
  refine unregisterAll_induction (motive := fun cluster => ¬cluster.Names silo address) room source
    addresses ?_ ?_ lacks names
  · exact fun _ _ _ _ _ _ _ lacks names => lacks (modify_names names)
  · exact fun _ _ lacks names => lacks names

theorem forwardBatch_names {room : Nat} {source : Silo} {state : Except Fault Unit × Cluster}
    {batch : Silo × List (Silo × Address)}
    (names : (forwardBatch room source state batch).2.Names silo address) :
    state.2.Names silo address := by
  simp only [forwardBatch] at names
  split at names
  · exact names
  · have sent : (state.2.send source batch.1 _).Names silo address := unregisterAll_names names
    exact sent

theorem forwardBatches_names {room : Nat} {source : Silo} {state : Except Fault Unit × Cluster}
    {batches : List (Silo × List (Silo × Address))}
    (names : (batches.foldl (forwardBatch room source) state).2.Names silo address) :
    state.2.Names silo address := by
  induction batches generalizing state with
  | nil => exact names
  | cons batch rest ih => exact forwardBatch_names (ih names)

theorem unregisterMany_named (named : cluster.Named) (source : Silo) (addresses : List Address)
    (hops : UInt8) : (cluster.unregisterMany source addresses hops).2.Named :=
  tended_named named (unregisterAll_tended ..)

theorem unregisterAll_rest {room : Nat} {source : Silo} {addresses : List Address}
    (names : (unregisterAll room cluster source addresses).2.Names silo address) :
    (cluster.unregisterHere source room addresses).2.Names silo address := by
  cases room with
  | zero =>
    rw [unregisterAll_zero] at names
    exact names
  | succ room =>
    rw [unregisterAll_succ] at names
    split at names
    · rename_i same
      rwa [same]
    · rename_i remote middle same
      rw [same]
      exact forwardBatches_names names

theorem unregisterAll_lacks {room : Nat} {node : Node} {addresses : List Address}
    (asked : cluster.Asked silo node (hopsAt room))
    (listed : address ∈ Batch.own (node.owner? cluster.hash) silo (hopsAt room) addresses) :
    ¬(unregisterAll room cluster silo addresses).2.Names silo address := by
  intro names
  obtain ⟨after, here, names⟩ := unregisterAll_rest names
  have known := becomes_node (unregisterHere_becomes asked addresses) asked.here
  cases known.symm.trans here
  simp only [↓reduceIte] at names
  exact Partition.withdraw_lacks listed names

theorem unregisterMany_lacks (serves : cluster.Serves silo address.grain)
    {addresses : List Address} (listed : address ∈ addresses) :
    ¬(cluster.unregisterMany silo addresses 0).2.Names silo address := by
  obtain ⟨node, here, named, running, owns⟩ := serves
  have asked : cluster.Asked silo node (hopsAt 255) := ⟨here, named, running, UInt8.zero_le⟩
  refine unregisterAll_lacks asked (Batch.mem_share.mpr ⟨listed, ?_⟩)
  exact named ▸ of_decide_eq_true owns

theorem localLookup_serves (named : cluster.Named) {grain : Grain} {found : Found}
    (answered : cluster.localLookup silo grain = some found) :
    cluster.Serves silo grain ∧ ∀ other ∈ found.addresses,
      other.grain = grain ∧ cluster.Names silo other := by
  obtain ⟨node, here, looked⟩ := Option.bind_eq_some_iff.mp answered
  simp only [Node.localLookup, Option.ite_none_right_eq_some, Bool.and_eq_true] at looked
  obtain ⟨⟨running, owns⟩, looked⟩ := looked
  refine ⟨⟨node, here, named silo node here, running, owns⟩, fun other present => ?_⟩
  obtain ⟨holds, same⟩ := Partition.lookup_names looked present
  exact ⟨same, node, here, other, holds, by simp [Address.sameInstance]⟩

theorem names_same {other : Address} (names : cluster.Names silo other)
    (same : other.sameInstance address = true) : cluster.Names silo address := by
  obtain ⟨node, here, held, holds, alike⟩ := names
  obtain ⟨grain, activation⟩ := Partition.sameInstance_iff.mp alike
  obtain ⟨sameGrain, sameActivation⟩ := Partition.sameInstance_iff.mp same
  exact ⟨node, here, held, holds,
    Partition.sameInstance_iff.mpr ⟨grain.trans sameGrain, activation.trans sameActivation⟩⟩

theorem serves_tended {after : Cluster} {grain : Grain} (tended : cluster.Tended after)
    (serves : after.Serves silo grain) : cluster.Serves silo grain := by
  obtain ⟨⟨nodes, sent, rfl⟩, related⟩ := tended
  obtain ⟨node, here, named, running, owns⟩ := serves
  have related := related silo
  rw [here] at related
  cases before : cluster.nodes.get? silo with
  | none =>
    rw [before] at related
    cases related
  | some earlier =>
    rw [before] at related
    cases related with
    | some tended =>
      obtain ⟨partition, rfl, _, _⟩ := tended
      exact ⟨earlier, before, named, running, owns⟩

theorem unregistered_lacks {addresses : List Address} (listed : address ∈ addresses)
    (serves : (cluster.unregisterMany silo addresses 0).2.Serves silo address.grain) :
    ¬(cluster.unregisterMany silo addresses 0).2.Names silo address :=
  unregisterMany_lacks (serves_tended (unregisterAll_tended ..) serves) listed

theorem serves_owns {grain : Grain} (serves : cluster.Serves silo grain) :
    cluster.owns silo grain = true := by
  obtain ⟨node, here, rfl, _, owns⟩ := serves
  simpa [Cluster.owns, Cluster.owner?, here, Node.owns] using owns

theorem owns_serves (named : cluster.Named) {node : Node} {grain : Grain}
    (here : cluster.nodes.get? silo = some node) (running : node.isRunning = true)
    (owns : cluster.owns silo grain = true) : cluster.Serves silo grain := by
  obtain rfl := named silo node here
  refine ⟨node, here, rfl, running, ?_⟩
  simpa [Cluster.owns, Cluster.owner?, here, Node.owns] using owns

end Cluster

namespace World

variable {world middle after : World} {silo : Silo} {address : Address}

-- Another silo hands the activation over.
def HandsOver (world : World) (action : Action) (silo : Silo) (address : Address) : Prop :=
  ∃ node single multi, world.effect? action = some (node, .accept single multi) ∧
    node.silo = silo ∧ ∃ handed ∈ single ++ multi, handed.sameInstance address = true

-- By nothing but pending work the silo is handed the activation, or comes to own its grain.
def Readmits (world : World) (silo : Silo) (address : Address) (after : World) : Prop :=
  ∃ run, (∀ action ∈ run, action.Shifts fun _ => False) ∧ world.play run = after ∧
    (world.cluster.owns silo address.grain = false ∧
        after.cluster.owns silo address.grain = true ∨
      ∃ earlier action later, run = earlier ++ action :: later ∧
        (world.play earlier).HandsOver action silo address)

theorem act_names {action : Action} (named : world.cluster.Named)
    (shifts : action.Shifts fun _ => False)
    (names : (world.act action).cluster.Names silo address) :
    world.cluster.Names silo address ∨ world.HandsOver action silo address := by
  obtain ⟨after, found, held, holds, same⟩ := names
  obtain ⟨node, here, rfl⟩ := act_came named shifts found
  have kept : node.partition.Holds held → world.cluster.Names silo address := fun holds =>
    ⟨node, here, held, holds, same⟩
  rcases becomes_cases world action node with ⟨effect, affected, became⟩ | ⟨_, became⟩
  · rw [became] at holds
    cases effect with
    | follow snapshot => exact .inl (kept (Node.apply_holds.mp holds).1)
    | destroy addresses => exact .inl (kept holds)
    | accept single multi =>
      rw [Node.undergo, Node.accept_frame, Partition.accept_partition] at holds
      have handed : held ∈ single ++ multi → world.HandsOver action silo address := fun present =>
        ⟨node, single, multi, affected, named silo node here, held, present, same⟩
      rcases Partition.of_enlist holds with earlier | present
      · rcases Partition.of_enlist earlier with earlier | present
        · exact .inl (kept earlier)
        · exact .inr (handed (List.mem_append_left _ present))
      · exact .inr (handed (List.mem_append_right _ present))
  · rw [became] at holds
    exact .inl (kept holds)

theorem play_names {run : List Action} (named : world.cluster.Named)
    (shifts : ∀ action ∈ run, action.Shifts fun _ => False)
    (names : (world.play run).cluster.Names silo address) :
    world.cluster.Names silo address ∨ ∃ earlier action later, run = earlier ++ action :: later ∧
      (world.play earlier).HandsOver action silo address := by
  induction run generalizing world with
  | nil => exact .inl names
  | cons action rest ih =>
    obtain ⟨shift, shifts⟩ := List.forall_mem_cons.mp shifts
    rcases ih (act_named named action) shifts names with
      names | ⟨earlier, later, others, rfl, hands⟩
    · rcases act_names named shift names with names | hands
      · exact .inl names
      · exact .inr ⟨[], action, rest, rfl, hands⟩
    · exact .inr ⟨action :: earlier, later, others, rfl, hands⟩

theorem play_came {run : List Action} (named : world.cluster.Named)
    (shifts : ∀ action ∈ run, action.Shifts fun _ => False) {node : Node}
    (found : (world.play run).node? silo = some node) :
    ∃ earlier, world.node? silo = some earlier ∧ earlier.isRunning = node.isRunning := by
  induction run generalizing world with
  | nil => exact ⟨node, found, rfl⟩
  | cons action rest ih =>
    obtain ⟨shift, shifts⟩ := List.forall_mem_cons.mp shifts
    obtain ⟨middle, here, running⟩ := ih (act_named named action) shifts found
    obtain ⟨earlier, there, rfl⟩ := act_came named shift here
    exact ⟨earlier, there, becomes_frame.2.symm.trans running⟩

theorem unregistered_unnamed (named : world.cluster.Named) {addresses : List Address}
    (listed : address ∈ addresses) {found : Found}
    (answered : (world.cluster.unregisterMany silo addresses 0).2.localLookup silo address.grain =
      some found) : ∀ other ∈ found.addresses, other.activation ≠ address.activation := by
  intro other present same
  have named := Cluster.unregisterMany_named named silo addresses 0
  obtain ⟨serves, names⟩ := Cluster.localLookup_serves named answered
  obtain ⟨grain, names⟩ := names other present
  exact Cluster.unregistered_lacks listed serves
    (Cluster.names_same names (Partition.sameInstance_iff.mpr ⟨grain, same⟩))

theorem waited_unnamed (named : world.cluster.Named) {addresses : List Address}
    (listed : address ∈ addresses)
    (given : middle.cluster = (world.cluster.unregisterMany silo addresses 0).2)
    (works : middle.Works after) {found : Found}
    (answered : after.cluster.localLookup silo address.grain = some found) :
    (∀ other ∈ found.addresses, other.activation ≠ address.activation) ∨
      middle.Readmits silo address after := by
  refine or_iff_not_imp_right.mpr fun refused other present same => ?_
  have named : middle.cluster.Named :=
    given ▸ Cluster.unregisterMany_named named silo addresses 0
  obtain ⟨run, shifts, rfl⟩ := works
  obtain ⟨serves, names⟩ := Cluster.localLookup_serves (play_named named run) answered
  obtain ⟨grain, names⟩ := names other present
  have names := Cluster.names_same names (Partition.sameInstance_iff.mpr ⟨grain, same⟩)
  rcases play_names named shifts names with names | hands
  · cases owns : middle.cluster.owns silo address.grain with
    | false => exact refused ⟨run, shifts, rfl, .inl ⟨owns, Cluster.serves_owns serves⟩⟩
    | true =>
      obtain ⟨node, here, _, running, _⟩ := serves
      obtain ⟨earlier, there, same⟩ := play_came named shifts here
      have serves := Cluster.owns_serves named there (same.trans running) owns
      rw [given] at names serves
      exact Cluster.unregistered_lacks listed serves names
  · exact refused ⟨run, shifts, rfl, .inr hands⟩

theorem wait_unnamed (named : world.cluster.Named) {addresses : List Address}
    (listed : address ∈ addresses)
    (given : middle.cluster = (world.cluster.unregisterMany silo addresses 0).2) (waited : Nat)
    {found : Found}
    (answered : (middle.wait waited).cluster.localLookup silo address.grain = some found) :
    (∀ other ∈ found.addresses, other.activation ≠ address.activation) ∨
      0 < waited ∧ middle.Readmits silo address (middle.wait waited) := by
  rcases Nat.eq_zero_or_pos waited with rfl | positive
  · have still : middle.wait 0 = middle := by simp [wait, Dispatch.wait]
    rw [still, given] at answered
    exact .inl (unregistered_unnamed named listed answered)
  · have works := wait_works (given ▸ Cluster.unregisterMany_named named silo addresses 0) waited
    exact (waited_unnamed named listed given works answered).imp_right fun back => ⟨positive, back⟩

end World
end ActorDirectory
