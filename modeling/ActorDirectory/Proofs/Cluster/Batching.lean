import ActorDirectory.Proofs.Cluster.Removal

-- Each part of a batch is attempted, whatever becomes of the others: the silo that is asked takes
-- its own share away, and every other owner is asked once for exactly its share.
namespace ActorDirectory

namespace Message

def unregisters (hops : UInt8) : Message → Bool
  | unregister _ counted => counted = hops
  | _ => false

end Message

namespace Cluster

variable {cluster middle after : Cluster} {silo source owner : Silo} {node there : Node}
  {address : Address} {addresses : List Address} {hops : UInt8} {room : Nat}
  {state : Except Fault Unit × Cluster} {batch : Silo × List (Silo × Address)}
  {batches : List (Silo × List (Silo × Address))}

theorem tended_network (tended : cluster.Tended after) :
    after.hash = cluster.hash ∧ after.settings = cluster.settings := by
  obtain ⟨⟨nodes, sent, rfl⟩, _⟩ := tended
  exact ⟨rfl, rfl⟩

theorem unregisterAll_batches (asked : cluster.Asked silo node (hopsAt (room + 1)))
    (addresses : List Address) : (unregisterAll (room + 1) cluster silo addresses).2 =
      ((Order.group Prod.fst (Batch.foreign (node.owner? cluster.hash) silo addresses)).foldl
        (forwardBatch room silo)
        (.ok (), (cluster.unregisterHere silo (room + 1) addresses).2)).2 := by
  rw [unregisterAll_succ]
  rcases unregisterHere_sorts asked addresses with sorted | ⟨⟨fault, failed⟩, why⟩
  · rw [show cluster.unregisterHere silo (room + 1) addresses = (.ok _, _) from
      Prod.ext sorted rfl]
  · obtain ⟨grain, nobody⟩ := why.resolve_left (Nat.succ_ne_zero room)
    rw [show cluster.unregisterHere silo (room + 1) addresses = (.error fault, _) from
      Prod.ext failed rfl, Batch.foreign_nobody (owner_nobody nobody)]
    rfl

section Own

theorem unregisterAll_elsewhere (here : cluster.nodes.get? silo = some node)
    (others : ∀ address ∈ addresses, node.owns cluster.hash address.grain = false) :
    (unregisterAll room cluster source addresses).2.nodes.get? silo = some node := by
  refine (unregisterAll_induction
    (motive := fun after => after.hash = cluster.hash ∧ after.nodes.get? silo = some node)
    room source addresses ?_ ?_ ⟨rfl, here⟩).2
  · rintro middle target there address listed found owns ⟨hash, kept⟩
    have changed := becomes_modify middle target fun partition => (partition.unregister address).2
    have away : silo ≠ target := by
      rintro rfl
      cases found.symm.trans kept
      rw [hash, others address listed] at owns
      cases owns
    refine ⟨?_, ?_⟩
    · rw [becomes_hash changed]
      exact hash
    · have kept := becomes_node changed kept
      rwa [if_neg away] at kept
  · exact fun middle sent kept => kept

theorem forwardBatch_tended (room : Nat) (source : Silo) (state : Except Fault Unit × Cluster)
    (batch : Silo × List (Silo × Address)) :
    state.2.Tended (forwardBatch room source state batch).2 := by
  simp only [forwardBatch]
  split
  · exact tended_sent ..
  · exact tended_trans (tended_sent ..) (unregisterAll_tended ..)

theorem forwardBatch_elsewhere (here : state.2.nodes.get? silo = some node)
    (others : ∀ pair ∈ batch.2, node.owns state.2.hash pair.2.grain = false) :
    (forwardBatch room source state batch).2.nodes.get? silo = some node := by
  simp only [forwardBatch]
  split
  · exact here
  · refine unregisterAll_elsewhere here ?_
    intro address listed
    obtain ⟨pair, present, rfl⟩ := List.mem_map.mp listed
    exact others pair present

theorem forwardBatches_elsewhere (here : state.2.nodes.get? silo = some node)
    (others : ∀ batch ∈ batches, ∀ pair ∈ batch.2, node.owns state.2.hash pair.2.grain = false) :
    (batches.foldl (forwardBatch room source) state).2.nodes.get? silo = some node := by
  induction batches generalizing state with
  | nil => exact here
  | cons batch rest ih =>
    obtain ⟨first, later⟩ := List.forall_mem_cons.mp others
    refine ih (forwardBatch_elsewhere here first) ?_
    rw [(tended_network (forwardBatch_tended room source state batch)).1]
    exact later

theorem unregisterAll_own (asked : cluster.Asked silo node (hopsAt room))
    (addresses : List Address) :
    (unregisterAll room cluster silo addresses).2.nodes.get? silo =
      some { node with
        partition := node.partition.withdraw
          (Batch.own (node.owner? cluster.hash) silo (hopsAt room) addresses) } := by
  have becomes := unregisterHere_becomes asked addresses
  have first := becomes_node becomes asked.here
  rw [if_pos rfl] at first
  cases room with
  | zero =>
    rw [unregisterAll_zero]
    exact first
  | succ room =>
    rw [unregisterAll_batches asked]
    refine forwardBatches_elsewhere first ?_
    rintro ⟨owner, members⟩ grouped pair present
    obtain ⟨_, rfl⟩ := Order.mem_group.mp grouped
    obtain ⟨_, owned, away⟩ := Batch.mem_foreign.mp (List.mem_filter.mp present).1
    rw [becomes_hash becomes]
    refine decide_eq_false fun own => away ?_
    exact Option.some.inj (owned.symm.trans (own.trans (congrArg some asked.named)))

end Own

section Sent

def Forwards (room : Nat) (before after : Cluster) : Prop :=
  ∃ later, after.sent = before.sent ++ later ∧ ∀ sent ∈ later, ∃ addresses fewer,
    fewer < room ∧ sent.message = .unregister addresses (hopsAt fewer)

theorem forwards_refl (same : after.sent = cluster.sent) : Forwards room cluster after :=
  ⟨[], by rw [same, List.append_nil], fun _ present => nomatch present⟩

theorem forwards_trans (one : Forwards room cluster middle) (two : Forwards room middle after) :
    Forwards room cluster after := by
  obtain ⟨early, first, counted⟩ := one
  obtain ⟨late, second, lateCounted⟩ := two
  refine ⟨early ++ late, by rw [second, first, List.append_assoc], ?_⟩
  intro sent present
  exact (List.mem_append.mp present).elim (counted sent) (lateCounted sent)

theorem forwards_send (source owner : Silo) (addresses : List Address) :
    Forwards (room + 1) cluster (cluster.send source owner (.unregister addresses (hopsAt room))) := by
  refine ⟨_, rfl, ?_⟩
  intro sent present
  rw [List.mem_singleton.mp present]
  exact ⟨addresses, room, Nat.lt_succ_self room, rfl⟩

theorem forwards_more (forwards : Forwards room cluster after) :
    Forwards (room + 1) cluster after := by
  obtain ⟨later, same, counted⟩ := forwards
  refine ⟨later, same, ?_⟩
  intro sent present
  obtain ⟨addresses, fewer, small, message⟩ := counted sent present
  exact ⟨addresses, fewer, Nat.lt_succ_of_lt small, message⟩

theorem unregisterHere_sent (cluster : Cluster) (silo : Silo) (room : Nat)
    (addresses : List Address) :
    (cluster.unregisterHere silo room addresses).2.sent = cluster.sent := by
  refine unregisterHere_induction (motive := fun after => after.sent = cluster.sent) silo room
    addresses ?_ rfl
  intro middle silo node address _ here _ same
  simp only [modifyPartition, modifyNode, here]
  exact same

theorem unregisterAll_forwards (room : Nat) (cluster : Cluster) (silo : Silo)
    (addresses : List Address) :
    Forwards room cluster (unregisterAll room cluster silo addresses).2 := by
  induction room generalizing cluster silo addresses with
  | zero =>
    rw [unregisterAll_zero]
    exact forwards_refl (unregisterHere_sent ..)
  | succ room ih =>
    have first : Forwards (room + 1) cluster (cluster.unregisterHere silo (room + 1) addresses).2 :=
      forwards_refl (unregisterHere_sent ..)
    rw [unregisterAll_succ]
    split
    · rename_i same
      rwa [same] at first
    · rename_i remote middle same
      rw [same] at first
      refine List.foldlRecOn (motive := fun state : Except Fault Unit × Cluster =>
        Forwards (room + 1) cluster state.2) _ _ first fun state forwards batch _ => ?_
      simp only [forwardBatch]
      split
      · exact forwards_trans forwards (forwards_send ..)
      · exact forwards_trans forwards
          (forwards_trans (forwards_send ..) (forwards_more (ih ..)))

theorem hopsAt_fewer {fewer : Nat} (less : fewer < room) (small : room ≤ 255) :
    hopsAt fewer ≠ hopsAt room := by
  intro same
  have same := congrArg UInt8.toNat same
  rw [hopsAt_toNat, hopsAt_toNat] at same
  omega

theorem forwardBatch_sent (small : room ≤ 255) (silo : Silo) (state : Except Fault Unit × Cluster)
    (batch : Silo × List (Silo × Address)) :
    ∃ later, (forwardBatch room silo state batch).2.sent = state.2.sent ++ later ∧
      later.filter (·.message.unregisters (hopsAt room)) =
        [⟨silo, batch.1, .unregister (batch.2.map Prod.snd) (hopsAt room)⟩] := by
  simp only [forwardBatch]
  split
  · exact ⟨_, rfl, by simp [Message.unregisters]⟩
  · obtain ⟨later, same, counted⟩ := unregisterAll_forwards room
      (state.2.send silo batch.1 (.unregister (batch.2.map Prod.snd) (hopsAt room))) batch.1
      (batch.2.map Prod.snd)
    refine ⟨⟨silo, batch.1, .unregister (batch.2.map Prod.snd) (hopsAt room)⟩ :: later, ?_, ?_⟩
    · rw [same, send, List.append_assoc]
      rfl
    · have quiet : later.filter (·.message.unregisters (hopsAt room)) = [] := by
        refine List.filter_eq_nil_iff.mpr fun sent present counts => ?_
        obtain ⟨addresses, fewer, less, message⟩ := counted sent present
        rw [message] at counts
        exact hopsAt_fewer less small (of_decide_eq_true counts)
      rw [List.filter_cons_of_pos (by simp [Message.unregisters]), quiet]

theorem forwardBatches_sent (small : room ≤ 255) (silo : Silo)
    (batches : List (Silo × List (Silo × Address))) (state : Except Fault Unit × Cluster) :
    ∃ later, (batches.foldl (forwardBatch room silo) state).2.sent = state.2.sent ++ later ∧
      later.filter (·.message.unregisters (hopsAt room)) = batches.map fun batch =>
        ⟨silo, batch.1, .unregister (batch.2.map Prod.snd) (hopsAt room)⟩ := by
  induction batches generalizing state with
  | nil => exact ⟨[], (List.append_nil _).symm, rfl⟩
  | cons batch rest ih =>
    obtain ⟨early, first, one⟩ := forwardBatch_sent small silo state batch
    obtain ⟨late, second, others⟩ := ih (forwardBatch room silo state batch)
    refine ⟨early ++ late, ?_, ?_⟩
    · rw [List.foldl_cons, second, first, List.append_assoc]
    · rw [List.filter_append, one, others, List.map_cons, List.singleton_append]

theorem unregisterAll_sent (asked : cluster.Asked silo node (hopsAt (room + 1)))
    (small : room ≤ 255) (addresses : List Address) :
    ∃ (owners : List Silo) (later : List Sent), owners.Nodup ∧
      (∀ owner, owner ∈ owners ↔
        owner ≠ silo ∧ ∃ address ∈ addresses, node.owner? cluster.hash address.grain = some owner) ∧
      (unregisterAll (room + 1) cluster silo addresses).2.sent = cluster.sent ++ later ∧
      later.filter (·.message.unregisters (hopsAt room)) = owners.map fun owner =>
        ⟨silo, owner, .unregister (Batch.share (node.owner? cluster.hash) owner addresses)
          (hopsAt room)⟩ := by
  obtain ⟨later, sent, counted⟩ := forwardBatches_sent small silo
    (Order.group Prod.fst (Batch.foreign (node.owner? cluster.hash) silo addresses))
    (.ok (), (cluster.unregisterHere silo (room + 1) addresses).2)
  have listed : ∀ owner, owner ∈
      ((Batch.foreign (node.owner? cluster.hash) silo addresses).map Prod.fst).eraseDups ↔
        owner ≠ silo ∧
          ∃ address ∈ addresses, node.owner? cluster.hash address.grain = some owner := by
    intro owner
    simp only [List.mem_eraseDups, List.mem_map, Batch.mem_foreign]
    constructor
    · rintro ⟨pair, ⟨present, owned, away⟩, rfl⟩
      exact ⟨away, pair.2, present, owned⟩
    · rintro ⟨away, address, present, owned⟩
      exact ⟨(owner, address), ⟨present, owned, away⟩, rfl⟩
  refine ⟨_, later, Order.eraseDups_nodup _, listed, ?_, ?_⟩
  · rw [unregisterAll_batches asked, sent, unregisterHere_sent]
  · rw [counted, Order.group, List.map_map]
    refine List.map_congr_left fun owner present => ?_
    have away := ((listed owner).mp present).1
    simp only [Function.comp_apply, Batch.foreign_share, if_neg away]

end Sent

section Others

theorem tended_reach (tended : cluster.Tended after) (reached : cluster.reach silo = .ok node) :
    ∃ partition, after.reach silo = .ok { node with partition } := by
  obtain ⟨reachable, linked, here⟩ := reach_ok reached
  obtain ⟨⟨nodes, sent, rfl⟩, related⟩ := tended
  have related := related silo
  rw [here] at related
  generalize found : nodes.get? silo = held at related
  cases related with
  | some changed =>
    obtain ⟨partition, rfl, _⟩ := changed
    exact ⟨partition, reach_of reachable linked found⟩

theorem forwardBatches_lacks {members : List (Silo × Address)}
    (asked : state.2.Asked owner there (hopsAt room)) (reached : state.2.reach owner = .ok there)
    (grouped : (owner, members) ∈ batches)
    (mine : address ∈ Batch.own (there.owner? state.2.hash) owner (hopsAt room)
      (members.map Prod.snd)) :
    ¬(batches.foldl (forwardBatch room source) state).2.Names owner address := by
  induction batches generalizing state there with
  | nil => cases grouped
  | cons batch rest ih =>
    rw [List.foldl_cons]
    rcases List.mem_cons.mp grouped with rfl | later
    · intro names
      have names := forwardBatches_names names
      simp only [forwardBatch, send_reach, reached] at names
      have asked : (state.2.send source owner (.unregister (members.map Prod.snd)
          (hopsAt room))).Asked owner there (hopsAt room) :=
        ⟨asked.here, asked.named, asked.running, asked.allowed⟩
      exact unregisterAll_lacks asked mine names
    · have tended := forwardBatch_tended room source state batch
      obtain ⟨partition, reached⟩ := tended_reach tended reached
      obtain ⟨hash, settings⟩ := tended_network tended
      have asked : (forwardBatch room source state batch).2.Asked owner { there with partition }
          (hopsAt room) :=
        ⟨(reach_ok reached).2.2, asked.named, asked.running, settings ▸ asked.allowed⟩
      refine ih asked reached later ?_
      rw [hash]
      exact mine

theorem unregisterAll_others (asked : cluster.Asked silo node (hopsAt (room + 1)))
    (away : owner ≠ silo) (reached : cluster.reach owner = .ok there)
    (allowed : cluster.Asked owner there (hopsAt room))
    (mine : address ∈ Batch.own (there.owner? cluster.hash) owner (hopsAt room)
      (Batch.share (node.owner? cluster.hash) owner addresses)) :
    ¬(unregisterAll (room + 1) cluster silo addresses).2.Names owner address := by
  have becomes := unregisterHere_becomes asked addresses
  have reached := becomes_reach becomes reached
  have allowed := becomes_asked allowed becomes
  have members := Batch.foreign_share (node.owner? cluster.hash) silo owner addresses
  rw [if_neg away] at members
  obtain ⟨present, owned⟩ := Batch.mem_share.mp (Batch.mem_own mine)
  rw [unregisterAll_batches asked]
  refine forwardBatches_lacks allowed reached (Order.mem_group.mpr ⟨?_, rfl⟩) ?_
  · exact List.mem_map.mpr ⟨(owner, address), Batch.mem_foreign.mpr ⟨present, owned, away⟩, rfl⟩
  · rw [members, becomes_owner becomes]
    exact mine

end Others

-- How a request for a batch leaves the cluster, whatever it is answered with.
structure Attempts (cluster : Cluster) (silo : Silo) (node : Node) (hops : UInt8)
    (addresses : List Address) (after : Cluster) : Prop where
  withdrawn : after.nodes.get? silo =
    some { node with
      partition := node.partition.withdraw
        (Batch.own (node.owner? cluster.hash) silo hops addresses) }
  gone : ∀ address, after.Names silo address ↔ node.partition.Names address ∧
    ∀ done ∈ Batch.own (node.owner? cluster.hash) silo hops addresses,
      done.sameInstance address = false
  -- As long as one hop more can be counted, that is all of them,
  whole : hops.toNat + 1 < UInt8.size →
    Batch.own (node.owner? cluster.hash) silo hops addresses =
      Batch.share (node.owner? cluster.hash) silo addresses
  asked : hops.toNat + 1 < UInt8.size → ∃ (owners : List Silo) (later : List Sent),
    owners.Nodup ∧
      (∀ owner, owner ∈ owners ↔ owner ≠ silo ∧
        ∃ address ∈ addresses, node.owner? cluster.hash address.grain = some owner) ∧
      after.sent = cluster.sent ++ later ∧
      later.filter (·.message.unregisters (hops + 1)) = owners.map fun owner =>
        ⟨silo, owner, .unregister (Batch.share (node.owner? cluster.hash) owner addresses)
          (hops + 1)⟩
  reached : hops.toNat + 1 < UInt8.size → ∀ owner there, owner ≠ silo →
    cluster.reach owner = .ok there → cluster.Asked owner there (hops + 1) →
      ∀ address ∈ Batch.own (there.owner? cluster.hash) owner (hops + 1)
        (Batch.share (node.owner? cluster.hash) owner addresses), ¬after.Names owner address
  covered : node.membership.Made cluster.hash cluster.settings.bucketsPerSilo →
    0 < cluster.settings.bucketsPerSilo →
      (∃ other, node.membership.snapshot.isActive other = true) → ∀ address ∈ addresses,
        ∃ owner, address ∈ Batch.share (node.owner? cluster.hash) owner addresses

-- The count of hops is all that can keep a part from being attempted: where it is spent, the
-- silo stops at the first address that it does not own.
theorem parts_attempted_unless_spent (asked : cluster.Asked silo node hops)
    (addresses : List Address) :
    cluster.Attempts silo node hops addresses (cluster.unregisterMany silo addresses hops).2 := by
  have asked : cluster.Asked silo node (hopsAt (roomAt hops)) := (hopsAt_roomAt hops).symm ▸ asked
  have withdrawn := unregisterAll_own asked addresses
  rw [hopsAt_roomAt] at withdrawn
  have further : hops.toNat + 1 < UInt8.size → ∃ room, roomAt hops = room + 1 ∧ room ≤ 255 ∧
      hopsAt room = hops + 1 := by
    intro countable
    have positive := countable_iff.mp ((hopsAt_roomAt hops).symm ▸ countable)
    obtain ⟨room, same⟩ := Nat.exists_eq_add_one_of_ne_zero positive
    have small : room + 1 ≤ 255 := by
      rw [← same]
      exact Nat.sub_le ..
    refine ⟨room, same, Nat.le_of_succ_le small, ?_⟩
    rw [← hopsAt_succ small, ← same, hopsAt_roomAt]
  refine ⟨withdrawn, ?_, fun countable => Batch.own_countable countable addresses, ?_, ?_, ?_⟩
  · intro address
    rw [← Partition.withdraw_names]
    exact ⟨fun ⟨_, here, names⟩ => by cases withdrawn.symm.trans here; exact names,
      fun names => ⟨_, withdrawn, names⟩⟩
  · intro countable
    obtain ⟨room, same, small, next⟩ := further countable
    rw [unregisterMany, same, ← next]
    rw [same] at asked
    exact unregisterAll_sent asked small addresses
  · intro countable owner there away reached allowed address mine
    obtain ⟨room, same, _, next⟩ := further countable
    rw [same] at asked
    rw [unregisterMany, same]
    rw [← next] at allowed mine
    exact unregisterAll_others asked away reached allowed mine
  · rintro made positive ⟨other, active⟩ address present
    obtain ⟨owner, owned⟩ := Membership.owner_exists positive active address.grain
    rw [← made] at owned
    exact ⟨owner, Batch.mem_share.mpr ⟨present, owned⟩⟩

end Cluster

namespace Duo

def patient : Settings := { settings with maxHops := 255 }

def own : Address := numbered "2" first 11

def stocked : Cluster :=
  ((World.empty Xxh3.hashText patient).play [.start first, .start second,
    .apply first (listed 1 .active .active), .apply second (listed 1 .active .active),
    .register first own true 0]).cluster

def holder : Node where
  silo := first
  partition := (Partition.empty.register own true).2
  membership := .ofSnapshot Xxh3.hashText 1 (listed 1 .active .active)

theorem spent_stops : ∃ node, stocked.Asked first node 255 ∧ stocked.Asked first node 254 ∧
    (stocked.unregisterMany first [runningOn first, own] 255).1 =
      .error (.tooManyHops "user/1" 255) ∧
    (stocked.unregisterMany first [runningOn first, own] 255).2.Names first own ∧
    ¬(stocked.unregisterMany first [runningOn first, own] 254).2.Names first own := by
  have here : stocked.nodes.get? first = some holder := by decide +kernel
  have spent : stocked.Asked first holder 255 := ⟨here, rfl, rfl, by decide +kernel⟩
  have countable : stocked.Asked first holder 254 := ⟨here, rfl, rfl, by decide +kernel⟩
  refine ⟨holder, spent, countable, by decide +kernel, ?_, ?_⟩
  · have nothing : Batch.own (holder.owner? stocked.hash) first 255 [runningOn first, own] = [] := by
      decide +kernel
    refine ((Cluster.parts_attempted_unless_spent spent _).gone own).mpr ⟨?_, ?_⟩
    · exact ⟨own, Partition.register_holds.mpr (.inr ⟨rfl, by decide⟩), by decide⟩
    · rw [nothing]
      exact nofun
  · have taken : own ∈ Batch.own (holder.owner? stocked.hash) first 254 [runningOn first, own] := by
      decide +kernel
    intro names
    have differs := ((Cluster.parts_attempted_unless_spent countable _).gone own).mp names
    exact absurd (differs.2 own taken) (by decide)

end Duo
end ActorDirectory
