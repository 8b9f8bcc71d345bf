import ActorDirectory.Proofs.Cluster.Losers
import ActorDirectory.Proofs.Cluster.Reached
import ActorDirectory.Proofs.Partition.Primacy

-- What becomes of all that is handed over to a silo: whoever does not lead the grain is torn
-- down, and everyone else is registered.
namespace ActorDirectory

namespace Partition

variable {partition : Partition} {state : List Address × Partition} {address : Address}
  {single multi : List Address} {grain : Grain} {holding : Holding} {final : Partition}

def leads (partition : Partition) (address : Address) : Bool :=
  (partition.primary? address.grain).any (·.activation = address.activation)

def rejects (partition : Partition) (address : Address) : Bool :=
  (partition.primary? address.grain).any (·.activation ≠ address.activation)

def Exclusive (partition : Partition) (grain : Grain) : Prop :=
  ∃ holding, partition.held.get? grain = some holding ∧ holding.single = true

def Heeds (before after : Partition) : Prop :=
  ∀ grain first, before.primary? grain = some first → after.primary? grain = some first

theorem holding_leader (proper : partition.Proper)
    (found : partition.held.get? grain = some holding) :
    ∃ first, holding.instances.head? = some first := by
  have known := roster?_held found
  obtain ⟨first, rest, listed⟩ := List.exists_cons_of_ne_nil (proper grain _ known).1
  exact ⟨first, List.head?_eq_some_iff.mpr ⟨rest, listed⟩⟩

theorem exists_primary (proper : partition.Proper) (known : (partition.roster? grain).isSome) :
    ∃ first, partition.primary? grain = some first := by
  rw [roster?, Option.isSome_map] at known
  obtain ⟨holding, found⟩ := Option.isSome_iff_exists.mp known
  obtain ⟨first, leads⟩ := holding_leader proper found
  exact ⟨first, by rw [primary?, roster?, found]; exact leads⟩

theorem leads_of_not_rejects (proper : partition.Proper)
    (known : (partition.roster? address.grain).isSome)
    (welcome : partition.rejects address = false) : partition.leads address = true := by
  obtain ⟨first, heads⟩ := exists_primary proper known
  simpa [rejects, leads, heads] using welcome

theorem enlist_enrolled (partition : Partition) (flag : Bool) (addresses : List Address) :
    partition.enlist flag addresses = partition.enrolled (addresses.map (·, flag)) := by
  induction addresses generalizing partition with
  | nil => rfl
  | cons address rest ih => exact ih _

theorem accept_enrolled (partition : Partition) (single multi : List Address) :
    (partition.accept single multi).2 =
      partition.enrolled (single.map (·, true) ++ multi.map (·, false)) := by
  rw [accept_partition, enlist_enrolled, enlist_enrolled, enrolled_append]

theorem enrolled_heeds (partition : Partition) (calls : List (Address × Bool)) :
    partition.Heeds (partition.enrolled calls) :=
  fun _ _ leads => enrolled_primary leads calls

theorem receive_leader (proper : state.2.Proper) (address : Address) :
    (receive state address).2.primary? address.grain =
      some (Roster.chosen (state.2.roster? address.grain) address.toInstance true) := by
  rw [primary?, receive_roster, if_pos rfl, Option.bind_some, Roster.primary?]
  cases found : state.2.roster? address.grain with
  | none => rfl
  | some roster =>
    obtain ⟨first, rest, listed⟩ := List.exists_cons_of_ne_nil (proper _ roster found).1
    simp [Roster.enrol, Roster.chosen, listed]

-- It loses at once if and only if another one leads in the end.
theorem receive_judged (proper : state.2.Proper) (heeds : (receive state address).2.Heeds final) :
    (receive state address).1 = state.1 ++ [address].filter final.rejects := by
  have leader := heeds _ _ (receive_leader proper address)
  rw [receive_losers]
  split
  · rename_i same
    simp [rejects, leader, same]
  · rename_i other
    simp [rejects, leader, other]

theorem received_judged (proper : state.2.Proper) {single : List Address}
    (heeds : (single.foldl receive state).2.Heeds final) :
    (single.foldl receive state).1 = state.1 ++ single.filter final.rejects := by
  induction single generalizing state with
  | nil => exact (List.append_nil _).symm
  | cons address rest ih =>
    have next : (receive state address).2 = (state.2.register address true).2 :=
      received_partition state [address]
    have early : (receive state address).2.Heeds final := fun grain first leads => by
      refine heeds grain first ?_
      rw [List.foldl_cons, received_partition, enlist_enrolled]
      exact enrolled_primary leads _
    rw [List.foldl_cons, ih (next ▸ register_proper proper address true) heeds,
      receive_judged proper early, List.append_assoc, ← List.filter_append]
    rfl

-- Who loses is told while the others are still to come, but no later one changes it.
theorem accept_losers (proper : partition.Proper) (single multi : List Address) :
    (partition.accept single multi).1 =
      single.filter (partition.accept single multi).2.rejects := by
  have heeds : (single.foldl receive ([], partition)).2.Heeds
      (partition.accept single multi).2 := by
    rw [accept_eq, enlist_enrolled]
    exact enrolled_heeds _ _
  have begins : (([] : List Address), partition).2.Proper := proper
  exact received_judged begins heeds

theorem register_beside (partition : Partition) (address : Address) :
    (partition.register address false).2.Holds address ∨ partition.Exclusive address.grain := by
  cases found : partition.held.get? address.grain with
  | none => exact .inl (register_holds.mpr (.inr ⟨rfl, by rw [register_absent false found]⟩))
  | some holding =>
    cases alone : holding.single with
    | false => exact .inl (register_holds.mpr (.inr ⟨rfl, register_shared found alone⟩))
    | true => exact .inr ⟨holding, found, alone⟩

-- An entry that is to be alone stays as it is, tag included.
theorem enrolled_steady (proper : partition.Proper)
    (found : partition.held.get? grain = some holding) (alone : holding.single = true)
    (calls : List (Address × Bool)) :
    (partition.enrolled calls).held.get? grain = some holding := by
  obtain ⟨first, leads⟩ := holding_leader proper found
  exact enrolled_alone calls found leads alone

theorem enlist_beside (proper : partition.Proper) {addresses : List Address}
    (handed : address ∈ addresses) :
    (partition.enlist false addresses).Holds address ∨
      (partition.enlist false addresses).Exclusive address.grain := by
  induction addresses generalizing partition with
  | nil => cases handed
  | cons other rest ih =>
    have next := register_proper proper other false
    rcases List.mem_cons.mp handed with rfl | later
    · refine (register_beside partition address).imp (enlist_keeps rest) ?_
      rintro ⟨holding, found, alone⟩
      rw [enlist_enrolled]
      exact ⟨holding, enrolled_steady proper found alone _, alone⟩
    · exact ih next later

end Partition

namespace Node

variable {node : Node}

-- Those who were handed over, the answer, what the silo keeps of it and what it asks for.
structure Settles (node : Node) (single multi losers : List Address) (after : Node)
    (requests : List (Request Channel Errand)) : Prop where
  framed : after = { node with partition := after.partition }
  lost : losers = single.filter after.partition.rejects
  led : ∀ address ∈ single, address ∉ losers → after.partition.leads address = true
  steady : ∀ grain, node.partition.held.get? grain ≠ none → ∃ first,
    node.partition.primary? grain = some first ∧ after.partition.primary? grain = some first
  alone : ∀ grain holding, node.partition.held.get? grain = some holding →
    holding.single = true → after.partition.held.get? grain = some holding
  beside : ∀ address ∈ multi,
    after.partition.Holds address ∨ after.partition.Exclusive address.grain
  torn : ∃ hosts : List Silo, hosts.Nodup ∧
    (∀ host, host ∈ hosts ↔ ∃ address ∈ losers, address.silo = host) ∧
    requests = hosts.map fun host =>
      .enqueue (.handoff node.silo host) (.destroy (losers.filter (·.silo = host)))

theorem accept_settles {operations : List Partition.Operation}
    (history : node.partition = Partition.empty.run operations) (single multi : List Address) :
    node.Settles single multi (node.accept single multi).1 (node.accept single multi).2.1
      (node.accept single multi).2.2 := by
  have proper : node.partition.Proper :=
    history ▸ Partition.run_proper Partition.proper_empty operations
  have later : (node.partition.accept single multi).2.Proper := by
    rw [Partition.accept_partition]
    exact Partition.enlist_proper (Partition.enlist_proper proper)
  have lost := Partition.accept_losers proper single multi
  refine ⟨rfl, lost, fun address handed stays => ?_, fun grain known => ?_,
    fun grain holding found alone => ?_, fun address handed => ?_, ?_⟩
  · refine Partition.leads_of_not_rejects later (Partition.accept_known.mpr (.inr ?_)) ?_
    · exact ⟨address, List.mem_append_left _ handed, rfl⟩
    · have losers : (node.accept single multi).1 = _ := lost
      rw [losers, List.mem_filter, not_and] at stays
      exact Bool.eq_false_iff.mpr (stays handed)
  · have present : (node.partition.roster? grain).isSome := by
      rw [Partition.roster?, Option.isSome_map]
      exact Option.isSome_iff_ne_none.mpr known
    obtain ⟨first, leads⟩ := Partition.exists_primary proper present
    refine ⟨first, leads, ?_⟩
    rw [accept_frame, Partition.accept_enrolled]
    exact Partition.enrolled_primary leads _
  · rw [accept_frame, Partition.accept_enrolled]
    exact Partition.enrolled_steady proper found alone _
  · rw [accept_frame, Partition.accept_partition]
    exact Partition.enlist_beside (Partition.enlist_proper proper) handed
  · refine ⟨((node.accept single multi).1.map Address.silo).eraseDups, Order.eraseDups_nodup _,
      fun host => ?_, ?_⟩
    · rw [List.mem_eraseDups, List.mem_map]
    · exact List.map_map

end Node

namespace Duo

def taken : List Partition.Operation :=
  [.register (numbered "1" first 10) true, .register (numbered "2" first 20) false]

def taking : Node := { silo := first, partition := Partition.empty.run taken }

def handedAlone : List Address :=
  [numbered "1" second 11, numbered "1" first 10, numbered "3" second 30, numbered "1" second 11,
    numbered "2" second 21, numbered "3" first 31]

def handedBeside : List Address :=
  [numbered "1" second 12, numbered "2" second 22, numbered "2" second 22, numbered "3" second 30]

theorem taking_settles : taking.partition = Partition.empty.run taken ∧
    (taking.accept handedAlone handedBeside).2.2 =
      [.enqueue (.handoff first second) (.destroy [numbered "1" second 11, numbered "1" second 11,
          numbered "2" second 21]),
        .enqueue (.handoff first first) (.destroy [numbered "3" first 31])] ∧
    taking.Settles handedAlone handedBeside (taking.accept handedAlone handedBeside).1
      (taking.accept handedAlone handedBeside).2.1 (taking.accept handedAlone handedBeside).2.2 :=
  ⟨rfl, by decide +kernel, Node.accept_settles rfl handedAlone handedBeside⟩

end Duo
end ActorDirectory
