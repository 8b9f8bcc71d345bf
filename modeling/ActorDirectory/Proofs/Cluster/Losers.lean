import ActorDirectory.Proofs.Cluster.Handover

-- Which of the activations handed over to a silo lose, and what is done about them.
namespace ActorDirectory

namespace Catalog

variable {catalog : Catalog} {addresses : List Address} {address : Address} {hosted : Hosted}

theorem destroy_cons (catalog : Catalog) (address : Address) (rest : List Address) :
    catalog.destroy (address :: rest) =
      (if catalog.hosts address then
        ⟨catalog.hosted.filter (·.address ≠ address), catalog.destroyed ++ [address]⟩
      else catalog : Catalog).destroy rest := by
  simp only [destroy, List.foldl_cons, remove]
  cases catalog.hosts address <;> rfl

theorem hosts_iff : catalog.hosts address = true ↔
    ∃ hosted ∈ catalog.hosted, hosted.address = address := by
  simp [hosts]

theorem mem_destroy : hosted ∈ (catalog.destroy addresses).hosted ↔
    hosted ∈ catalog.hosted ∧ hosted.address ∉ addresses := by
  induction addresses generalizing catalog with
  | nil => simp [destroy]
  | cons address rest ih =>
    rw [destroy_cons, ih, List.mem_cons, not_or, ← and_assoc]
    refine and_congr_left fun _ => ?_
    split
    · simp
    · rename_i unknown
      refine ⟨fun hosts => ⟨hosts, fun same => unknown ?_⟩, And.left⟩
      exact hosts_iff.mpr ⟨hosted, hosts, same⟩

theorem destroy_remembers (addresses : List Address) (torn : address ∈ catalog.destroyed) :
    address ∈ (catalog.destroy addresses).destroyed := by
  induction addresses generalizing catalog with
  | nil => exact torn
  | cons first rest ih =>
    rw [destroy_cons]
    refine ih ?_
    split
    · exact List.mem_append_left _ torn
    · exact torn

theorem destroy_records (hosts : catalog.hosts address = true) (doomed : address ∈ addresses) :
    address ∈ (catalog.destroy addresses).destroyed := by
  induction addresses generalizing catalog with
  | nil => cases doomed
  | cons first rest ih =>
    rw [destroy_cons]
    by_cases same : address = first
    · subst same
      rw [if_pos hosts]
      exact destroy_remembers rest (by simp)
    · refine ih ?_ ((List.mem_cons.mp doomed).resolve_left same)
      obtain ⟨hosted, here, rfl⟩ := hosts_iff.mp hosts
      split
      · exact hosts_iff.mpr ⟨hosted, List.mem_filter.mpr ⟨here, by simp [same]⟩, rfl⟩
      · exact hosts

end Catalog

namespace Roster

def sole (inst : Instance) : Roster := ⟨[inst], true⟩

@[simp] theorem enrol_sole (inst other : Instance) (single : Bool) :
    enrol (some (sole inst)) other single = sole inst := by
  simp [enrol, sole]

@[simp] theorem chosen_sole (inst other : Instance) (single : Bool) :
    chosen (some (sole inst)) other single = inst := by
  simp [chosen, sole]

theorem keep_sole (stays : Instance → Bool) (inst : Instance) :
    (sole inst).keep stays = if stays inst then some (sole inst) else none := by
  cases kept : stays inst <;> simp [keep, sole, kept]

theorem sole_injective {inst other : Instance} (same : sole inst = sole other) : inst = other := by
  simpa [sole] using same

end Roster

namespace Partition

variable {partition : Partition} {state : List Address × Partition} {address : Address}
  {single multi : List Address} {grain : Grain} {winner : Instance}

theorem receive_roster (state : List Address × Partition) (address : Address) (grain : Grain) :
    (receive state address).2.roster? grain =
      if grain = address.grain then
        some (Roster.enrol (state.2.roster? grain) address.toInstance true)
      else state.2.roster? grain := by
  rw [← register_roster]
  simp only [receive]
  split <;> rfl

theorem receive_losers (state : List Address × Partition) (address : Address) :
    (receive state address).1 =
      if (Roster.chosen (state.2.roster? address.grain) address.toInstance true).activation =
          address.activation then state.1
      else state.1 ++ [address] := by
  simp only [receive, register_answer, Instance.address]
  split <;> rfl

def Solitary (partition : Partition) (grain : Grain) : Prop :=
  ∀ roster ∈ partition.roster? grain, ∃ inst, roster = .sole inst

theorem receive_winner (solitary : state.2.Solitary address.grain) :
    ∃ inst, (receive state address).2.roster? address.grain = some (.sole inst) ∧
      (state.2.roster? address.grain).getD (.sole address.toInstance) = .sole inst ∧
      ∀ other, other ∈ (receive state address).1 ↔
        other ∈ state.1 ∨ other = address ∧ inst.activation ≠ address.activation := by
  have told := receive_losers state address
  rw [receive_roster, if_pos rfl]
  cases found : state.2.roster? address.grain with
  | none =>
    rw [found] at told
    refine ⟨address.toInstance, rfl, rfl, fun other => ?_⟩
    rw [told]
    simp [Roster.chosen, Address.toInstance]
  | some roster =>
    obtain ⟨inst, rfl⟩ := solitary roster found
    rw [found, Roster.chosen_sole] at told
    refine ⟨inst, by rw [Roster.enrol_sole], rfl, fun other => ?_⟩
    rw [told]
    by_cases same : inst.activation = address.activation <;> simp [same]

theorem receive_solitary (solitary : state.2.Solitary grain) (address : Address) :
    (receive state address).2.Solitary grain := by
  intro roster found
  by_cases same : grain = address.grain
  · subst same
    obtain ⟨inst, known, _⟩ := receive_winner solitary
    exact ⟨inst, Option.some.inj (found.symm.trans known)⟩
  · rw [receive_roster, if_neg same] at found
    exact solitary roster found

theorem register_sole (held : partition.roster? grain = some (.sole winner)) (address : Address)
    (single : Bool) :
    (partition.register address single).2.roster? grain = some (.sole winner) := by
  rw [register_roster, held]
  split <;> simp

theorem enlist_sole (held : partition.roster? grain = some (.sole winner)) (single : Bool)
    (addresses : List Address) :
    (partition.enlist single addresses).roster? grain = some (.sole winner) := by
  induction addresses generalizing partition with
  | nil => exact held
  | cons address rest ih => exact ih (register_sole held address single)

theorem accept_sole (held : partition.roster? grain = some (.sole winner))
    (single multi : List Address) :
    (partition.accept single multi).2.roster? grain = some (.sole winner) := by
  rw [accept_partition]
  exact enlist_sole (enlist_sole held true single) false multi

theorem enlist_elsewhere (elsewhere : ∀ address ∈ multi, address.grain ≠ grain) (flag : Bool) :
    (partition.enlist flag multi).roster? grain = partition.roster? grain := by
  induction multi generalizing partition with
  | nil => rfl
  | cons address rest ih =>
    have other : grain ≠ address.grain := fun same => elsewhere address (by simp) same.symm
    refine (@ih (partition.register address flag).2 fun address later =>
      elsewhere address (List.mem_cons_of_mem _ later)).trans ?_
    rw [register_roster, if_neg other]

theorem received_roster (solitary : state.2.Solitary grain) (single : List Address) :
    (single.foldl receive state).2.roster? grain = (state.2.roster? grain).or
      ((single.find? (·.grain = grain)).map fun address => .sole address.toInstance) := by
  induction single generalizing state with
  | nil => simp
  | cons first rest ih =>
    rw [List.foldl_cons, ih (receive_solitary solitary first)]
    by_cases same : first.grain = grain
    · subst same
      obtain ⟨inst, known, stands, _⟩ := receive_winner solitary
      rw [known]
      cases found : state.2.roster? first.grain <;> simp_all
    · rw [receive_roster, if_neg (Ne.symm same)]
      simp [same]

theorem mem_received (solitary : state.2.Solitary address.grain) (single : List Address) :
    address ∈ (single.foldl receive state).1 ↔ address ∈ state.1 ∨ address ∈ single ∧
      ∃ winner, (single.foldl receive state).2.roster? address.grain = some (.sole winner) ∧
        winner.activation ≠ address.activation := by
  induction single generalizing state with
  | nil => simp
  | cons first rest ih =>
    rw [List.foldl_cons, ih (receive_solitary solitary first), List.mem_cons, or_and_right,
      ← or_assoc]
    refine or_congr_left ?_
    by_cases same : first.grain = address.grain
    · obtain ⟨inst, known, _, losers⟩ := receive_winner (same.symm ▸ solitary)
      have stays : (rest.foldl receive (receive state first)).2.roster? address.grain =
          some (.sole inst) := by
        rw [received_roster (receive_solitary solitary first), ← same, known, Option.some_or]
      rw [losers, stays]
      refine or_congr_right (and_congr_right fun equal => ?_)
      subst equal
      exact ⟨fun lost => ⟨inst, rfl, lost⟩,
        fun ⟨winner, same, lost⟩ => Roster.sole_injective (Option.some.inj same) ▸ lost⟩
    · have other : address ≠ first := fun equal => same (equal ▸ rfl)
      rw [receive_losers]
      split <;> simp [other]

theorem accept_roster (solitary : partition.Solitary grain)
    (elsewhere : ∀ address ∈ multi, address.grain ≠ grain) :
    (partition.accept single multi).2.roster? grain = (partition.roster? grain).or
      ((single.find? (·.grain = grain)).map fun address => .sole address.toInstance) := by
  have begins : (([] : List Address), partition).2.Solitary grain := solitary
  rw [accept_eq, enlist_elsewhere elsewhere]
  exact received_roster begins single

theorem loser_handed (lost : address ∈ (partition.accept single multi).1) : address ∈ single := by
  have either : ∀ state : List Address × Partition, address ∈ (single.foldl receive state).1 →
      address ∈ state.1 ∨ address ∈ single := by
    clear lost
    induction single with
    | nil => exact fun _ => .inl
    | cons first rest ih =>
      intro state lost
      rcases ih (receive state first) lost with early | late
      · rw [receive_losers] at early
        split at early
        · exact .inl early
        · simpa [or_assoc] using Or.inl (List.mem_append.mp early)
      · exact .inr (List.mem_cons_of_mem _ late)
  exact (either ([], partition) lost).resolve_left List.not_mem_nil

theorem mem_losers (solitary : partition.Solitary address.grain)
    (elsewhere : ∀ other ∈ multi, other.grain ≠ address.grain) :
    address ∈ (partition.accept single multi).1 ↔ address ∈ single ∧
      ∃ winner, (partition.accept single multi).2.roster? address.grain = some (.sole winner) ∧
        winner.activation ≠ address.activation := by
  have begins : (([] : List Address), partition).2.Solitary address.grain := solitary
  rw [accept_eq, enlist_elsewhere elsewhere]
  exact (mem_received begins single).trans (by simp)

end Partition

namespace Node

variable {hash : String → UInt64} {settings : Settings} {node : Node} {snapshot : Snapshot}
  {single multi : List Address} {grain : Grain} {winner : Instance}

theorem apply_sole (held : node.partition.roster? grain = some (.sole winner))
    (stays : ∀ current ∈ node.adopts? hash settings snapshot,
      current.owner? hash grain = some node.silo ∧ current.snapshot.isDead winner.silo = false) :
    (node.apply hash settings snapshot).1.partition.roster? grain = some (.sole winner) := by
  rw [apply_partition]
  cases adopted : node.adopts? hash settings snapshot with
  | none => exact held
  | some current =>
    obtain ⟨owned, alive⟩ := stays current adopted
    simp [Partition.retain_roster, held, Roster.keep_sole, owned, alive]

theorem of_apply_roster {roster : Roster} (solitary : node.partition.Solitary grain)
    (found : (node.apply hash settings snapshot).1.partition.roster? grain = some roster) :
    node.partition.roster? grain = some roster := by
  rw [apply_partition] at found
  split at found
  · exact found
  · rw [Partition.retain_roster] at found
    obtain ⟨before, known, kept⟩ := Option.bind_eq_some_iff.mp found
    obtain ⟨inst, rfl⟩ := solitary before known
    rw [Roster.keep_sole] at kept
    split at kept
    · exact known.trans kept
    · cases kept

theorem accept_asks {key : Channel} {errand : Errand}
    (asked : .enqueue key errand ∈ (node.accept single multi).2.2) :
    ∃ host addresses, key = .handoff node.silo host ∧ errand = .destroy addresses ∧
      ∀ address ∈ addresses,
        address ∈ (node.partition.accept single multi).1 ∧ address.silo = host := by
  obtain ⟨⟨host, losers⟩, grouped, same⟩ := List.mem_map.mp asked
  obtain ⟨_, rfl⟩ := Order.mem_group.mp grouped
  cases same
  refine ⟨host, _, rfl, rfl, fun address present => ?_⟩
  obtain ⟨lost, same⟩ := List.mem_filter.mp present
  exact ⟨lost, of_decide_eq_true same⟩

theorem asks_loser {address : Address}
    (lost : address ∈ (node.partition.accept single multi).1) :
    ∃ addresses, .enqueue (.handoff node.silo address.silo) (.destroy addresses) ∈
      (node.accept single multi).2.2 ∧ address ∈ addresses := by
  refine ⟨_, List.mem_map.mpr ⟨(address.silo, _), Order.mem_group.mpr ⟨?_, rfl⟩, rfl⟩, ?_⟩
  · exact List.mem_map.mpr ⟨address, lost, rfl⟩
  · exact List.mem_filter.mpr ⟨lost, by simp⟩

end Node
end ActorDirectory
