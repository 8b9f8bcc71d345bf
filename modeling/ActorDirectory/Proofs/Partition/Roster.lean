import ActorDirectory.Partition

namespace ActorDirectory

-- The registrations of a grain without their tag. Every silo draws tags of its own, so this is
-- what two partitions can agree on.
structure Roster where
  instances : List Instance
  single : Bool
  deriving DecidableEq, Repr

namespace Roster

def enrol (known : Option Roster) (inst : Instance) (single : Bool) : Roster :=
  match known with
  | none => ⟨[inst], single⟩
  | some roster =>
    if (roster.single || single) && !roster.instances.isEmpty then roster
    else if inst ∈ roster.instances then roster
    else ⟨roster.instances ++ [inst], roster.single⟩

def chosen (known : Option Roster) (inst : Instance) (single : Bool) : Instance :=
  match known with
  | none => inst
  | some roster => if roster.single || single then roster.instances.headD inst else inst

def keep (stays : Instance → Bool) (roster : Roster) : Option Roster :=
  let kept := roster.instances.filter stays
  if kept.isEmpty then none else some ⟨kept, roster.single⟩

-- Where nothing is struck off, an entry without instances would stay as it is.
def strike (activation : Activation) (roster : Roster) : Option Roster :=
  let kept := roster.instances.filter (·.activation ≠ activation)
  if kept.length = roster.instances.length then some roster
  else roster.keep (·.activation ≠ activation)

def addresses (grain : Grain) (roster : Roster) : List Address :=
  roster.instances.map (·.address grain)

-- No entry is kept without instances, and a grain that runs at most once has one of them.
def Proper (roster : Roster) : Prop :=
  roster.instances ≠ [] ∧ (roster.single = true → roster.instances.length = 1)

variable {roster kept : Roster} {stays : Instance → Bool}

theorem enrol_single (known : Option Roster) (inst : Instance) (single : Bool) :
    (enrol known inst single).single = (known.map Roster.single).getD single := by
  cases known with
  | none => rfl
  | some roster =>
    simp only [enrol, Option.map_some, Option.getD_some]
    split
    · rfl
    · split <;> rfl

theorem enrol_someone {known : Option Roster} (someone : ∀ roster ∈ known, roster.instances ≠ [])
    (inst : Instance) (single : Bool) : (enrol known inst single).instances ≠ [] := by
  cases known with
  | none => simp [enrol]
  | some roster =>
    have before := someone roster rfl
    simp only [enrol]
    split
    · exact before
    · split <;> simp [before]

theorem enrol_proper {known : Option Roster} (proper : ∀ roster ∈ known, roster.Proper)
    (inst : Instance) (single : Bool) : (enrol known inst single).Proper := by
  refine ⟨enrol_someone (fun roster here => (proper roster here).1) inst single, fun lone => ?_⟩
  rw [enrol_single] at lone
  cases known with
  | none => rfl
  | some roster =>
    obtain ⟨someone, one⟩ := proper roster rfl
    have alone : roster.single = true := lone
    simp [enrol, alone, someone, one alone]

theorem keep_eq_some : roster.keep stays = some kept ↔
    roster.instances.filter stays ≠ [] ∧ kept = ⟨roster.instances.filter stays, roster.single⟩ := by
  simp only [keep, List.isEmpty_iff]
  split
  · rename_i emptied
    simp [emptied]
  · rename_i left
    simp [left, eq_comm]

theorem keep_proper (proper : roster.Proper) (left : roster.keep stays = some kept) :
    kept.Proper := by
  obtain ⟨someone, rfl⟩ := keep_eq_some.mp left
  refine ⟨someone, fun alone => Nat.le_antisymm ?_ (List.length_pos_iff.mpr someone)⟩
  exact Nat.le_trans (List.length_filter_le _ _) (Nat.le_of_eq (proper.2 alone))

theorem strike_proper {activation : Activation} (proper : roster.Proper)
    (left : roster.strike activation = some kept) : kept.Proper := by
  simp only [strike] at left
  split at left
  · exact Option.some.inj left ▸ proper
  · exact keep_proper proper left

theorem mem_strike {activation : Activation} {inst : Instance} :
    (∃ kept, roster.strike activation = some kept ∧ inst ∈ kept.instances) ↔
      inst ∈ roster.instances ∧ inst.activation ≠ activation := by
  have left : inst ∈ roster.instances.filter (·.activation ≠ activation) ↔
      inst ∈ roster.instances ∧ inst.activation ≠ activation := by
    rw [List.mem_filter, decide_eq_true_iff]
  simp only [strike]
  split
  · rename_i untouched
    have all := List.filter_sublist.eq_of_length untouched
    rw [← left, all]
    exact ⟨fun ⟨_, same, present⟩ => Option.some.inj same ▸ present, fun present => ⟨_, rfl, present⟩⟩
  · rw [← left]
    constructor
    · rintro ⟨_, kept, present⟩
      obtain ⟨_, rfl⟩ := keep_eq_some.mp kept
      exact present
    · exact fun present => ⟨_, keep_eq_some.mpr ⟨List.ne_nil_of_mem present, rfl⟩, present⟩

theorem mem_enrol {known : Option Roster} {inst other : Instance} {single : Bool} :
    other ∈ (enrol known inst single).instances ↔
      (∃ roster, known = some roster ∧ other ∈ roster.instances) ∨
        other = inst ∧ chosen known inst single = inst := by
  cases known with
  | none => simp [enrol, chosen]
  | some roster =>
    simp only [enrol, chosen, Option.some.injEq, exists_eq_left']
    cases guarded : (roster.single || single) with
    | false =>
      simp only [Bool.false_and, Bool.false_eq_true, ↓reduceIte, and_true]
      split
      · rename_i known
        exact ⟨.inl, fun either => either.elim id fun same => same ▸ known⟩
      · simp
    | true =>
      cases listed : roster.instances with
      | nil => simp
      | cons first rest =>
        simp only [List.isEmpty_cons, Bool.not_false, Bool.true_and, ↓reduceIte, listed,
          List.headD_cons, iff_self_or, and_imp]
        rintro rfl rfl
        exact List.mem_cons_self ..

end Roster

namespace Holding

def roster (holding : Holding) : Roster := ⟨holding.instances, holding.single⟩

end Holding

namespace Partition

def roster? (partition : Partition) (grain : Grain) : Option Roster :=
  (partition.held.get? grain).map Holding.roster

def Holds (partition : Partition) (address : Address) : Prop :=
  ∃ roster, partition.roster? address.grain = some roster ∧ address.toInstance ∈ roster.instances

def Proper (partition : Partition) : Prop :=
  ∀ grain roster, partition.roster? grain = some roster → roster.Proper

@[simp] theorem roster?_empty (grain : Grain) : empty.roster? grain = none := rfl

theorem proper_empty : empty.Proper := fun _ _ found => nomatch found

theorem roster?_put (held : Keyed Grain Holding) (drawn : Nat) (key grain : Grain)
    (holding : Holding) :
    (Partition.mk (held.put key holding) drawn).roster? grain =
      if grain = key then some holding.roster else (held.get? grain).map Holding.roster := by
  by_cases same : grain = key <;> simp [roster?, same]

theorem roster?_held {partition : Partition} {grain : Grain} {holding : Holding}
    (found : partition.held.get? grain = some holding) :
    partition.roster? grain = some holding.roster := by
  rw [roster?, found, Option.map_some]

theorem register_absent {partition : Partition} {address : Address} (single : Bool)
    (absent : partition.held.get? address.grain = none) :
    partition.register address single =
      (⟨address, tag partition.drawn⟩,
        ⟨partition.held.put address.grain
          ⟨[address.toInstance], single, tag partition.drawn⟩, partition.drawn + 1⟩) := by
  simp only [register, absent]

theorem register_held {partition : Partition} {address : Address} {holding : Holding}
    (single : Bool) (found : partition.held.get? address.grain = some holding) :
    partition.register address single =
      if (holding.single || single) && !holding.instances.isEmpty then
        (⟨(holding.instances.headD address.toInstance).address address.grain, holding.version⟩,
          partition)
      else if address.toInstance ∈ holding.instances then
        (⟨address, holding.version⟩, partition)
      else
        (⟨address, tag partition.drawn⟩,
          ⟨partition.held.put address.grain
            ⟨holding.instances ++ [address.toInstance], holding.single, tag partition.drawn⟩,
            partition.drawn + 1⟩) := by
  obtain ⟨instances, alone, version⟩ := holding
  cases guarded : (alone || single) with
  | false => simp [register, found, guarded]
  | true => cases instances <;> simp [register, found, guarded]

theorem register_roster (partition : Partition) (address : Address) (single : Bool)
    (grain : Grain) :
    (partition.register address single).2.roster? grain =
      if grain = address.grain then
        some (Roster.enrol (partition.roster? grain) address.toInstance single)
      else partition.roster? grain := by
  cases found : partition.held.get? address.grain with
  | none =>
    rw [register_absent single found, roster?_put]
    by_cases same : grain = address.grain
    · subst same; simp [roster?, found, Roster.enrol, Holding.roster]
    · simp [same, roster?]
  | some holding =>
    rw [register_held single found]
    by_cases same : grain = address.grain
    · subst same
      have known := roster?_held found
      simp only [known, ↓reduceIte, Roster.enrol, Holding.roster]
      split
      · exact known
      · split
        · exact known
        · simp [roster?_put, Holding.roster]
    · rw [if_neg same]
      split
      · rfl
      · split
        · rfl
        · rw [roster?_put, if_neg same, roster?]

theorem register_answer (partition : Partition) (address : Address) (single : Bool) :
    (partition.register address single).1.address =
      (Roster.chosen (partition.roster? address.grain) address.toInstance single).address
        address.grain := by
  have own : address.toInstance.address address.grain = address := rfl
  cases found : partition.held.get? address.grain with
  | none => simp [register_absent single found, roster?, found, Roster.chosen, own]
  | some holding =>
    rw [register_held single found]
    simp only [roster?, found, Option.map_some, Holding.roster, Roster.chosen]
    cases guarded : (holding.single || single) with
    | false => simp only [Bool.false_and, Bool.false_eq_true, ↓reduceIte, own]; split <;> rfl
    | true => cases listed : holding.instances <;> simp [own]

theorem retain_roster (partition : Partition) (stays : Grain → Silo → Bool) (grain : Grain) :
    (partition.retain stays).2.roster? grain =
      (partition.roster? grain).bind (Roster.keep fun inst => stays grain inst.silo) := by
  have steady : ∀ grain holding state,
      (retainHolding stays grain holding state).1.map Holding.roster =
        (Roster.keep (fun inst => stays grain inst.silo) ∘ Holding.roster) holding := by
    intro grain holding state
    obtain ⟨instances, alone, version⟩ := holding
    simp only [retainHolding, Roster.keep, Holding.roster, Function.comp_apply]
    by_cases emptied : (instances.filter fun inst => stays grain inst.silo).isEmpty
    · simp only [emptied, ↓reduceIte, Option.map_none]
    · simp only [emptied, Bool.false_eq_true, ↓reduceIte]
      split
      · rename_i kept
        have all := (List.filter_sublist (l := instances)
          (p := fun inst => stays grain inst.silo)).eq_of_length_le (by omega)
        simp only [all, Option.map_some, Holding.roster]
      · rfl
  have swept := Keyed.get?_sweep steady partition.held (partition.drawn, 0) grain
  simpa [retain, roster?, Option.bind_map] using swept

theorem register_proper {partition : Partition} (proper : partition.Proper) (address : Address)
    (single : Bool) : (partition.register address single).2.Proper := by
  intro grain roster found
  rw [register_roster] at found
  split at found
  · cases found
    exact Roster.enrol_proper (fun roster known => proper _ roster known) _ _
  · exact proper grain roster found

theorem register_holds {partition : Partition} {address other : Address} {single : Bool} :
    (partition.register address single).2.Holds other ↔ partition.Holds other ∨
      other = address ∧ (partition.register address single).1.address = address := by
  have answer : (partition.register address single).1.address = address ↔
      Roster.chosen (partition.roster? address.grain) address.toInstance single =
        address.toInstance := by
    rw [register_answer]
    exact ⟨fun same => congrArg Address.toInstance same,
      fun same => congrArg (Instance.address · address.grain) same⟩
  rw [answer]
  simp only [Holds, register_roster]
  by_cases same : other.grain = address.grain
  · simp only [same, ↓reduceIte, Option.some.injEq, exists_eq_left', Roster.mem_enrol]
    refine or_congr_right (and_congr_left fun _ => ⟨fun equal => ?_, fun equal => equal ▸ rfl⟩)
    obtain ⟨grain, silo, activation⟩ := other
    cases same
    cases equal
    rfl
  · simp only [same, ↓reduceIte, iff_self_or, and_imp]
    rintro rfl
    exact absurd rfl same

theorem retain_proper {partition : Partition} (proper : partition.Proper)
    (stays : Grain → Silo → Bool) : (partition.retain stays).2.Proper := by
  intro grain kept found
  rw [retain_roster] at found
  obtain ⟨roster, known, left⟩ := Option.bind_eq_some_iff.mp found
  exact Roster.keep_proper (proper grain roster known) left

theorem retain_holds {partition : Partition} {allowed : Grain → Silo → Bool}
    {address : Address} : (partition.retain allowed).2.Holds address ↔
      partition.Holds address ∧ allowed address.grain address.silo = true := by
  simp only [Holds, retain_roster, Option.bind_eq_some_iff]
  constructor
  · rintro ⟨kept, ⟨roster, known, left⟩, present⟩
    obtain ⟨_, rfl⟩ := Roster.keep_eq_some.mp left
    obtain ⟨present, stays⟩ := List.mem_filter.mp present
    exact ⟨⟨roster, known, present⟩, stays⟩
  · rintro ⟨⟨roster, known, present⟩, stays⟩
    have left : address.toInstance ∈ roster.instances.filter fun inst =>
        allowed address.grain inst.silo := List.mem_filter.mpr ⟨present, stays⟩
    exact ⟨_, ⟨roster, known, Roster.keep_eq_some.mpr ⟨List.ne_nil_of_mem left, rfl⟩⟩, left⟩

theorem unregister_held {partition : Partition} {address : Address} {holding : Holding}
    (found : partition.held.get? address.grain = some holding) :
    (partition.unregister address).2 =
      let kept := holding.instances.filter (·.activation ≠ address.activation)
      if kept.length = holding.instances.length then partition
      else if kept.isEmpty then { partition with held := partition.held.erase address.grain }
      else ⟨partition.held.put address.grain ⟨kept, holding.single, tag partition.drawn⟩,
        partition.drawn + 1⟩ := by
  simp only [unregister, unregisterAt, found, ne_eq, not_true_eq_false, false_and, ↓reduceIte]
  by_cases untouched : (holding.instances.filter
      (·.activation ≠ address.activation)).length = holding.instances.length
  · simp only [ne_eq] at untouched
    simp only [untouched, ↓reduceIte]
  · simp only [ne_eq] at untouched
    simp only [untouched, ↓reduceIte]
    by_cases emptied : (holding.instances.filter
        (·.activation ≠ address.activation)).isEmpty
    · simp only [ne_eq] at emptied
      simp only [emptied, ↓reduceIte]
    · simp only [ne_eq] at emptied
      simp only [emptied, Bool.false_eq_true, ↓reduceIte]

theorem unregister_roster (partition : Partition) (address : Address) (grain : Grain) :
    (partition.unregister address).2.roster? grain =
      if grain = address.grain then
        (partition.roster? grain).bind (Roster.strike address.activation)
      else partition.roster? grain := by
  cases found : partition.held.get? address.grain with
  | none =>
    by_cases same : grain = address.grain
    · subst same; simp [unregister, unregisterAt, found, roster?]
    · simp [unregister, unregisterAt, found, same]
  | some holding =>
    rw [unregister_held found]
    dsimp only
    by_cases same : grain = address.grain
    · subst same
      have known := roster?_held found
      simp only [known, ↓reduceIte, Option.bind_some, Roster.strike, Roster.keep, Holding.roster]
      split
      · exact known
      · split
        · simp [roster?]
        · simp [roster?_put, Holding.roster]
    · rw [if_neg same]
      split
      · rfl
      · split
        · simp [roster?, same]
        · rw [roster?_put, if_neg same, roster?]

theorem unregister_proper {partition : Partition} (proper : partition.Proper)
    (address : Address) : (partition.unregister address).2.Proper := by
  intro grain kept found
  rw [unregister_roster] at found
  split at found
  · obtain ⟨roster, known, left⟩ := Option.bind_eq_some_iff.mp found
    exact Roster.strike_proper (proper _ roster (by simpa [*] using known)) left
  · exact proper grain kept found

theorem sameInstance_iff {address other : Address} : other.sameInstance address = true ↔
    other.grain = address.grain ∧ other.activation = address.activation := by
  simp [Address.sameInstance]

theorem unregister_holds {partition : Partition} {address other : Address} :
    (partition.unregister address).2.Holds other ↔
      partition.Holds other ∧ other.sameInstance address = false := by
  rw [← Bool.not_eq_true, sameInstance_iff, Holds, Holds, unregister_roster]
  by_cases same : other.grain = address.grain
  · simp only [same, ↓reduceIte, true_and]
    cases known : partition.roster? address.grain with
    | none => simp
    | some roster =>
      simp only [Option.bind_some, Option.some.injEq, exists_eq_left']
      exact Roster.mem_strike
  · simp [same]

theorem lookup_held {partition : Partition} {grain : Grain} {holding : Holding}
    (known : partition.held.get? grain = some holding) (someone : holding.instances ≠ []) :
    partition.lookup grain = some (holding.found grain) := by
  simp [lookup, known, Holding.found, someone]

theorem lookup_addresses (partition : Partition) (grain : Grain) :
    (partition.lookup grain).map Found.addresses =
      ((partition.roster? grain).map (Roster.addresses grain)).filter (!·.isEmpty) := by
  cases found : partition.held.get? grain with
  | none => simp [lookup, roster?, found]
  | some holding =>
    simp only [lookup, roster?, found, Option.map_some, Holding.found, Holding.roster,
      Roster.addresses, Option.filter_some]
    split <;> rfl

end Partition
end ActorDirectory
