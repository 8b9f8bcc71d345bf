import ActorDirectory.Partition.Entries
import ActorDirectory.Proofs.Partition.Roster

-- All that can be done to a partition, and what it may do to the entry of a grain.
namespace ActorDirectory

namespace Roster

inductive Reshapes (before : Option Roster) : Option Roster → Prop where
  | kept : Reshapes before before
  | enrolled (inst : Instance) (single : Bool) : Reshapes before (some (enrol before inst single))
  | struck (activation : Activation) : Reshapes before (before.bind (strike activation))
  | sifted (stays : Instance → Bool) : Reshapes before (before.bind (keep stays))
  | cleared : Reshapes before none

theorem strike_cases (activation : Activation) (roster : Roster) :
    roster.strike activation = some roster ∨
      roster.strike activation = roster.keep (·.activation ≠ activation) := by
  unfold strike
  dsimp only
  split
  · exact .inl rfl
  · exact .inr rfl

-- A property that enrolling brings about and thinning out keeps.
theorem reshapes_good (good : Roster → Prop) {before after : Option Roster}
    (enrols : ∀ known : Option Roster, (∀ roster ∈ known, good roster) → ∀ inst single,
      good (enrol known inst single))
    (keeps : ∀ {roster kept : Roster} {stays : Instance → Bool}, good roster →
      roster.keep stays = some kept → good kept)
    (reshapes : Reshapes before after) (all : ∀ roster, before = some roster → good roster) :
    ∀ roster, after = some roster → good roster := by
  intro kept found
  cases reshapes with
  | kept => exact all kept found
  | enrolled inst single =>
    cases found
    exact enrols before all inst single
  | struck activation =>
    obtain ⟨roster, known, left⟩ := Option.bind_eq_some_iff.mp found
    rcases strike_cases activation roster with same | same
    · exact Option.some.inj (same.symm.trans left) ▸ all roster known
    · exact keeps (all roster known) (same.symm.trans left)
  | sifted stays =>
    obtain ⟨roster, known, left⟩ := Option.bind_eq_some_iff.mp found
    exact keeps (all roster known) left
  | cleared => cases found

end Roster

namespace Partition

inductive Operation where
  | register (address : Address) (single : Bool)
  | unregister (address : Address)
  | unregisterAt (address : Address) (expected : Version)
  | unregisterSilos (silos : List Silo)
  | retain (keep : Grain → Silo → Bool)
  | clear
  | registerEntry (entry : Entry)
  | unregisterEntry (entry : Entry)

def withdrawAt (partition : Partition) (address : Address) (expected : Version) : Partition :=
  match partition.unregisterAt address expected with
  | .ok (_, partition) => partition
  | .error _ => partition

def operate (partition : Partition) : Operation → Partition
  | .register address single => (partition.register address single).2
  | .unregister address => (partition.unregister address).2
  | .unregisterAt address expected => partition.withdrawAt address expected
  | .unregisterSilos silos => (partition.unregisterSilos silos).2
  | .retain keep => (partition.retain keep).2
  | .clear => partition.clear
  | .registerEntry entry => (partition.registerEntry entry).2
  | .unregisterEntry entry => (partition.unregisterEntry entry).2

def run (partition : Partition) (operations : List Operation) : Partition :=
  operations.foldl operate partition

@[simp] theorem run_nil (partition : Partition) : partition.run [] = partition := rfl

@[simp] theorem run_cons (partition : Partition) (operation : Operation)
    (rest : List Operation) :
    partition.run (operation :: rest) = (partition.operate operation).run rest := rfl

@[simp] theorem run_append (partition : Partition) (earlier later : List Operation) :
    partition.run (earlier ++ later) = (partition.run earlier).run later :=
  List.foldl_append ..

variable {partition before middle after : Partition} {grain : Grain} {address : Address}
  {holding : Holding} {expected : Version}

theorem unregisterAt_absent (absent : partition.held.get? address.grain = none) :
    partition.unregisterAt address expected = .ok (false, partition) := by
  simp only [unregisterAt, absent]

theorem unregisterAt_stale (found : partition.held.get? address.grain = some holding)
    (presented : expected ≠ .unknown) (stale : expected ≠ holding.version) :
    partition.unregisterAt address expected =
      .error (.staleVersion address.grain.toText expected holding.version) := by
  simp [unregisterAt, found, presented, stale]

theorem unregisterAt_current (found : partition.held.get? address.grain = some holding)
    (current : expected = .unknown ∨ expected = holding.version) :
    partition.unregisterAt address expected = .ok (partition.unregister address) := by
  have unguarded : partition.unregisterAt address expected =
      partition.unregisterAt address .unknown := by
    have fits : ¬(expected ≠ .unknown ∧ expected ≠ holding.version) :=
      fun both => current.elim both.1 both.2
    simp only [unregisterAt, found, if_neg fits, ne_eq, not_true_eq_false, false_and, ↓reduceIte]
  rw [unguarded, unregister]
  have answered : ∃ result, partition.unregisterAt address .unknown = .ok result := by
    simp only [unregisterAt, found, ne_eq, not_true_eq_false, false_and, ↓reduceIte]
    split
    · exact ⟨_, rfl⟩
    · split <;> exact ⟨_, rfl⟩
  obtain ⟨result, answered⟩ := answered
  rw [answered]

theorem withdrawAt_cases (partition : Partition) (address : Address) (expected : Version) :
    partition.withdrawAt address expected = partition ∨
      partition.withdrawAt address expected = (partition.unregister address).2 := by
  cases found : partition.held.get? address.grain with
  | none => exact .inl (by rw [withdrawAt, unregisterAt_absent found])
  | some holding =>
    by_cases current : expected = .unknown ∨ expected = holding.version
    · exact .inr (by rw [withdrawAt, unregisterAt_current found current])
    · rw [not_or] at current
      exact .inl (by rw [withdrawAt, unregisterAt_stale found current.1 current.2])

-- The entry of a grain stays untouched, goes, or is another one under a tag just drawn.
inductive Evolves (before after : Partition) (grain : Grain) : Prop where
  | kept : after.held.get? grain = before.held.get? grain → Evolves before after grain
  | gone : before.held.get? grain ≠ none → after.held.get? grain = none →
      Evolves before after grain
  | renewed (holding : Holding) (number : Nat) : after.held.get? grain = some holding →
      before.roster? grain ≠ some holding.roster → holding.version = tag number →
      before.drawn ≤ number → number < after.drawn →
      (∀ earlier, before.held.get? grain = some earlier → holding.single = earlier.single) →
      Evolves before after grain

structure Advances (before after : Partition) : Prop where
  drawn : before.drawn ≤ after.drawn
  each : ∀ grain, Evolves before after grain

theorem advances_refl (partition : Partition) : partition.Advances partition :=
  ⟨Nat.le_refl _, fun _ => .kept rfl⟩

theorem register_other (partition : Partition) (address : Address) (single : Bool)
    (other : grain ≠ address.grain) :
    (partition.register address single).2.held.get? grain = partition.held.get? grain := by
  cases found : partition.held.get? address.grain with
  | none => simp [register_absent single found, other]
  | some holding =>
    rw [register_held single found]
    split
    · rfl
    · split
      · rfl
      · simp [other]

theorem register_advances (partition : Partition) (address : Address) (single : Bool) :
    partition.Advances (partition.register address single).2 := by
  cases found : partition.held.get? address.grain with
  | none =>
    rw [register_absent single found]
    refine ⟨Nat.le_succ _, fun grain => ?_⟩
    by_cases same : grain = address.grain
    · subst same
      refine .renewed _ partition.drawn (Keyed.get?_put .. |>.trans (if_pos rfl)) ?_ rfl
        (Nat.le_refl _) (Nat.lt_succ_self _) ?_
      · simp [roster?, found]
      · simp [found]
    · exact .kept (by simp [same])
  | some holding =>
    rw [register_held single found]
    split
    · exact advances_refl partition
    · split
      · exact advances_refl partition
      · refine ⟨Nat.le_succ _, fun grain => ?_⟩
        by_cases same : grain = address.grain
        · subst same
          refine .renewed _ partition.drawn (Keyed.get?_put .. |>.trans (if_pos rfl)) ?_
            rfl (Nat.le_refl _) (Nat.lt_succ_self _) ?_
          · simp [roster?, found, Holding.roster]
          · simp [found]
        · exact .kept (by simp [same])

theorem unregister_other (partition : Partition) (address : Address)
    (other : grain ≠ address.grain) :
    (partition.unregister address).2.held.get? grain = partition.held.get? grain := by
  cases found : partition.held.get? address.grain with
  | none => simp [unregister, unregisterAt, found]
  | some holding =>
    rw [unregister_held found]
    dsimp only
    split
    · rfl
    · split
      · simp [other]
      · simp [other]

theorem unregister_advances (partition : Partition) (address : Address) :
    partition.Advances (partition.unregister address).2 := by
  cases found : partition.held.get? address.grain with
  | none => simpa [unregister, unregisterAt, found] using advances_refl partition
  | some holding =>
    rw [unregister_held found]
    dsimp only
    split
    · exact advances_refl partition
    · rename_i struck
      split
      · refine ⟨Nat.le_refl _, fun grain => ?_⟩
        by_cases same : grain = address.grain
        · subst same
          exact .gone (by simp [found]) (by simp)
        · exact .kept (by simp [same])
      · refine ⟨Nat.le_succ _, fun grain => ?_⟩
        by_cases same : grain = address.grain
        · subst same
          refine .renewed _ partition.drawn (Keyed.get?_put .. |>.trans (if_pos rfl)) ?_
            rfl (Nat.le_refl _) (Nat.lt_succ_self _) ?_
          · intro unchanged
            simp only [roster?, found, Option.map_some, Option.some.injEq, Holding.roster,
              Roster.mk.injEq, and_true] at unchanged
            exact struck (congrArg List.length unchanged).symm
          · simp [found]
        · exact .kept (by simp [same])

theorem retainHolding_drawn (keep : Grain → Silo → Bool) (grain : Grain) (holding : Holding)
    (state : Nat × Nat) : state.1 ≤ (retainHolding keep grain holding state).2.1 := by
  simp only [retainHolding]
  split
  · exact Nat.le_refl _
  · split
    · exact Nat.le_refl _
    · exact Nat.le_succ _

theorem nothing_lost {stays : Instance → Bool} {instances : List Instance} :
    instances.length - (instances.filter stays).length = 0 ↔
      ∀ inst ∈ instances, stays inst = true := by
  rw [← List.length_filter_eq_length_iff]
  have fewer := List.length_filter_le stays instances
  omega

theorem retainHolding_left {keep : Grain → Silo → Bool} {old new : Holding} {state : Nat × Nat}
    (left : (retainHolding keep grain old state).1 = some new) :
    (new = old ∧ ∀ inst ∈ old.instances, keep grain inst.silo = true) ∨
      (∃ inst ∈ old.instances, keep grain inst.silo = false) ∧
        new = ⟨old.instances.filter fun inst => keep grain inst.silo, old.single, tag state.1⟩ ∧
        (retainHolding keep grain old state).2.1 = state.1 + 1 := by
  unfold retainHolding at left ⊢
  dsimp only at left ⊢
  split at left
  · cases left
  · rename_i someone
    split at left
    · rename_i untouched
      exact .inl ⟨(Option.some.inj left).symm, nothing_lost.mp untouched⟩
    · rename_i lost
      refine .inr ⟨?_, (Option.some.inj left).symm, by simp only [if_neg someone, if_neg lost]⟩
      simpa only [nothing_lost, Classical.not_forall, exists_prop, Bool.not_eq_true] using lost

theorem retain_visits (partition : Partition) (keep : Grain → Silo → Bool) (grain : Grain) :
    ∃ during : Nat × Nat, partition.drawn ≤ during.1 ∧
      (∀ holding, partition.held.get? grain = some holding →
        (retainHolding keep grain holding during).2.1 ≤ (partition.retain keep).2.drawn) ∧
      (partition.retain keep).2.held.get? grain = (partition.held.get? grain).bind
        fun holding => (retainHolding keep grain holding during).1 := by
  obtain ⟨during, visits⟩ := Keyed.exists_visits (retainHolding_drawn keep) grain
    partition.held.distinct (partition.drawn, 0)
  exact ⟨during, visits.after, visits.before, visits.found⟩

theorem retain_advances (partition : Partition) (keep : Grain → Silo → Bool) :
    partition.Advances (partition.retain keep).2 := by
  refine ⟨Keyed.sweepPairs_grows (retainHolding_drawn keep) partition.held.pairs (partition.drawn, 0), ?_⟩
  intro grain
  obtain ⟨during, after, before, swept⟩ := retain_visits partition keep grain
  cases found : partition.held.get? grain with
  | none => exact .kept (by rw [swept, found]; rfl)
  | some old =>
    rw [found, Option.bind_some] at swept
    cases left : (partition.retain keep).2.held.get? grain with
    | none => exact .gone (by simp [found]) left
    | some new =>
      rcases retainHolding_left (swept.symm.trans left) with ⟨rfl, _⟩ | ⟨lost, rfl, drawn⟩
      · exact .kept (left.trans found.symm)
      · refine .renewed _ during.1 left ?_ rfl after ?_ (by simp [found])
        · intro unchanged
          simp only [roster?, found, Option.map_some, Option.some.injEq, Holding.roster,
            Roster.mk.injEq, and_true] at unchanged
          obtain ⟨inst, present, goes⟩ := lost
          have stays := List.filter_eq_self.mp unchanged.symm inst present
          rw [goes] at stays
          cases stays
        · have bound := before old found
          rw [drawn] at bound
          exact bound

theorem clear_advances (partition : Partition) : partition.Advances partition.clear := by
  refine ⟨Nat.le_refl _, fun grain => ?_⟩
  cases found : partition.held.get? grain with
  | none => exact .kept found.symm
  | some holding => exact .gone (by simp [found]) rfl

theorem withdrawAt_advances (partition : Partition) (address : Address) (expected : Version) :
    partition.Advances (partition.withdrawAt address expected) := by
  rcases withdrawAt_cases partition address expected with same | same
  · rw [same]
    exact advances_refl partition
  · rw [same]
    exact unregister_advances partition address

theorem registerEntry_left (partition : Partition) (entry : Entry) :
    (partition.registerEntry entry).2 = match entry.toAddress with
      | .error _ => partition
      | .ok address => (partition.register address true).2 := by
  cases read : entry.toAddress with
  | error fault => simp [registerEntry, read]
  | ok address =>
    simp only [registerEntry, read]
    split <;> rfl

theorem unregisterEntry_left (partition : Partition) (entry : Entry) :
    (partition.unregisterEntry entry).2 = match entry.toAddress with
      | .error _ => partition
      | .ok address => partition.withdrawAt address entry.version := by
  cases read : entry.toAddress with
  | error fault => simp [unregisterEntry, read]
  | ok address =>
    simp only [unregisterEntry, read, withdrawAt]
    cases partition.unregisterAt address entry.version <;> rfl

theorem operate_advances (partition : Partition) (operation : Operation) :
    partition.Advances (partition.operate operation) := by
  cases operation with
  | register address single => exact register_advances partition address single
  | unregister address => exact unregister_advances partition address
  | unregisterAt address expected => exact withdrawAt_advances partition address expected
  | unregisterSilos silos => exact retain_advances partition _
  | retain keep => exact retain_advances partition keep
  | clear => exact clear_advances partition
  | registerEntry entry =>
    rw [operate, registerEntry_left]
    split
    · exact advances_refl partition
    · exact register_advances partition _ true
  | unregisterEntry entry =>
    rw [operate, unregisterEntry_left]
    split
    · exact advances_refl partition
    · exact withdrawAt_advances partition _ _

theorem operate_reshapes (partition : Partition) (operation : Operation) (grain : Grain) :
    Roster.Reshapes (partition.roster? grain) ((partition.operate operation).roster? grain) := by
  have enrols : ∀ address single, Roster.Reshapes (partition.roster? grain)
      ((partition.register address single).2.roster? grain) := by
    intro address single
    rw [register_roster]
    split
    · exact .enrolled _ _
    · exact .kept
  have strikes : ∀ address, Roster.Reshapes (partition.roster? grain)
      ((partition.unregister address).2.roster? grain) := by
    intro address
    rw [unregister_roster]
    split
    · exact .struck _
    · exact .kept
  have withdraws : ∀ address expected, Roster.Reshapes (partition.roster? grain)
      ((partition.withdrawAt address expected).roster? grain) := by
    intro address expected
    rcases withdrawAt_cases partition address expected with same | same
    · rw [same]
      exact .kept
    · rw [same]
      exact strikes address
  have sifts : ∀ keep, Roster.Reshapes (partition.roster? grain)
      ((partition.retain keep).2.roster? grain) := by
    intro keep
    rw [retain_roster]
    exact .sifted _
  cases operation with
  | register address single => exact enrols address single
  | unregister address => exact strikes address
  | unregisterAt address expected => exact withdraws address expected
  | unregisterSilos silos => exact sifts _
  | retain keep => exact sifts keep
  | clear => exact .cleared
  | registerEntry entry =>
    rw [operate, registerEntry_left]
    split
    · exact .kept
    · exact enrols _ true
  | unregisterEntry entry =>
    rw [operate, unregisterEntry_left]
    split
    · exact .kept
    · exact withdraws _ _

theorem operate_proper (proper : partition.Proper) (operation : Operation) :
    (partition.operate operation).Proper := by
  intro grain
  exact Roster.reshapes_good Roster.Proper (fun _ => Roster.enrol_proper) Roster.keep_proper
    (operate_reshapes partition operation grain) (proper grain)

theorem run_proper (proper : partition.Proper) (operations : List Operation) :
    (partition.run operations).Proper := by
  induction operations generalizing partition with
  | nil => exact proper
  | cons operation rest ih => exact ih (operate_proper proper operation)

end Partition
end ActorDirectory
