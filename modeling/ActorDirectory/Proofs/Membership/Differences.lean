import ActorDirectory.Proofs.Membership.Ownership

-- What two snapshots differ in, silo by silo, and what a chain of such differences cannot miss.
namespace ActorDirectory

namespace Snapshot

variable {snapshot earlier later first last : Snapshot} {silo : Silo} {silos others : List Silo}

def Lives (snapshot : Snapshot) (silo : Silo) : Prop :=
  ∃ status, snapshot.status? silo = some status ∧ status ≠ .dead

def Gone (snapshot : Snapshot) (silo : Silo) : Prop :=
  snapshot.status? silo = none ∨ snapshot.status? silo = some .dead

def Ascending (silos : List Silo) : Prop := silos.Pairwise fun one other => one.order other = .lt

theorem lives_iff : snapshot.Lives silo ↔ snapshot.isDead silo = false := by
  rw [Lives, ← Bool.not_eq_true, isDead_iff]
  cases snapshot.status? silo <;> simp

theorem not_gone : ¬snapshot.Gone silo ↔ snapshot.Lives silo := by
  rw [Gone, ← isDead_iff, lives_iff, Bool.not_eq_true]

theorem sorted_ascending (distinct : silos.Nodup) :
    Ascending (Order.sortOn Silo.rank silos) := by
  have different : (Order.sortOn Silo.rank silos).Nodup :=
    (Order.sort_perm _ silos).nodup_iff.mpr distinct
  refine ((Order.sortOn_pairwise Silo.rank silos).and different).imp ?_
  rintro one other ⟨below, apart⟩
  have strict : one.rank ≠ other.rank := fun same => apart (Silo.rank_injective same)
  exact Nat.compare_eq_lt.mpr (Nat.lt_of_le_of_ne below strict)

theorem ascending_filter (ascending : Ascending silos) (chosen : Silo → Bool) :
    Ascending (silos.filter chosen) :=
  ascending.sublist List.filter_sublist

theorem ascending_nodup (ascending : Ascending silos) : silos.Nodup := by
  refine ascending.imp ?_
  intro one other before same
  subst same
  exact absurd (Nat.compare_eq_lt.mp before) (Nat.lt_irrefl _)

theorem ascending_unique (one : Ascending silos) (two : Ascending others)
    (same : ∀ silo, silo ∈ silos ↔ silo ∈ others) : silos = others := by
  have rearranged : silos.Perm others :=
    (List.perm_ext_iff_of_nodup (ascending_nodup one) (ascending_nodup two)).mpr same
  refine rearranged.eq_of_pairwise ?_ one two
  intro silo other _ _ before after
  exact absurd (Nat.compare_eq_lt.mp before) (Nat.lt_asymm (Nat.compare_eq_lt.mp after))

theorem activeSilos_ascending (snapshot : Snapshot) : Ascending snapshot.activeSilos :=
  sorted_ascending (snapshot.standings.distinct.filter _)

theorem mem_active : silo ∈ snapshot.activeSilos ↔ snapshot.status? silo = some .active :=
  mem_activeSilos.trans isActive_iff

theorem mem_added : silo ∈ (later.changesSince earlier).added ↔
    later.status? silo = some .active ∧ earlier.status? silo ≠ some .active := by
  simp only [changesSince, List.mem_filter, mem_active, Bool.not_eq_true', ne_eq,
    ← isActive_iff, Bool.not_eq_true]

theorem mem_removed : silo ∈ (later.changesSince earlier).removed ↔
    earlier.status? silo = some .active ∧ later.status? silo ≠ some .active := by
  simp only [changesSince, List.mem_filter, mem_active, Bool.not_eq_true', ne_eq,
    ← isActive_iff, Bool.not_eq_true]

theorem mem_died : silo ∈ (later.changesSince earlier).died ↔
    earlier.Lives silo ∧ later.Gone silo := by
  rw [lives_iff, Gone, ← isDead_iff]
  simp only [changesSince, Order.mem_sortOn, List.mem_filter, Bool.and_eq_true, Bool.not_eq_true',
    and_iff_right_iff_imp]
  intro both
  exact known_of_alive both.1

structure Differs (earlier later : Snapshot) (changes : Changes) : Prop where
  active : later.activeSilos = Order.sortOn Silo.rank
    (earlier.activeSilos.filter (· ∉ changes.removed) ++ changes.added)
  once : Ascending later.activeSilos
  added : Ascending changes.added ∧ ∀ silo, silo ∈ changes.added ↔
    later.status? silo = some .active ∧ earlier.status? silo ≠ some .active
  removed : Ascending changes.removed ∧ ∀ silo, silo ∈ changes.removed ↔
    earlier.status? silo = some .active ∧ later.status? silo ≠ some .active
  disjoint : ∀ silo ∈ changes.added, silo ∉ changes.removed
  died : Ascending changes.died ∧ ∀ silo, silo ∈ changes.died ↔ earlier.Lives silo ∧ later.Gone silo
  silent : changes.isEmpty = true ↔
    (∀ silo, silo ∈ later.activeSilos ↔ silo ∈ earlier.activeSilos) ∧
      ¬∃ silo, earlier.Lives silo ∧ later.Gone silo

theorem changes_active (earlier later : Snapshot) :
    later.activeSilos = Order.sortOn Silo.rank
      (earlier.activeSilos.filter (· ∉ (later.changesSince earlier).removed) ++
        (later.changesSince earlier).added) := by
  have stays : ∀ silo, silo ∈ earlier.activeSilos.filter
      (· ∉ (later.changesSince earlier).removed) ↔
        earlier.status? silo = some .active ∧ later.status? silo = some .active := by
    intro silo
    rw [List.mem_filter, decide_eq_true_iff, mem_active, mem_removed]
    grind
  refine ascending_unique (activeSilos_ascending later) (sorted_ascending ?_) ?_
  · refine List.nodup_append.mpr ⟨?_, ?_, ?_⟩
    · exact ascending_nodup (ascending_filter (activeSilos_ascending earlier) _)
    · exact ascending_nodup (ascending_filter (activeSilos_ascending later) _)
    · intro silo stayed other came same
      exact (mem_added.mp (same ▸ came)).2 ((stays silo).mp stayed).1
  · intro silo
    rw [Order.mem_sortOn, List.mem_append, stays, mem_active, mem_added]
    grind

theorem changes_silent : (later.changesSince earlier).isEmpty = true ↔
    (∀ silo, silo ∈ later.activeSilos ↔ silo ∈ earlier.activeSilos) ∧
      ¬∃ silo, earlier.Lives silo ∧ later.Gone silo := by
  rw [changes_isEmpty]
  apply and_congr
  · apply forall_congr'
    intro silo
    rw [mem_activeSilos, mem_activeSilos]
    exact Bool.eq_iff_iff
  · simp only [lives_iff, Gone, ← isDead_iff, not_exists, not_and, Bool.not_eq_true]

theorem changes_differ (earlier later : Snapshot) :
    Differs earlier later (later.changesSince earlier) where
  active := changes_active earlier later
  once := activeSilos_ascending later
  added := ⟨ascending_filter (activeSilos_ascending later) _, fun _ => mem_added⟩
  removed := ⟨ascending_filter (activeSilos_ascending earlier) _, fun _ => mem_removed⟩
  disjoint := by
    intro silo came went
    exact (mem_added.mp came).2 (mem_removed.mp went).1
  died := ⟨sorted_ascending (earlier.standings.distinct.filter _), fun _ => mem_died⟩
  silent := changes_silent

-- What holds at the start of a chain and not at its end stops holding between two neighbours.
theorem exists_loss (holds : Snapshot → Prop) {chain : List Snapshot}
    (starts : chain.head? = some first) (ends : chain.getLast? = some last)
    (held : holds first) (lost : ¬holds last) :
    ∃ earlier later, [earlier, later] <:+: chain ∧ holds earlier ∧ ¬holds later := by
  induction chain generalizing first with
  | nil => cases starts
  | cons start rest ih =>
    cases starts
    cases rest with
    | nil =>
      cases ends
      exact absurd held lost
    | cons next rest =>
      by_cases still : holds next
      · obtain ⟨earlier, later, within, was, isNot⟩ := ih rfl ends still
        exact ⟨earlier, later, within.trans (List.suffix_cons start _).isInfix, was, isNot⟩
      · exact ⟨start, next, ⟨[], rest, rfl⟩, held, still⟩

-- Differences are exact. Along a chain of snapshots none who lived first and is gone at last, and
-- none who was active first and is not at last, is missed by all of them, whatever comes between.
theorem changes_miss_nothing :
    (∀ earlier later : Snapshot, Differs earlier later (later.changesSince earlier)) ∧
    ∀ (chain : List Snapshot) (first last : Snapshot),
      chain.head? = some first → chain.getLast? = some last → ∀ silo,
      (first.Lives silo → last.Gone silo → ∃ earlier later, [earlier, later] <:+: chain ∧
        silo ∈ (later.changesSince earlier).died) ∧
      (silo ∈ first.activeSilos → silo ∉ last.activeSilos →
        ∃ earlier later, [earlier, later] <:+: chain ∧
          silo ∈ (later.changesSince earlier).removed) := by
  refine ⟨changes_differ, ?_⟩
  intro chain first last starts ends silo
  constructor
  · intro lives gone
    obtain ⟨earlier, later, within, lived, buried⟩ :=
      exists_loss (·.Lives silo) starts ends lives (fun lives => not_gone.mpr lives gone)
    refine ⟨earlier, later, within, mem_died.mpr ⟨lived, ?_⟩⟩
    exact Classical.not_not.mp (fun unburied => buried (not_gone.mp unburied))
  · intro active passive
    obtain ⟨earlier, later, within, was, isNot⟩ :=
      exists_loss (silo ∈ ·.activeSilos) starts ends active passive
    exact ⟨earlier, later, within, mem_removed.mpr ⟨mem_active.mp was, isNot ∘ mem_active.mpr⟩⟩

example :
    let silo : Silo := ⟨.v4 ⟨10, 0, 0, 1⟩, 100, 1⟩
    let active := withActive [silo]
    let leaving := active.updated silo .shuttingDown
    let back := leaving.updated silo .joining
    [leaving.changesSince active, back.changesSince leaving,
      (back.without silo).changesSince back] =
        [⟨[], [silo], []⟩, ⟨[], [], []⟩, ⟨[], [], [silo]⟩] := by decide +kernel

end Snapshot
end ActorDirectory
