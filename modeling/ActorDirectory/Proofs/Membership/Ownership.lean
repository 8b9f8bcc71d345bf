import ActorDirectory.Membership.View

namespace ActorDirectory

namespace Snapshot

variable {snapshot earlier later : Snapshot} {silo : Silo}

theorem isActive_iff : snapshot.isActive silo = true ↔ snapshot.status? silo = some .active := by
  cases found : snapshot.status? silo <;> simp [isActive, status, found]

theorem isDead_iff : snapshot.isDead silo = true ↔
    snapshot.status? silo = none ∨ snapshot.status? silo = some .dead := by
  cases found : snapshot.status? silo <;> simp [isDead, status, found]

theorem known_of_alive (alive : snapshot.isDead silo = false) : silo ∈ snapshot.standings.keys := by
  rw [← Keyed.get?_isSome]
  cases found : snapshot.standings.get? silo with
  | none => simp [isDead, status, status?, found] at alive
  | some standing => rfl

theorem alive_of_active (active : snapshot.isActive silo) : snapshot.isDead silo = false := by
  simp only [isActive, isDead, decide_eq_true_eq, decide_eq_false_iff_not] at active ⊢
  simp [active]

theorem mem_activeSilos : silo ∈ snapshot.activeSilos ↔ snapshot.isActive silo := by
  simp only [activeSilos, Order.mem_sortOn, List.mem_filter, and_iff_right_iff_imp]
  exact fun active => known_of_alive (alive_of_active active)

theorem changes_isEmpty : (later.changesSince earlier).isEmpty ↔
    (∀ silo, later.isActive silo = earlier.isActive silo) ∧
      ∀ silo, earlier.isDead silo = false → later.isDead silo = false := by
  simp only [Changes.isEmpty, changesSince, Bool.and_eq_true, List.isEmpty_iff,
    List.filter_eq_nil_iff, mem_activeSilos]
  constructor
  · rintro ⟨⟨added, removed⟩, died⟩
    refine ⟨fun silo => ?_, fun silo alive => ?_⟩
    · have came := added silo
      have went := removed silo
      cases now : later.isActive silo <;> cases before : earlier.isActive silo <;> simp_all
    · cases buried : later.isDead silo with
      | false => rfl
      | true =>
        have listed : silo ∈ Order.sortOn Silo.rank (earlier.standings.keys.filter
            fun silo => !earlier.isDead silo && later.isDead silo) :=
          Order.mem_sortOn.mpr (List.mem_filter.mpr
            ⟨known_of_alive alive, by simp [alive, buried]⟩)
        rw [died] at listed
        cases listed
  · rintro ⟨active, alive⟩
    refine ⟨⟨fun silo now => ?_, fun silo before => ?_⟩, List.eq_nil_iff_forall_not_mem.mpr ?_⟩
    · simp [← active silo, now]
    · simp [active silo, before]
    · intro silo listed
      have chosen := (List.mem_filter.mp (Order.mem_sortOn.mp listed)).2
      simp only [Bool.and_eq_true, Bool.not_eq_true'] at chosen
      simp [alive silo chosen.1] at chosen

theorem activeSilos_of_unchanged (unchanged : (later.changesSince earlier).isEmpty) :
    later.activeSilos = earlier.activeSilos := by
  refine Order.sortOn_eq_of_perm (fun _ _ => Silo.rank_injective) ?_
  refine (List.perm_ext_iff_of_nodup (later.standings.distinct.filter _)
    (earlier.standings.distinct.filter _)).mpr fun silo => ?_
  have same := (changes_isEmpty.mp unchanged).1 silo
  have either : ∀ snapshot : Snapshot,
      silo ∈ snapshot.standings.keys.filter snapshot.isActive ↔ snapshot.isActive silo :=
    fun snapshot => Order.mem_sortOn.symm.trans mem_activeSilos
  exact (either later).trans (by rw [same]; exact (either earlier).symm)

end Snapshot

namespace Ring

variable {hash : String → UInt64} {perSilo : Nat} {silos : List Silo} {grain : Grain}

theorem mem_build {bucket : Bucket} : bucket ∈ (build hash perSilo silos).buckets ↔
    ∃ silo ∈ silos, ∃ number < perSilo, Bucket.numbered hash silo number = bucket := by
  simp [build, Order.mem_sort, bucketsOf]

theorem owner_listed {owner : Silo} (owned : owner? hash (build hash perSilo silos) grain = some owner) :
    owner ∈ silos := by
  obtain ⟨bucket, chosen, rfl⟩ := Option.map_eq_some_iff.mp owned
  have present : bucket ∈ (build hash perSilo silos).buckets := by
    cases found : (build hash perSilo silos).buckets.find? (hash grain.toText ≤ ·.point) with
    | none => exact List.mem_of_head? (by simpa [found] using chosen)
    | some first =>
      have same : first = bucket := by simpa [found] using chosen
      exact same ▸ List.mem_of_find?_eq_some found
  obtain ⟨silo, listed, number, _, rfl⟩ := mem_build.mp present
  exact listed

theorem owner_exists (positive : 0 < perSilo) (nonempty : silos ≠ []) :
    ∃ owner, owner? hash (build hash perSilo silos) grain = some owner := by
  obtain ⟨silo, listed⟩ := List.exists_mem_of_ne_nil silos nonempty
  have present : Bucket.numbered hash silo 0 ∈ (build hash perSilo silos).buckets :=
    mem_build.mpr ⟨silo, listed, 0, positive, rfl⟩
  cases buckets : (build hash perSilo silos).buckets with
  | nil => rw [buckets] at present; cases present
  | cons first rest =>
    cases found : (first :: rest).find? (hash grain.toText ≤ ·.point) with
    | none => exact ⟨first.silo, by simp [owner?, ownerAt?, buckets, found]⟩
    | some bucket => exact ⟨bucket.silo, by simp [owner?, ownerAt?, buckets, found]⟩

end Ring

namespace Membership

variable {hash : String → UInt64} {buckets : Nat} {snapshot earlier later : Snapshot}

def Made (hash : String → UInt64) (buckets : Nat) (membership : Membership) : Prop :=
  membership = ofSnapshot hash buckets membership.snapshot

theorem made_ofSnapshot : Made hash buckets (ofSnapshot hash buckets snapshot) := rfl

theorem made_empty : Made hash buckets empty := by
  simp only [Made, ofSnapshot, empty, Membership.mk.injEq, true_and]
  rfl

variable {membership : Membership} {grain : Grain} {owner : Silo}

theorem owner_active (made : Made hash buckets membership)
    (owned : membership.owner? hash grain = some owner) : membership.snapshot.isActive owner := by
  rw [made] at owned
  exact Snapshot.mem_activeSilos.mp (Ring.owner_listed owned)

theorem owner_exists (positive : 0 < buckets) {silo : Silo} (active : snapshot.isActive silo)
    (grain : Grain) : ∃ owner, (ofSnapshot hash buckets snapshot).owner? hash grain = some owner :=
  Ring.owner_exists positive (List.ne_nil_of_mem (Snapshot.mem_activeSilos.mpr active))

-- Whoever takes a silo for the owner of one grain has an owner for every other.
theorem owner_everywhere (owned : membership.owner? hash grain = some owner) (other : Grain) :
    ∃ silo, membership.owner? hash other = some silo := by
  cases buckets : membership.ring.buckets with
  | nil => simp [owner?, Ring.owner?, Ring.ownerAt?, buckets] at owned
  | cons first rest =>
    cases found : (first :: rest).find? (hash other.toText ≤ ·.point) with
    | none => exact ⟨first.silo, by simp [owner?, Ring.owner?, Ring.ownerAt?, buckets, found]⟩
    | some bucket =>
      exact ⟨bucket.silo, by simp [owner?, Ring.owner?, Ring.ownerAt?, buckets, found]⟩

theorem owner_of_unchanged (unchanged : (later.changesSince earlier).isEmpty) (grain : Grain) :
    (ofSnapshot hash buckets later).owner? hash grain =
      (ofSnapshot hash buckets earlier).owner? hash grain := by
  simp only [ofSnapshot, owner?, Snapshot.activeSilos_of_unchanged unchanged]

end Membership
end ActorDirectory
