import ActorDirectory.Proofs.Membership.Ownership

-- Which silo owns a grain: the one of the first bucket clockwise. Only which silos there are
-- makes a difference, not in which order or how often they are listed.
namespace ActorDirectory

namespace Bucket

theorem precedes_iff {a b : Bucket} : a.precedes b = true ↔
    a.point < b.point ∨ a.point = b.point ∧ a.silo.rank ≤ b.silo.rank := by
  simp [precedes]

theorem precedes_total (a b : Bucket) : a.precedes b ∨ b.precedes a := by
  simp only [precedes_iff, UInt64.lt_iff_toNat_lt, ← UInt64.toNat_inj]
  omega

theorem precedes_trans (a b c : Bucket) (one : a.precedes b) (two : b.precedes c) :
    a.precedes c := by
  simp only [precedes_iff, UInt64.lt_iff_toNat_lt, ← UInt64.toNat_inj] at one two ⊢
  omega

theorem precedes_antisymm {a b : Bucket} (one : a.precedes b) (two : b.precedes a) : a = b := by
  simp only [precedes_iff, UInt64.lt_iff_toNat_lt, ← UInt64.toNat_inj] at one two
  have point : a.point = b.point := UInt64.toNat_inj.mp (by omega)
  have silo : a.silo = b.silo := Silo.rank_injective (by omega)
  cases a
  cases b
  cases point
  cases silo
  rfl

end Bucket

namespace Ring

variable {buckets others : List Bucket} {point : UInt64} {bucket other : Bucket}

def Least (among : Bucket → Prop) (bucket : Bucket) : Prop :=
  among bucket ∧ ∀ other, among other → bucket.precedes other = true

def Clockwise (buckets : List Bucket) (point : UInt64) (bucket : Bucket) : Prop :=
  Least (fun other => other ∈ buckets ∧ point ≤ other.point) bucket ∨
    (∀ other ∈ buckets, other.point < point) ∧ Least (· ∈ buckets) bucket

theorem least_unique {among : Bucket → Prop} (one : Least among bucket) (two : Least among other) :
    bucket = other :=
  Bucket.precedes_antisymm (one.2 other two.1) (two.2 bucket one.1)

theorem clockwise_unique (one : Clockwise buckets point bucket)
    (two : Clockwise buckets point other) : bucket = other := by
  rcases one with ahead | ⟨behind, least⟩
  · rcases two with otherAhead | ⟨othersBehind, _⟩
    · exact least_unique ahead otherAhead
    · exact absurd ahead.1.2 (UInt64.not_le.mpr (othersBehind bucket ahead.1.1))
  · rcases two with otherAhead | ⟨_, otherLeast⟩
    · exact absurd otherAhead.1.2 (UInt64.not_le.mpr (behind other otherAhead.1.1))
    · exact least_unique least otherLeast

-- The place of a point in a ring: the buckets before it are those that lie before the point.
structure Splits (buckets : List Bucket) (point : UInt64) (index : Nat) : Prop where
  within : index ≤ buckets.length
  before : ∀ bucket ∈ buckets.take index, bucket.point < point
  after : ∀ bucket ∈ buckets.drop index, point ≤ bucket.point

theorem exists_splits (sorted : buckets.Pairwise (·.precedes ·)) (point : UInt64) :
    ∃ index, Splits buckets point index := by
  induction buckets with
  | nil => exact ⟨0, Nat.le_refl _, nofun, nofun⟩
  | cons first rest ih =>
    obtain ⟨least, sorted⟩ := List.pairwise_cons.mp sorted
    by_cases ahead : point ≤ first.point
    · refine ⟨0, Nat.zero_le _, nofun, ?_⟩
      intro bucket present
      rcases List.mem_cons.mp present with rfl | later
      · exact ahead
      · have follows := Bucket.precedes_iff.mp (least bucket later)
        simp only [UInt64.lt_iff_toNat_lt, UInt64.le_iff_toNat_le, ← UInt64.toNat_inj]
          at follows ahead ⊢
        omega
    · obtain ⟨index, within, before, after⟩ := ih sorted
      refine ⟨index + 1, Nat.succ_le_succ within, ?_, after⟩
      intro bucket present
      rcases List.mem_cons.mp present with rfl | later
      · exact UInt64.not_le.mp ahead
      · exact before bucket later

def turned? (buckets : List Bucket) (index : Nat) : Option Bucket :=
  buckets[index % buckets.length]?

theorem turned_clockwise (sorted : buckets.Pairwise (·.precedes ·)) {index : Nat}
    (splits : Splits buckets point index) (found : turned? buckets index = some bucket) :
    Clockwise buckets point bucket := by
  rcases Nat.lt_or_eq_of_le splits.within with inside | past
  · -- The bucket stands at the place itself, and all at or after the point stand behind it.
    rw [turned?, Nat.mod_eq_of_lt inside] at found
    have rest : buckets.drop index = bucket :: buckets.drop (index + 1) := by
      obtain ⟨_, same⟩ := List.getElem?_eq_some_iff.mp found
      rw [List.drop_eq_getElem_cons inside, same]
    have place := List.take_append_drop index buckets
    have first : bucket ∈ buckets.drop index := rest ▸ List.mem_cons_self ..
    refine .inl ⟨⟨List.mem_of_mem_drop first, splits.after bucket first⟩, ?_⟩
    rintro other ⟨present, ahead⟩
    rw [← place] at present sorted
    rw [rest] at present sorted
    obtain ⟨_, sorted, _⟩ := List.pairwise_append.mp sorted
    rcases List.mem_append.mp present with early | late
    · exact absurd ahead (UInt64.not_le.mpr (splits.before other early))
    · rcases List.mem_cons.mp late with rfl | later
      · exact Bucket.precedes_iff.mpr (.inr ⟨rfl, Nat.le_refl _⟩)
      · exact (List.pairwise_cons.mp sorted).1 other later
  · -- All buckets lie before the point, so that the count starts again.
    rw [turned?, past, Nat.mod_self] at found
    refine .inr ⟨?_, List.mem_of_getElem? found, ?_⟩
    · intro other present
      exact splits.before other (by rwa [past, List.take_length])
    · intro other present
      cases buckets with
      | nil => cases present
      | cons first rest =>
        obtain rfl : first = bucket := Option.some.inj found
        rcases List.mem_cons.mp present with rfl | later
        · exact Bucket.precedes_iff.mpr (.inr ⟨rfl, Nat.le_refl _⟩)
        · exact (List.pairwise_cons.mp sorted).1 other later

theorem splits_find {index : Nat} (splits : Splits buckets point index) :
    (buckets.find? (point ≤ ·.point) <|> buckets.head?) = turned? buckets index := by
  have early : (buckets.take index).find? (point ≤ ·.point) = none := by
    refine List.find?_eq_none.mpr ?_
    intro bucket present
    simpa using splits.before bucket present
  have found : buckets.find? (point ≤ ·.point) = (buckets.drop index).head? := by
    conv => lhs; rw [← List.take_append_drop index buckets]
    rw [List.find?_append, early, Option.none_or]
    have after := splits.after
    cases ahead : buckets.drop index with
    | nil => rfl
    | cons first rest =>
      rw [ahead] at after
      simp [after first (List.mem_cons_self ..)]
  rw [found, List.head?_drop, turned?]
  rcases Nat.lt_or_eq_of_le splits.within with inside | past
  · rw [Nat.mod_eq_of_lt inside, List.getElem?_eq_getElem inside]
    rfl
  · rw [past, Nat.mod_self, List.getElem?_eq_none (Nat.le_refl _), List.head?_eq_getElem?]
    rfl

theorem build_sorted (hash : String → UInt64) (perSilo : Nat) (silos : List Silo) :
    (build hash perSilo silos).buckets.Pairwise (·.precedes ·) :=
  Order.sort_pairwise Bucket.precedes_total Bucket.precedes_trans _

theorem clockwise_congr (same : ∀ bucket, bucket ∈ buckets ↔ bucket ∈ others) :
    Clockwise buckets point bucket ↔ Clockwise others point bucket := by
  simp only [Clockwise, Least, same]

variable {hash : String → UInt64} {perSilo : Nat} {silos listed : List Silo} {grain : Grain}

theorem owner_turned {index : Nat}
    (splits : Splits (build hash perSilo silos).buckets (hash grain.toText) index) :
    owner? hash (build hash perSilo silos) grain =
      (turned? (build hash perSilo silos).buckets index).map Bucket.silo := by
  unfold owner? ownerAt?
  rw [splits_find splits]

theorem mem_bucketsOf : bucket ∈ bucketsOf hash perSilo silos ↔
    ∃ silo ∈ silos, ∃ number < perSilo, Bucket.numbered hash silo number = bucket :=
  Order.mem_sort.symm.trans mem_build

theorem clockwise_mem (clockwise : Clockwise buckets point bucket) : bucket ∈ buckets :=
  clockwise.elim (fun ahead => ahead.1.1) (fun behind => behind.2.1)

theorem turned_found (someone : bucket ∈ buckets) (index : Nat) :
    ∃ found, turned? buckets index = some found := by
  have inside := Nat.mod_lt index (List.length_pos_of_mem someone)
  exact ⟨_, List.getElem?_eq_getElem inside⟩

theorem owner_clockwise {owner : Silo} :
    owner? hash (build hash perSilo silos) grain = some owner ↔
      ∃ bucket, Clockwise (bucketsOf hash perSilo silos) (hash grain.toText) bucket ∧
        bucket.silo = owner := by
  have sorted := build_sorted hash perSilo silos
  have same : ∀ bucket, bucket ∈ (build hash perSilo silos).buckets ↔
      bucket ∈ bucketsOf hash perSilo silos := fun _ => Order.mem_sort
  obtain ⟨index, splits⟩ := exists_splits sorted (hash grain.toText)
  rw [owner_turned splits, Option.map_eq_some_iff]
  constructor
  · rintro ⟨bucket, found, named⟩
    exact ⟨bucket, (clockwise_congr same).mp (turned_clockwise sorted splits found), named⟩
  · rintro ⟨bucket, clockwise, named⟩
    have clockwise := (clockwise_congr same).mpr clockwise
    obtain ⟨other, found⟩ := turned_found (clockwise_mem clockwise) index
    have equal := clockwise_unique clockwise (turned_clockwise sorted splits found)
    exact ⟨bucket, equal ▸ found, named⟩

theorem owner_none : owner? hash (build hash perSilo silos) grain = none ↔
    silos = [] ∨ perSilo = 0 := by
  constructor
  · intro nobody
    refine (Nat.eq_zero_or_pos perSilo).elim .inr fun positive => .inl ?_
    cases silos with
    | nil => rfl
    | cons silo rest =>
      obtain ⟨owner, owned⟩ : ∃ owner, owner? hash (build hash perSilo (silo :: rest)) grain =
        some owner := owner_exists positive (List.cons_ne_nil silo rest)
      cases nobody.symm.trans owned
  · intro empty
    refine Option.eq_none_iff_forall_ne_some.mpr ?_
    intro owner owned
    obtain ⟨bucket, clockwise, _⟩ := owner_clockwise.mp owned
    obtain ⟨silo, present, number, small, _⟩ := mem_bucketsOf.mp (clockwise_mem clockwise)
    rcases empty with rfl | rfl
    · cases present
    · cases small

theorem owner_same_set (same : ∀ silo, silo ∈ listed ↔ silo ∈ silos) (grain : Grain) :
    owner? hash (build hash perSilo listed) grain =
      owner? hash (build hash perSilo silos) grain := by
  have buckets : ∀ bucket, bucket ∈ bucketsOf hash perSilo listed ↔
      bucket ∈ bucketsOf hash perSilo silos := by
    intro bucket
    simp only [mem_bucketsOf, same]
  apply Option.ext
  intro owner
  simp only [owner_clockwise, clockwise_congr buckets]

-- However the hash scatters or merges the buckets. An index of the ring that splits it at the
-- grain's point leads to the same bucket, so that it does not matter how the place is found.
theorem first_bucket_owns (hash : String → UInt64) (perSilo : Nat) (silos : List Silo)
    (grain : Grain) :
    (owner? hash (build hash perSilo silos) grain = none ↔ silos = [] ∨ perSilo = 0) ∧
    (∀ owner, owner? hash (build hash perSilo silos) grain = some owner ↔
      ∃ bucket, Clockwise (bucketsOf hash perSilo silos) (hash grain.toText) bucket ∧
        bucket.silo = owner) ∧
    (∃ index, Splits (build hash perSilo silos).buckets (hash grain.toText) index ∧
      owner? hash (build hash perSilo silos) grain =
        (turned? (build hash perSilo silos).buckets index).map Bucket.silo) ∧
    (∀ listed, (∀ silo, silo ∈ listed ↔ silo ∈ silos) →
      owner? hash (build hash perSilo listed) grain =
        owner? hash (build hash perSilo silos) grain) ∧
    ∀ one other : Snapshot, (∀ silo, one.isActive silo = other.isActive silo) →
      (Membership.ofSnapshot hash perSilo one).owner? hash grain =
        (Membership.ofSnapshot hash perSilo other).owner? hash grain := by
  refine ⟨owner_none, fun owner => owner_clockwise, ?_, ?_, ?_⟩
  · obtain ⟨index, splits⟩ := exists_splits (build_sorted hash perSilo silos) (hash grain.toText)
    exact ⟨index, splits, owner_turned splits⟩
  · intro listed same
    exact owner_same_set same grain
  · intro one other same
    apply owner_same_set
    intro silo
    rw [Snapshot.mem_activeSilos, Snapshot.mem_activeSilos, same]

example : owner? (fun _ => 0) (build (fun _ => 0) 2
    [⟨.v4 ⟨10, 0, 0, 2⟩, 100, 1⟩, ⟨.v4 ⟨10, 0, 0, 1⟩, 100, 1⟩]) ⟨"user", "1"⟩ =
      some ⟨.v4 ⟨10, 0, 0, 1⟩, 100, 1⟩ := by decide

end Ring
end ActorDirectory
