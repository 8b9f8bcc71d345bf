import ActorDirectory.Proofs.Membership.Clockwise

-- How ownership moves while silos come and go: to those that come, and from those that go.
namespace ActorDirectory

namespace Ring

variable {buckets others : List Bucket} {point : UInt64} {bucket : Bucket}

theorem least_fewer {among fewer : Bucket → Prop} (included : ∀ other, fewer other → among other)
    (present : fewer bucket) (least : Least among bucket) : Least fewer bucket := by
  refine ⟨present, ?_⟩
  intro other listed
  exact least.2 other (included other listed)

theorem clockwise_fewer (included : ∀ other ∈ others, other ∈ buckets) (present : bucket ∈ others)
    (clockwise : Clockwise buckets point bucket) : Clockwise others point bucket := by
  cases clockwise with
  | inl ahead =>
    apply Or.inl
    refine least_fewer ?_ ⟨present, ahead.1.2⟩ ahead
    intro other listed
    exact ⟨included other listed.1, listed.2⟩
  | inr past =>
    apply Or.inr
    refine ⟨?_, least_fewer included present past.2⟩
    intro other listed
    exact past.1 other (included other listed)

variable {hash : String → UInt64} {perSilo : Nat} {silos left joined before after : List Silo}
  {silo owner : Silo} {grain : Grain}

theorem owner_fewer (included : ∀ other ∈ left, other ∈ silos) (stays : owner ∈ left)
    (owned : owner? hash (build hash perSilo silos) grain = some owner) :
    owner? hash (build hash perSilo left) grain = some owner := by
  obtain ⟨bucket, clockwise, named⟩ := owner_clockwise.mp owned
  apply owner_clockwise.mpr
  refine ⟨bucket, clockwise_fewer ?_ ?_ clockwise, named⟩
  · intro other listed
    obtain ⟨host, present, numbered⟩ := mem_bucketsOf.mp listed
    exact mem_bucketsOf.mpr ⟨host, included host present, numbered⟩
  · obtain ⟨host, _, number, small, same⟩ := mem_bucketsOf.mp (clockwise_mem clockwise)
    have named : host = owner := (congrArg Bucket.silo same).trans named
    exact mem_bucketsOf.mpr ⟨owner, stays, number, small, named ▸ same⟩

-- Both owners keep the grain among the silos that are there before and after, and it has one
-- owner among those.
theorem owner_steady {next : Silo} (stays : owner ∈ after) (was : next ∈ before)
    (owned : owner? hash (build hash perSilo before) grain = some owner)
    (owns : owner? hash (build hash perSilo after) grain = some next) : owner = next := by
  have shared : ∀ {other}, other ∈ before.filter (· ∈ after) ↔ other ∈ before ∧ other ∈ after := by
    intro other
    rw [List.mem_filter, decide_eq_true_iff]
  have first : owner? hash (build hash perSilo (before.filter (· ∈ after))) grain = some owner :=
    owner_fewer (fun _ listed => (shared.mp listed).1)
      (shared.mpr ⟨owner_listed owned, stays⟩) owned
  have second : owner? hash (build hash perSilo (before.filter (· ∈ after))) grain = some next :=
    owner_fewer (fun _ listed => (shared.mp listed).2) (shared.mpr ⟨was, owner_listed owns⟩) owns
  exact Option.some.inj (first.symm.trans second)

theorem owner_moved (differs : owner? hash (build hash perSilo before) grain ≠
      owner? hash (build hash perSilo after) grain) :
    (∃ silo ∈ before, silo ∉ after ∧
      owner? hash (build hash perSilo before) grain = some silo) ∨
    ∃ silo ∈ after, silo ∉ before ∧
      owner? hash (build hash perSilo after) grain = some silo := by
  cases owned : owner? hash (build hash perSilo before) grain with
  | none =>
    cases owns : owner? hash (build hash perSilo after) grain with
    | none => exact absurd (owned.trans owns.symm) differs
    | some next =>
      apply Or.inr
      refine ⟨next, owner_listed owns, ?_, rfl⟩
      intro was
      -- A silo that owns something has buckets, with which it would have been on the ring before.
      rcases owner_none.mp owned with rfl | rfl
      · cases was
      · cases (owner_none.mpr (.inr rfl)).symm.trans owns
  | some owner =>
    by_cases stays : owner ∈ after
    · cases owns : owner? hash (build hash perSilo after) grain with
      | none =>
        rcases owner_none.mp owns with rfl | rfl
        · cases stays
        · cases (owner_none.mpr (.inr rfl)).symm.trans owned
      | some next =>
        apply Or.inr
        refine ⟨next, owner_listed owns, ?_, rfl⟩
        intro was
        apply differs
        rw [owned, owns, owner_steady stays was owned owns]
    · exact .inl ⟨owner, owner_listed owned, stays, rfl⟩

theorem owner_joined (joins : ∀ other, other ∈ joined ↔ other = silo ∨ other ∈ silos)
    (differs : owner? hash (build hash perSilo silos) grain ≠
      owner? hash (build hash perSilo joined) grain) :
    owner? hash (build hash perSilo joined) grain = some silo := by
  rcases owner_moved differs with ⟨gone, listed, missing, _⟩ | ⟨came, listed, new, owns⟩
  · exact absurd ((joins gone).mpr (.inr listed)) missing
  · rw [owns, ((joins came).mp listed).resolve_right new]

-- Whatever the hash does, a silo that comes takes grains over and moves no other, and a silo that
-- goes gives up its own. So of a grain with another owner the old one went or the new one came.
theorem ownership_moves_minimally (hash : String → UInt64) (perSilo : Nat) (grain : Grain) :
    (∀ silos joined silo, silo ∉ silos →
      (∀ other, other ∈ joined ↔ other = silo ∨ other ∈ silos) →
        (owner? hash (build hash perSilo joined) grain = some silo ∨
          owner? hash (build hash perSilo joined) grain =
            owner? hash (build hash perSilo silos) grain) ∧
        (owner? hash (build hash perSilo silos) grain ≠
            owner? hash (build hash perSilo joined) grain ↔
          owner? hash (build hash perSilo joined) grain = some silo)) ∧
    (∀ before after, owner? hash (build hash perSilo before) grain ≠
        owner? hash (build hash perSilo after) grain →
      (∃ silo ∈ before, silo ∉ after ∧
        owner? hash (build hash perSilo before) grain = some silo) ∨
      ∃ silo ∈ after, silo ∉ before ∧
        owner? hash (build hash perSilo after) grain = some silo) ∧
    ∀ earlier later : Snapshot, (Membership.ofSnapshot hash perSilo earlier).owner? hash grain ≠
        (Membership.ofSnapshot hash perSilo later).owner? hash grain →
      (∃ silo ∈ (later.changesSince earlier).removed,
        (Membership.ofSnapshot hash perSilo earlier).owner? hash grain = some silo) ∨
      ∃ silo ∈ (later.changesSince earlier).added,
        (Membership.ofSnapshot hash perSilo later).owner? hash grain = some silo := by
  refine ⟨?_, fun before after => owner_moved, ?_⟩
  · intro silos joined silo new joins
    refine ⟨?_, owner_joined joins, ?_⟩
    · by_cases same : owner? hash (build hash perSilo silos) grain =
          owner? hash (build hash perSilo joined) grain
      · exact .inr same.symm
      · exact .inl (owner_joined joins same)
    · intro owned same
      exact new (owner_listed (same.trans owned))
  · intro earlier later differs
    have listed : ∀ snapshot : Snapshot, ∀ silo, silo ∉ snapshot.activeSilos →
        snapshot.isActive silo = false := by
      intro snapshot silo missing
      exact Bool.eq_false_iff.mpr (fun active => missing (Snapshot.mem_activeSilos.mpr active))
    rcases owner_moved differs with ⟨silo, present, missing, owned⟩ | ⟨silo, present, missing, owns⟩
    · refine .inl ⟨silo, List.mem_filter.mpr ⟨present, ?_⟩, owned⟩
      rw [listed later silo missing]
      rfl
    · refine .inr ⟨silo, List.mem_filter.mpr ⟨present, ?_⟩, owns⟩
      rw [listed earlier silo missing]
      rfl

example : owner? (fun _ => 0) (build (fun _ => 0) 1 [⟨.v4 ⟨10, 0, 0, 2⟩, 100, 1⟩]) ⟨"user", "1"⟩ =
      some ⟨.v4 ⟨10, 0, 0, 2⟩, 100, 1⟩ ∧
    owner? (fun _ => 0) (build (fun _ => 0) 1
      [⟨.v4 ⟨10, 0, 0, 2⟩, 100, 1⟩, ⟨.v4 ⟨10, 0, 0, 1⟩, 100, 1⟩]) ⟨"user", "1"⟩ =
      some ⟨.v4 ⟨10, 0, 0, 1⟩, 100, 1⟩ := by decide

end Ring
end ActorDirectory
