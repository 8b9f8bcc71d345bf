import ActorDirectory.Proofs.Partition.Tags

-- What every entry of a partition is at every moment: of someone, of nobody twice, of one if it
-- is to be alone, and under a tag that no other entry has.
namespace ActorDirectory

namespace Version

theorem tag_number {n : Nat} (small : n < UInt64.size - 1) :
    (Partition.tag n).number.toNat = n + 1 :=
  UInt64.toNat_ofNat_of_lt' (Nat.add_lt_of_lt_sub small)

end Version

namespace Roster

variable {known : Option Roster} {roster kept : Roster} {stays : Instance → Bool}

theorem enrol_distinct (distinct : ∀ roster ∈ known, roster.instances.Nodup) (inst : Instance)
    (single : Bool) : (enrol known inst single).instances.Nodup := by
  cases known with
  | none => simp [enrol]
  | some roster =>
    have before := distinct roster rfl
    unfold enrol
    dsimp only
    split
    · exact before
    · split
      · exact before
      · rename_i new
        refine List.nodup_append.mpr ⟨before, by simp, ?_⟩
        intro other present last same
        rw [List.mem_singleton] at same
        intro equal
        exact new (same ▸ equal ▸ present)

theorem keep_distinct (distinct : roster.instances.Nodup) (left : roster.keep stays = some kept) :
    kept.instances.Nodup := by
  obtain ⟨_, rfl⟩ := keep_eq_some.mp left
  exact distinct.filter stays

end Roster

namespace Partition

variable {partition before after one other : Partition} {grain : Grain} {holding : Holding}

-- A table promises no order: the same partition, gone through in another one.
structure Reordered (one other : Partition) : Prop where
  held : one.held.pairs.Perm other.held.pairs
  drawn : one.drawn = other.drawn

inductive Leads (before : Partition) : Partition → Prop where
  | start : Leads before before
  | operated {after : Partition} (operation : Operation) :
      Leads before after → Leads before (after.operate operation)
  | registeredAll {after : Partition} (entries : List Entry) :
      Leads before after → Leads before (after.registerEntries entries).2
  | unregisteredAll {after : Partition} (entries : List Entry) :
      Leads before after → Leads before (after.unregisterEntries entries).2
  | reordered {after other : Partition} :
      Leads before after → after.Reordered other → Leads before other

theorem each_run {α β : Type} {step : Partition → α → β × Partition} (operation : α → Operation)
    (does : ∀ partition item, (step partition item).2 = partition.operate (operation item))
    (partition : Partition) (items : List α) :
    (each step partition items).2 = partition.run (items.map operation) := by
  induction items generalizing partition with
  | nil => rfl
  | cons item rest ih =>
    rw [List.map_cons, run_cons, ← does]
    exact ih _

theorem run_leads (operations : List Operation) (leads : before.Leads after) :
    before.Leads (after.run operations) := by
  induction operations generalizing after with
  | nil => exact leads
  | cons operation rest ih => exact ih (.operated operation leads)

theorem leads_induction (good : Partition → Prop) (starts : good before)
    (operates : ∀ {partition : Partition} (operation : Operation), good partition →
      good (partition.operate operation))
    (reorders : ∀ {one other : Partition}, one.Reordered other → good one → good other)
    (leads : before.Leads after) : good after := by
  have runs : ∀ (operations : List Operation) {partition : Partition}, good partition →
      good (partition.run operations) := by
    intro operations
    induction operations with
    | nil => exact id
    | cons operation rest ih => exact fun sound => ih (operates operation sound)
  induction leads with
  | start => exact starts
  | operated operation _ ih => exact operates operation ih
  | registeredAll entries _ ih =>
    unfold registerEntries
    rw [each_run .registerEntry (fun _ _ => rfl)]
    exact runs _ ih
  | unregisteredAll entries _ ih =>
    unfold unregisterEntries
    rw [each_run .unregisterEntry (fun _ _ => rfl)]
    exact runs _ ih
  | reordered _ order ih => exact reorders order ih

theorem leads_drawn (leads : before.Leads after) : before.drawn ≤ after.drawn := by
  refine leads_induction (before.drawn ≤ ·.drawn) (Nat.le_refl _) ?_ ?_ leads
  · intro partition operation least
    exact Nat.le_trans least (operate_advances partition operation).drawn
  · intro one other order least
    exact order.drawn ▸ least

def Draws (before after : Partition) : Prop :=
  ∀ grain other holding second, grain ≠ other →
    after.held.get? grain = some holding → after.held.get? other = some second →
    before.held.get? grain = some holding ∨ before.held.get? other = some second ∨
      ∃ m n, m ≠ n ∧ m < after.drawn ∧ n < after.drawn ∧
        holding.version = tag m ∧ second.version = tag n

theorem draws_one {only : Grain} (frame : ∀ grain, grain ≠ only →
    after.held.get? grain = before.held.get? grain) : before.Draws after := by
  intro grain other holding second apart here there
  by_cases same : grain = only
  · have elsewhere : other ≠ only := fun equal => apart (same.trans equal.symm)
    exact .inr (.inl ((frame other elsewhere).symm.trans there))
  · exact .inl ((frame grain same).symm.trans here)

theorem draws_refl (partition : Partition) : partition.Draws partition := by
  intro grain other holding second _ here _
  exact .inl here

theorem retain_draws (partition : Partition) (keep : Grain → Silo → Bool) :
    partition.Draws (partition.retain keep).2 := by
  intro grain other holding second apart here there
  obtain ⟨first, next, visits, revisits, order⟩ := Keyed.exists_visits_both
    (retainHolding_drawn keep) apart partition.held.distinct (partition.drawn, 0)
  obtain ⟨old, known, left⟩ := Option.bind_eq_some_iff.mp (visits.found.symm.trans here)
  obtain ⟨former, otherKnown, otherLeft⟩ :=
    Option.bind_eq_some_iff.mp (revisits.found.symm.trans there)
  rcases retainHolding_left left with ⟨rfl, _⟩ | ⟨_, rfl, drawn⟩
  · exact .inl known
  · rcases retainHolding_left otherLeft with ⟨rfl, _⟩ | ⟨_, rfl, otherDrawn⟩
    · exact .inr (.inl otherKnown)
    · have bound := visits.before old known
      have otherBound := revisits.before former otherKnown
      rw [drawn] at bound
      rw [otherDrawn] at otherBound
      refine .inr (.inr ⟨first.1, next.1, ?_, bound, otherBound, rfl, rfl⟩)
      rcases order with sooner | later
      · have sooner := sooner old known
        rw [drawn] at sooner
        exact Nat.ne_of_lt sooner
      · have later := later former otherKnown
        rw [otherDrawn] at later
        exact Nat.ne_of_gt later

theorem operate_draws (partition : Partition) (operation : Operation) :
    partition.Draws (partition.operate operation) := by
  have registers : ∀ address single, partition.Draws (partition.register address single).2 :=
    fun address single => draws_one fun _ => register_other partition address single
  have withdraws : ∀ address expected,
      partition.Draws (partition.withdrawAt address expected) := by
    intro address expected
    rcases withdrawAt_cases partition address expected with same | same
    · rw [same]
      exact draws_refl partition
    · rw [same]
      exact draws_one fun _ => unregister_other partition address
  cases operation with
  | register address single => exact registers address single
  | unregister address => exact draws_one fun _ => unregister_other partition address
  | unregisterAt address expected => exact withdraws address expected
  | unregisterSilos silos => exact retain_draws partition _
  | retain keep => exact retain_draws partition keep
  | clear =>
    intro grain other holding second _ here _
    cases here
  | registerEntry entry =>
    rw [operate, registerEntry_left]
    split
    · exact draws_refl partition
    · exact registers _ true
  | unregisterEntry entry =>
    rw [operate, unregisterEntry_left]
    split
    · exact draws_refl partition
    · exact withdraws _ _

def Apart (partition : Partition) : Prop :=
  ∀ grain other holding second, partition.held.get? grain = some holding →
    partition.held.get? other = some second → holding.version = second.version → grain = other

-- An entry that was there before has a tag of before, which no entry gets again.
theorem kept_apart (advances : before.Advances after) (few : after.drawn < UInt64.size)
    (tagged : before.TaggedFrom 0 grain) (apart : before.Apart) {other : Grain} {second : Holding}
    (kept : before.held.get? grain = some holding) (there : after.held.get? other = some second)
    (same : holding.version = second.version) : grain = other := by
  cases advances.each other with
  | kept steady => exact apart grain other holding second kept (steady.symm.trans there) same
  | gone _ absent =>
    rw [absent] at there
    cases there
  | renewed fresh number present _ version since drawn =>
    rw [present] at there
    cases there
    obtain ⟨early, _, bound, tag⟩ := tagged holding kept
    have equal := Version.tag_injective (by omega) (by omega) (tag.symm.trans (same.trans version))
    omega

theorem draws_apart (advances : before.Advances after) (draws : before.Draws after)
    (few : after.drawn < UInt64.size) (tagged : ∀ grain, before.TaggedFrom 0 grain)
    (apart : before.Apart) : after.Apart := by
  intro grain other holding second here there same
  apply Classical.byContradiction
  intro different
  rcases draws grain other holding second different here there with
    kept | kept | ⟨m, n, distinct, drawn, _, version, otherVersion⟩
  · exact different (kept_apart advances few (tagged grain) apart kept there same)
  · exact different (kept_apart advances few (tagged other) apart kept here same.symm).symm
  · apply distinct
    exact Version.tag_injective (by omega) (by omega)
      (version.symm.trans (same.trans otherVersion))

structure Sound (partition : Partition) : Prop where
  proper : partition.Proper
  distinct : ∀ grain roster, partition.roster? grain = some roster → roster.instances.Nodup
  tagged : ∀ grain, partition.TaggedFrom 0 grain
  apart : partition.drawn < UInt64.size → partition.Apart

theorem empty_sound : empty.Sound :=
  ⟨proper_empty, nofun, empty_tagged, fun _ => nofun⟩

theorem operate_sound (sound : partition.Sound) (operation : Operation) :
    (partition.operate operation).Sound := by
  have advances := operate_advances partition operation
  refine ⟨operate_proper sound.proper operation, ?_, ?_, ?_⟩
  · intro grain
    exact Roster.reshapes_good (·.instances.Nodup) (fun _ => Roster.enrol_distinct)
      Roster.keep_distinct (operate_reshapes partition operation grain) (sound.distinct grain)
  · intro grain
    exact advances_tagged advances (Nat.zero_le _) (sound.tagged grain)
  · intro few
    exact draws_apart advances (operate_draws partition operation) few sound.tagged
      (sound.apart (Nat.lt_of_le_of_lt advances.drawn few))

theorem reordered_held (order : one.Reordered other) (grain : Grain) :
    other.held.get? grain = one.held.get? grain :=
  (Keyed.get?_perm order.held grain).symm

theorem reordered_roster (order : one.Reordered other) (grain : Grain) :
    other.roster? grain = one.roster? grain := by
  rw [roster?, roster?, reordered_held order]

theorem reordered_sound (order : one.Reordered other) (sound : one.Sound) : other.Sound := by
  refine ⟨?_, ?_, ?_, ?_⟩
  · intro grain
    rw [reordered_roster order]
    exact sound.proper grain
  · intro grain
    rw [reordered_roster order]
    exact sound.distinct grain
  · intro grain
    unfold TaggedFrom
    rw [reordered_held order, ← order.drawn]
    exact sound.tagged grain
  · intro few grain next
    rw [reordered_held order, reordered_held order]
    exact sound.apart (order.drawn ▸ few) grain next

theorem leads_sound (leads : empty.Leads partition) : partition.Sound :=
  leads_induction Sound empty_sound (fun operation sound => operate_sound sound operation)
    reordered_sound leads

structure WellFormed (partition : Partition) : Prop where
  someone : ∀ grain holding, partition.held.get? grain = some holding → holding.instances ≠ []
  once : ∀ grain holding, partition.held.get? grain = some holding → holding.instances.Nodup
  alone : ∀ grain holding, partition.held.get? grain = some holding → holding.single = true →
    holding.instances.length = 1
  tagged : ∀ grain holding, partition.held.get? grain = some holding →
    0 < holding.version.number.toNat ∧ holding.version.number.toNat ≤ partition.drawn
  apart : partition.Apart

theorem sound_wellFormed (sound : partition.Sound) (few : partition.drawn < UInt64.size) :
    partition.WellFormed := by
  refine ⟨?_, ?_, ?_, ?_, sound.apart few⟩
  · intro grain holding found
    exact (sound.proper grain _ (roster?_held found)).1
  · intro grain holding found
    exact sound.distinct grain _ (roster?_held found)
  · intro grain holding found
    exact (sound.proper grain _ (roster?_held found)).2
  · intro grain holding found
    obtain ⟨number, _, drawn, version⟩ := sound.tagged grain holding found
    rw [version, Version.tag_number (by omega)]
    omega

theorem lookup_isSome (proper : partition.Proper) (grain : Grain) :
    (partition.lookup grain).isSome ↔ grain ∈ partition.held.keys := by
  rw [← Keyed.get?_isSome]
  cases found : partition.held.get? grain with
  | none => simp [lookup, found]
  | some holding => simp [lookup_held found (proper grain _ (roster?_held found)).1]

theorem lookupEntry_isSome (proper : partition.Proper) (text : String) :
    (∃ entry, partition.lookupEntry text = .ok (some entry)) ↔
      ∃ grain ∈ partition.held.keys, Grain.parse? text = some grain := by
  constructor
  · rintro ⟨entry, found⟩
    obtain ⟨grain, _, holding, read, here, _⟩ := lookupEntry_stored found
    exact ⟨grain, Keyed.get?_isSome.mp (by rw [here]; rfl), read⟩
  · rintro ⟨grain, present, read⟩
    obtain ⟨holding, here⟩ := Option.isSome_iff_exists.mp (Keyed.get?_isSome.mpr present)
    have someone : holding.instances ≠ [] := (proper grain _ (roster?_held here)).1
    obtain ⟨first, rest, listed⟩ := List.exists_cons_of_ne_nil someone
    refine ⟨.ofAddress (first.address grain) holding.version, ?_⟩
    simp [lookupEntry, Grain.parse, read, lookup_held here someone, Holding.found,
      Found.primary?, listed]

-- Whatever is done to a partition, as long as no tag has to be drawn twice. The grains that it
-- counts are those that are found, and tags are counted on even by emptying it.
theorem well_formed_throughout (leads : empty.Leads partition)
    (few : partition.drawn < UInt64.size) :
    partition.WellFormed ∧
    (∀ after, partition.Leads after → partition.drawn ≤ after.drawn) ∧
    (∃ grains : List Grain, grains.Nodup ∧ grains.length = partition.size ∧
      (∀ grain, (partition.lookup grain).isSome ↔ grain ∈ grains) ∧
      ∀ text, (∃ entry, partition.lookupEntry text = .ok (some entry)) ↔
        ∃ grain ∈ grains, Grain.parse? text = some grain) ∧
    ∀ grain found, partition.lookup grain = some found → found.addresses ≠ [] := by
  have sound := leads_sound leads
  refine ⟨sound_wellFormed sound few, fun after => leads_drawn, ?_, ?_⟩
  · refine ⟨partition.held.keys, partition.held.distinct, List.length_map .., ?_, ?_⟩
    · exact lookup_isSome sound.proper
    · exact lookupEntry_isSome sound.proper
  · intro grain found looked
    obtain ⟨holding, here, rfl⟩ := lookup_eq_some looked
    have someone := (sound_wellFormed sound few).someone grain holding here
    simpa [Holding.found] using someone

end Partition

namespace Solo
open ActorDirectory.Partition

def neighbour : Address := ⟨⟨"user", "2"⟩, ⟨.v4 ⟨10, 0, 0, 1⟩, 100, 1⟩, .ofNat 11⟩

def reopening : List Operation :=
  [.register address false, .clear, .register address true, .register neighbour true,
    .unregisterSilos [], .unregister neighbour]

theorem reopened_well_formed : (empty.run reopening).drawn = 3 ∧
    (empty.run reopening).held.get? address.grain = some ⟨[address.toInstance], true, ⟨2⟩⟩ ∧
    (empty.run reopening).WellFormed := by
  refine ⟨by decide +kernel, by decide +kernel, ?_⟩
  exact (well_formed_throughout (run_leads reopening .start) (by decide +kernel)).1

end Solo
end ActorDirectory
