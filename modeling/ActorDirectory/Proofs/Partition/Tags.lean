import ActorDirectory.Proofs.Partition.Operations
import ActorDirectory.Proofs.Text.Identities

-- A tag that was seen is current for as long as the entry that carried it stays as it was, and
-- never again.
namespace ActorDirectory

namespace Version

theorem tag_injective {m n : Nat} (first : m + 1 < UInt64.size) (second : n + 1 < UInt64.size)
    (same : Partition.tag m = Partition.tag n) : m = n := by
  have numbers := congrArg (fun version : Version => version.number.toNat) same
  simp only [Partition.tag, UInt64.toNat_ofNat_of_lt' first,
    UInt64.toNat_ofNat_of_lt' second] at numbers
  exact Nat.succ.inj numbers

theorem tag_known {n : Nat} (small : n + 1 < UInt64.size) : Partition.tag n ≠ unknown := by
  intro same
  have numbers := congrArg (fun version : Version => version.number.toNat) same
  simp only [Partition.tag, unknown, UInt64.toNat_ofNat_of_lt' small] at numbers
  exact Nat.succ_ne_zero n numbers

end Version

namespace Roster

theorem strike_eq_keep {roster : Roster} (someone : roster.instances ≠ [])
    (activation : Activation) :
    roster.strike activation = roster.keep (·.activation ≠ activation) := by
  rw [strike]
  split
  · rename_i untouched
    have all := (List.filter_sublist (l := roster.instances)
      (p := (·.activation ≠ activation))).eq_of_length untouched
    exact (keep_eq_some.mpr ⟨all.symm ▸ someone, by rw [all]⟩).symm
  · rfl

end Roster

namespace Partition

variable {partition before after now : Partition} {grain : Grain} {address : Address}
  {holding : Holding} {version expected : Version} {operations : List Operation} {first : Nat}

def TaggedFrom (partition : Partition) (first : Nat) (grain : Grain) : Prop :=
  ∀ holding, partition.held.get? grain = some holding →
    ∃ number, first ≤ number ∧ number < partition.drawn ∧ holding.version = tag number

theorem empty_tagged (grain : Grain) : empty.TaggedFrom 0 grain := by
  intro holding found
  cases found

def Modified (partition : Partition) (grain : Grain) (operations : List Operation) : Prop :=
  ∃ earlier operation later, operations = earlier ++ operation :: later ∧
    ((partition.run earlier).operate operation).roster? grain ≠
      (partition.run earlier).roster? grain

theorem modified_cons {operation : Operation} {rest : List Operation} :
    partition.Modified grain (operation :: rest) ↔
      (partition.operate operation).roster? grain ≠ partition.roster? grain ∨
        (partition.operate operation).Modified grain rest := by
  constructor
  · rintro ⟨earlier, changing, later, whole, changed⟩
    cases earlier with
    | nil =>
      cases whole
      exact .inl changed
    | cons _ earlier =>
      cases whole
      exact .inr ⟨earlier, changing, later, rfl, changed⟩
  · rintro (changed | ⟨earlier, changing, later, rfl, changed⟩)
    · exact ⟨[], operation, rest, rfl, changed⟩
    · exact ⟨operation :: earlier, changing, later, rfl, changed⟩

theorem advances_tagged (advances : before.Advances after) (early : first ≤ before.drawn)
    (tagged : before.TaggedFrom first grain) : after.TaggedFrom first grain := by
  intro holding found
  cases advances.each grain with
  | kept same =>
    obtain ⟨number, since, drawn, version⟩ := tagged holding (same ▸ found)
    exact ⟨number, since, Nat.lt_of_lt_of_le drawn advances.drawn, version⟩
  | gone _ absent =>
    rw [absent] at found
    cases found
  | renewed fresh number present _ version since drawn =>
    rw [present] at found
    cases found
    exact ⟨number, Nat.le_trans early since, drawn, version⟩

-- An entry that changes is put under a tag just drawn.
theorem changed_tagged (advances : before.Advances after)
    (changed : after.roster? grain ≠ before.roster? grain) :
    after.TaggedFrom before.drawn grain := by
  intro holding found
  cases advances.each grain with
  | kept same => exact absurd (congrArg (Option.map Holding.roster) same) changed
  | gone _ absent =>
    rw [absent] at found
    cases found
  | renewed fresh number present _ version since drawn =>
    rw [present] at found
    cases found
    exact ⟨number, since, drawn, version⟩

theorem unchanged_kept (advances : before.Advances after)
    (unchanged : after.roster? grain = before.roster? grain) :
    after.held.get? grain = before.held.get? grain := by
  cases advances.each grain with
  | kept same => exact same
  | gone present absent =>
    simp only [roster?, absent, Option.map_none] at unchanged
    exact absurd (Option.map_eq_none_iff.mp unchanged.symm) present
  | renewed fresh number present other =>
    simp only [roster?, present, Option.map_some] at unchanged
    exact absurd unchanged.symm other

theorem run_drawn (partition : Partition) (operations : List Operation) :
    partition.drawn ≤ (partition.run operations).drawn := by
  induction operations generalizing partition with
  | nil => exact Nat.le_refl _
  | cons operation rest ih =>
    exact Nat.le_trans (operate_advances partition operation).drawn (ih _)

theorem run_tagged (early : first ≤ partition.drawn) (tagged : partition.TaggedFrom first grain)
    (operations : List Operation) : (partition.run operations).TaggedFrom first grain := by
  induction operations generalizing partition with
  | nil => exact tagged
  | cons operation rest ih =>
    have advances := operate_advances partition operation
    exact ih (Nat.le_trans early advances.drawn) (advances_tagged advances early tagged)

theorem modified_tagged (modified : partition.Modified grain operations) :
    (partition.run operations).TaggedFrom partition.drawn grain := by
  obtain ⟨earlier, operation, later, rfl, changed⟩ := modified
  have advances := operate_advances (partition.run earlier) operation
  have since := run_drawn partition earlier
  rw [run_append, run_cons]
  refine run_tagged (Nat.le_trans since advances.drawn) ?_ later
  intro holding found
  obtain ⟨number, late, drawn, version⟩ := changed_tagged advances changed holding found
  exact ⟨number, Nat.le_trans since late, drawn, version⟩

theorem unmodified_kept (unmodified : ¬partition.Modified grain operations) :
    (partition.run operations).held.get? grain = partition.held.get? grain := by
  induction operations generalizing partition with
  | nil => rfl
  | cons operation rest ih =>
    rw [modified_cons, not_or, Classical.not_not] at unmodified
    exact (ih unmodified.2).trans
      (unchanged_kept (operate_advances partition operation) unmodified.1)

-- A caller is told the tag of a grain, by registering it or looking it up.
inductive Tells (before : Partition) (grain : Grain) (version : Version) : Partition → Prop where
  | registered (address : Address) (single : Bool) : address.grain = grain →
      (before.register address single).1.version = version →
      Tells before grain version (before.register address single).2
  | registeredEntry (entry stored : Entry) :
      (before.registerEntry entry).1.authoritative? = some stored →
      Grain.parse? stored.grain = some grain → stored.version = version →
      Tells before grain version (before.registerEntry entry).2
  | found (answer : Found) : before.lookup grain = some answer → answer.version = version →
      Tells before grain version before
  | foundEntry (text : String) (stored : Entry) : before.lookupEntry text = .ok (some stored) →
      Grain.parse? stored.grain = some grain → stored.version = version →
      Tells before grain version before

theorem register_version (partition : Partition) (address : Address) (single : Bool) :
    ∃ holding, (partition.register address single).2.held.get? address.grain = some holding ∧
      holding.version = (partition.register address single).1.version := by
  cases found : partition.held.get? address.grain with
  | none =>
    rw [register_absent single found]
    exact ⟨_, (Keyed.get?_put ..).trans (if_pos rfl), rfl⟩
  | some holding =>
    rw [register_held single found]
    split
    · exact ⟨holding, found, rfl⟩
    · split
      · exact ⟨holding, found, rfl⟩
      · exact ⟨_, (Keyed.get?_put ..).trans (if_pos rfl), rfl⟩

theorem lookup_eq_some {answer : Found} (found : partition.lookup grain = some answer) :
    ∃ holding, partition.held.get? grain = some holding ∧ answer = holding.found grain := by
  obtain ⟨mapped, _⟩ := Option.filter_eq_some_iff.mp found
  obtain ⟨holding, here, same⟩ := Option.map_eq_some_iff.mp mapped
  exact ⟨holding, here, same.symm⟩

theorem registerEntry_stored {entry stored : Entry}
    (told : (partition.registerEntry entry).1.authoritative? = some stored) :
    ∃ address, entry.toAddress = .ok address ∧
      stored = .ofAddress (partition.register address true).1.address
        (partition.register address true).1.version := by
  cases read : entry.toAddress with
  | error fault => simp [registerEntry, read, Outcome.authoritative?] at told
  | ok address =>
    refine ⟨address, rfl, ?_⟩
    simp only [registerEntry, read] at told
    split at told
    · exact (Option.some.inj told).symm
    · exact (Option.some.inj told).symm

theorem lookupEntry_stored {text : String} {stored : Entry}
    (found : partition.lookupEntry text = .ok (some stored)) :
    ∃ named first holding, Grain.parse? text = some named ∧
      partition.held.get? named = some holding ∧
      stored = .ofAddress (Instance.address first named) holding.version := by
  cases read : Grain.parse? text with
  | none => simp [lookupEntry, Grain.parse, read] at found
  | some named =>
    simp only [lookupEntry, Grain.parse, read, Except.ok.injEq, Option.bind_eq_bind,
      Option.bind_eq_some_iff, Option.map_eq_map, Option.map_eq_some_iff] at found
    obtain ⟨answer, looked, primary, head, rfl⟩ := found
    obtain ⟨holding, here, rfl⟩ := lookup_eq_some looked
    rw [Found.primary?, Holding.found, List.head?_map, Option.map_eq_some_iff] at head
    obtain ⟨first, _, rfl⟩ := head
    exact ⟨named, first, holding, rfl, here, rfl⟩

theorem tells_holding (tells : before.Tells grain version after) :
    ∃ holding, after.held.get? grain = some holding ∧ holding.version = version := by
  -- What an entry names in its text is the grain that the text was read as.
  have same : ∀ {text : String} {named : Grain}, Grain.parse? text = some named →
      Grain.parse? named.toText = some grain → named = grain := by
    intro text named read again
    have proper := (Grain.parse_eq_some.mp read).1
    exact Option.some.inj ((Grain.parse_eq_some.mpr ⟨proper, rfl⟩).symm.trans again)
  cases tells with
  | registered address single same told =>
    subst same
    exact told ▸ register_version before address single
  | registeredEntry entry stored told named tagged =>
    obtain ⟨address, read, rfl⟩ := registerEntry_stored told
    rw [register_answer] at named
    have own := same (Entry.toAddress_grain read) named
    subst own
    rw [Entry.version_ofAddress] at tagged
    simp only [registerEntry_left, read]
    exact tagged ▸ register_version before address true
  | found answer found told =>
    obtain ⟨holding, here, rfl⟩ := lookup_eq_some found
    exact ⟨holding, here, told⟩
  | foundEntry text stored found named tagged =>
    obtain ⟨other, first, holding, read, here, rfl⟩ := lookupEntry_stored found
    have own := same read named
    subst own
    exact ⟨holding, here, (Entry.version_ofAddress _ _).symm.trans tagged⟩

theorem unregister_taken (found : partition.held.get? address.grain = some holding) :
    (partition.unregister address).1 = true ↔
      ∃ inst ∈ holding.instances, inst.activation = address.activation := by
  have struck : (partition.unregister address).1 = true ↔ ¬(holding.instances.filter
      (·.activation ≠ address.activation)).length = holding.instances.length := by
    simp only [unregister, unregisterAt, found, ne_eq, not_true_eq_false, false_and, ↓reduceIte]
    by_cases untouched : (holding.instances.filter
        (·.activation ≠ address.activation)).length = holding.instances.length
    · simp only [ne_eq] at untouched
      simp only [untouched, ↓reduceIte, not_true_eq_false, Bool.false_eq_true]
    · simp only [ne_eq] at untouched
      simp only [untouched, ↓reduceIte, not_false_eq_true, iff_true]
      cases (holding.instances.filter
        fun inst => decide ¬inst.activation = address.activation).isEmpty <;> rfl
  rw [struck, List.length_filter_eq_length_iff]
  simp

theorem unregister_exact (proper : partition.Proper) (address : Address) (grain : Grain) :
    (partition.unregister address).2.roster? grain =
      if grain = address.grain then
        (partition.roster? grain).bind (Roster.keep (·.activation ≠ address.activation))
      else partition.roster? grain := by
  rw [unregister_roster]
  split
  · cases found : partition.roster? grain with
    | none => rfl
    | some roster => exact Roster.strike_eq_keep (proper grain roster found).1 _
  · rfl

theorem tells_reached (tells : before.Tells grain version after) :
    after = before ∨ ∃ operation, after = before.operate operation := by
  cases tells with
  | registered address single => exact .inr ⟨.register address single, rfl⟩
  | registeredEntry entry => exact .inr ⟨.registerEntry entry, rfl⟩
  | found => exact .inl rfl
  | foundEntry => exact .inl rfl

-- Presenting a tag that was told earlier: it is refused if the entry was another in between, and
-- otherwise the activation is taken away wherever it is said to run.
theorem tag_refused_if_modified {earlier later : List Operation}
    (tells : (empty.run earlier).Tells grain version after)
    (few : (after.run later).drawn < UInt64.size) (named : address.grain = grain) :
    (after.Modified grain later → ∀ current, (after.run later).held.get? grain = some current →
      (after.run later).unregisterAt address version =
          .error (.staleVersion grain.toText version current.version) ∧
        (after.run later).withdrawAt address version = after.run later) ∧
    (¬after.Modified grain later → ∃ roster taken left,
      after.roster? grain = some roster ∧ (after.run later).roster? grain = some roster ∧
      (after.run later).unregisterAt address version = .ok (taken, left) ∧
      (taken = true ↔ ∃ inst ∈ roster.instances, inst.activation = address.activation) ∧
      left.roster? grain = roster.keep (·.activation ≠ address.activation)) ∧
    ((after.run later).held.get? grain = none →
      (after.run later).unregisterAt address version = .ok (false, after.run later)) ∧
    ∀ other, other ≠ grain → ((after.run later).withdrawAt address version).held.get? other =
      (after.run later).held.get? other := by
  subst named
  have reached : ∃ operations, after = empty.run operations := by
    rcases tells_reached tells with rfl | ⟨operation, rfl⟩
    · exact ⟨earlier, rfl⟩
    · exact ⟨earlier ++ [operation], by simp⟩
  obtain ⟨operations, reached⟩ := reached
  have proper : (after.run later).Proper :=
    reached ▸ run_proper (run_proper proper_empty operations) later
  have tagged : after.TaggedFrom 0 address.grain :=
    reached ▸ run_tagged (Nat.zero_le _) (empty_tagged _) operations
  obtain ⟨holding, here, rfl⟩ := tells_holding tells
  obtain ⟨number, _, drawn, version⟩ := tagged holding here
  have bound := run_drawn after later
  refine ⟨fun modified current found => ?_, fun unmodified => ?_, unregisterAt_absent,
    fun other apart => ?_⟩
  · obtain ⟨fresh, since, _, retagged⟩ := modified_tagged modified current found
    have stale : holding.version ≠ current.version := by
      rw [version, retagged]
      intro same
      have equal := Version.tag_injective (by omega) (by omega) same
      omega
    have presented : holding.version ≠ .unknown := version ▸ Version.tag_known (by omega)
    have refused := unregisterAt_stale found presented stale
    exact ⟨refused, by simp only [withdrawAt, refused]⟩
  · have found := (unmodified_kept unmodified).trans here
    refine ⟨holding.roster, ((after.run later).unregister address).1,
      ((after.run later).unregister address).2, by simp [roster?, here], by simp [roster?, found],
      unregisterAt_current found (.inr rfl), unregister_taken found, ?_⟩
    rw [unregister_exact proper, if_pos rfl, roster?, found]
    rfl
  · rcases withdrawAt_cases (after.run later) address holding.version with same | same
    · rw [same]
    · rw [same, unregister_other _ _ apart]

end Partition

namespace Solo
open ActorDirectory.Partition

def address : Address := ⟨⟨"user", "1"⟩, ⟨.v4 ⟨10, 0, 0, 1⟩, 100, 1⟩, .ofNat 10⟩

def recreation : List Operation := [.unregister address, .register address true]

theorem recreated_refused :
    ((empty.register address true).2.run recreation).unregisterAt address ⟨1⟩ =
      .error (.staleVersion "user/1" ⟨1⟩ ⟨2⟩) := by
  have tells : (empty.run []).Tells address.grain ⟨1⟩ (empty.register address true).2 :=
    .registered address true rfl (by decide +kernel)
  have modified : (empty.register address true).2.Modified address.grain recreation :=
    ⟨[], .unregister address, [.register address true], rfl, by decide +kernel⟩
  have current : ((empty.register address true).2.run recreation).held.get? address.grain =
      some ⟨[address.toInstance], true, ⟨2⟩⟩ := by decide +kernel
  exact ((tag_refused_if_modified tells (by decide +kernel) rfl).1 modified _ current).1

end Solo
end ActorDirectory
