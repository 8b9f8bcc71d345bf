import ActorDirectory.Proofs.Store.Isolation
import ActorDirectory.Proofs.Store.Truth

-- A keyspace that the directory of one cluster alone has written. What it has are the texts of
-- records, so comparing texts comes to comparing records.
namespace ActorDirectory

theorem Backend.undergo_keeps {σ : Type} {backend : Backend σ} {holds : σ → Prop}
    (upholds : backend.Upholds holds) (call : RecordCall) :
    ∀ store, holds store → holds (backend.undergo store call) := by
  cases call with
  | register record => exact upholds.register record
  | unregister record version => exact upholds.unregister record version
  | lookup grain => exact upholds.lookup grain

namespace KeyValueStore

variable {cluster : String} {store : KeyValueStore} {records : Records}

inductive Deed where
  | prepare
  | call (call : RecordCall)
  | fail (faults : Nat)
  deriving DecidableEq, Repr

def undergo (cluster : String) (store : KeyValueStore) : Deed → KeyValueStore
  | .prepare => ((client.backend cluster).prepare store).2
  | .call call => (client.backend cluster).undergo store call
  | .fail faults => store.arm faults

def reached (cluster : String) (deeds : List Deed) : KeyValueStore := deeds.foldl (undergo cluster) {}

-- Under the key of a grain there is nothing but what is written for a record of that grain.
def Written (cluster : String) (store : KeyValueStore) : Prop :=
  ∀ grain value, store.raw (KeyValueClient.key cluster grain) = some value →
    ∃ record : Record, record.grain = grain ∧ value = record.toJsonText

theorem written_fewer {after : KeyValueStore} (written : store.Written cluster)
    (fewer : ∀ key value, after.raw key = some value → store.raw key = some value) :
    after.Written cluster :=
  fun grain value there => written grain value (fewer _ value there)

theorem written_same {after : KeyValueStore} (written : store.Written cluster)
    (same : after.raw = store.raw) : after.Written cluster :=
  written_fewer written fun _ _ there => same ▸ there

theorem register_written (cluster : String) (record : Record) :
    Call.Keeps (Written cluster) ((client.backend cluster).register record) := by
  intro store written
  have registers := register_registers cluster record store
  change (client.register cluster record store).2.Written cluster
  generalize client.register cluster record store = called at registers ⊢
  cases registers with
  | failed same => exact written_same written (raw_same same)
  | found same => exact written_same written (raw_same same)
  | @inserted keyspace after made _ changed =>
    intro grain value there
    simp only [raw, changed, Option.bind_some, Keyed.get?_put] at there
    split at there
    · rename_i own
      exact ⟨record, (key_injective own).symm, (Option.some.inj there).symm⟩
    · refine written grain value ?_
      simp only [raw, made, Option.bind_some, there]

theorem written_upholds (cluster : String) : (client.backend cluster).Upholds (Written cluster) where
  prepare := fun store written => written_same written (prepare_raw cluster store)
  register := register_written cluster
  unregister := fun record _ store written =>
    written_fewer written fun _ _ => Shown.settles_fewer (unregister_frames cluster record store)
  lookup := fun grain store written => written_same written (lookup_raw cluster grain store)

theorem undergo_written (written : store.Written cluster) (deed : Deed) :
    (store.undergo cluster deed).Written cluster := by
  cases deed with
  | prepare => exact (written_upholds cluster).prepare store written
  | call call => exact Backend.undergo_keeps (written_upholds cluster) call store written
  | fail faults => exact written_same written rfl

theorem reached_written (cluster : String) (deeds : List Deed) :
    (reached cluster deeds).Written cluster := by
  have start : Written cluster {} := nofun
  unfold reached
  generalize ({} : KeyValueStore) = store at start ⊢
  induction deeds generalizing store with
  | nil => exact start
  | cons deed rest ih => exact ih _ (undergo_written start deed)

theorem written_holds {keyspace : Keyed String String} (written : store.Written cluster)
    (working : store.faults = 0) (made : store.keyspace = some keyspace) :
    ∃ records : Records, Holds cluster store records ∧
      ∀ grain record, records grain = some record → record.grain = grain := by
  have known : ∀ grain, store.raw (KeyValueClient.key cluster grain) =
      keyspace.get? (KeyValueClient.key cluster grain) := by
    intro grain
    rw [raw, made, Option.bind_some]
  refine ⟨fun grain => (store.raw (KeyValueClient.key cluster grain)).bind Record.ofJsonText?,
    ⟨working, keyspace, made, fun grain => ?_⟩, fun grain record found => ?_⟩
  · dsimp only
    rw [← known]
    cases there : store.raw (KeyValueClient.key cluster grain) with
    | none => rfl
    | some value =>
      obtain ⟨record, _, rfl⟩ := written grain value there
      rw [Option.bind_some, record.ofJsonText_toJsonText, Option.map_some]
  · obtain ⟨value, there, read⟩ := Option.bind_eq_some_iff.mp found
    obtain ⟨other, own, rfl⟩ := written grain value there
    rw [other.ofJsonText_toJsonText] at read
    rw [← Option.some.inj read, own]

structure Lossless (cluster : String) (store : KeyValueStore) (records : Records) : Prop where
  named : ∀ grain record, records grain = some record → record.grain = grain
  found : ∀ grain, (client.backend cluster).lookup grain store =
    (.ok ((records grain).map (·, .unknown)), store)
  registered : ∀ record, records record.grain = none → ∃ next,
    (client.backend cluster).register record store = (.ok (record, .unknown), next) ∧
      (client.backend cluster).lookup record.grain next = (.ok (some (record, .unknown)), next)
  retained : ∀ record kept, records record.grain = some kept →
    (client.backend cluster).register record store = (.ok (kept, .unknown), store)
  unregistered : ∀ record version, records record.grain = some record → ∃ next,
    (client.backend cluster).unregister record version store = (.ok (), next) ∧
      (client.backend cluster).lookup record.grain next = (.ok none, next)
  spared : ∀ record version, records record.grain ≠ some record →
    (client.backend cluster).unregister record version store = (.ok (), store)
  others : ∀ call : RecordCall, ∀ grain, call.grain ≠ grain →
    let next := (client.backend cluster).undergo store call
    Spares (KeyValueClient.key cluster grain) store next ∧ Alike cluster grain store next

theorem holds_lossless (holds : Holds cluster store records)
    (named : ∀ grain record, records grain = some record → record.grain = grain) :
    Lossless cluster store records where
  named := named
  found := fun grain => lookup_holds holds
  registered := by
    intro record absent
    obtain ⟨next, called, after⟩ : ∃ next, client.register cluster record store =
        (.ok ((records record.grain).getD record, .unknown), next) ∧
          Holds cluster next (records.add record) := register_holds holds
    have looked : client.lookup cluster record.grain next = _ := lookup_holds after
    rw [Records.add_none absent, if_pos rfl] at looked
    rw [absent] at called
    exact ⟨next, called, looked⟩
  retained := fun record kept present => register_held holds present
  unregistered := by
    intro record version present
    obtain ⟨next, called, after⟩ : ∃ next, client.unregister cluster record store =
        (.ok (), next) ∧ Holds cluster next (records.remove record) := unregister_holds holds
    have looked : client.lookup cluster record.grain next = _ := lookup_holds after
    rw [Records.remove_some present, if_pos rfl] at looked
    exact ⟨next, called, looked⟩
  spared := fun record version other => unregister_other holds other
  others := by
    intro call grain other next
    have apart : KeyValueClient.key cluster call.grain ≠ KeyValueClient.key cluster grain :=
      fun same => other (key_injective same)
    have spares := undergo_spares apart store
    exact ⟨spares, spares_alike spares⟩

-- Whatever the directory of one cluster has done to a new store, in spite of any faults, and
-- whatever stands in the texts of the records: once the store works again and has its keyspace,
-- each grain has its record or none.
theorem records_kept_exactly (cluster : String) (past : List Deed) :
    ∃ records, Lossless cluster (reached cluster (past ++ [.fail 0, .prepare])) records := by
  have written := reached_written cluster (past ++ [.fail 0, .prepare])
  have ready : ∃ keyspace, (reached cluster (past ++ [.fail 0, .prepare])).faults = 0 ∧
      (reached cluster (past ++ [.fail 0, .prepare])).keyspace = some keyspace := by
    unfold reached
    rw [List.foldl_append]
    exact ⟨_, rfl, rfl⟩
  obtain ⟨keyspace, working, made⟩ := ready
  obtain ⟨records, holds, named⟩ := written_holds written working made
  exact ⟨records, holds_lossless holds named⟩

example :
    let record : Record := ⟨"\"", "\\/", "\x01"⟩
    let kept := reached "main" [.prepare, .call (.register record),
      .call (.unregister ⟨"\"", "\\/", "\x02"⟩ .unknown)]
    (client.lookup "main" "\\/" kept).1 = .ok (some (record, .unknown)) := by
  decide +kernel

end KeyValueStore
end ActorDirectory
