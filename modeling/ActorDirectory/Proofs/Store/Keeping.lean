import ActorDirectory.Proofs.Json.Reading
import ActorDirectory.Proofs.Text.Escapes
import ActorDirectory.Store.External

-- What a store that does not fail keeps for a directory: at most one record of each grain.
namespace ActorDirectory
open Text

abbrev Records := String → Option Record

namespace Records

def none : Records := fun _ => .none

def add (records : Records) (record : Record) : Records := fun grain =>
  if grain = record.grain then some ((records grain).getD record) else records grain

def remove (records : Records) (record : Record) : Records := fun grain =>
  if grain = record.grain ∧ records grain = some record then .none else records grain

theorem add_none {records : Records} {record : Record} (absent : records record.grain = .none)
    (grain : String) :
    records.add record grain = if grain = record.grain then some record else records grain := by
  rw [add]
  split
  · rename_i same
    rw [same, absent, Option.getD_none]
  · rfl

theorem add_some {records : Records} {record kept : Record}
    (present : records record.grain = some kept) : records.add record = records := by
  funext grain
  rw [add]
  split
  · rename_i same
    rw [same, present, Option.getD_some]
  · rfl

theorem remove_some {records : Records} {record : Record}
    (present : records record.grain = some record) (grain : String) :
    records.remove record grain = if grain = record.grain then .none else records grain := by
  rw [remove]
  by_cases same : grain = record.grain
  · rw [if_pos ⟨same, same ▸ present⟩, if_pos same]
  · rw [if_neg fun both => same both.1, if_neg same]

theorem remove_other {records : Records} {record : Record}
    (other : records record.grain ≠ some record) : records.remove record = records := by
  funext grain
  rw [remove, if_neg]
  rintro ⟨rfl, present⟩
  exact other present

end Records

-- A backend at a store keeps records, from the moment when its container is made. Records of
-- one grain and activation must not differ, since not every store compares them as a whole.
structure Backend.Keeps {σ : Type} (backend : Backend σ) (start : σ)
    (keeps : σ → Records → Prop) : Prop where
  prepare : ∃ store, backend.prepare start = (.ok (), store) ∧ keeps store .none
  register : ∀ store records record, keeps store records → ∃ version next,
    backend.register record store =
      (.ok ((records record.grain).getD record, version), next) ∧ keeps next (records.add record)
  unregister : ∀ store records record, keeps store records →
    (∀ kept, records record.grain = some kept → kept.activation = record.activation →
      kept = record) →
    ∃ next, backend.unregister record .unknown store = (.ok (), next) ∧
      keeps next (records.remove record)
  lookup : ∀ store records grain, keeps store records → ∃ version next,
    backend.lookup grain store = (.ok ((records grain).map (·, version)), next) ∧
      keeps next records

namespace KeyValueStore

variable {cluster : String} {store : KeyValueStore} {records : Records}

def Holds (cluster : String) (store : KeyValueStore) (records : Records) : Prop :=
  store.faults = 0 ∧ ∃ keyspace, store.keyspace = some keyspace ∧
    ∀ grain, keyspace.get? (KeyValueClient.key cluster grain) =
      (records grain).map Record.toJsonText

theorem key_injective {cluster grain other : String}
    (same : KeyValueClient.key cluster grain = KeyValueClient.key cluster other) :
    grain = other := by
  have texts := congrArg String.toList same
  simp only [KeyValueClient.key, String.toList_append] at texts
  exact String.toList_inj.mp (List.append_cancel_left texts)

theorem toJsonText_injective {record other : Record}
    (same : record.toJsonText = other.toJsonText) : record = other := by
  have read := record.ofJsonText_toJsonText
  rw [same, other.ofJsonText_toJsonText] at read
  exact (Option.some.inj read).symm

theorem within_ok {α : Type} {keyspace : Keyed String String} (working : store.faults = 0)
    (made : store.keyspace = some keyspace)
    (use : Keyed String String → α × Keyed String String) :
    within use store =
      (.ok (use keyspace).1, { store with keyspace := some (use keyspace).2 }) := by
  simp only [within, faulted, working, made]

theorem register_held {record kept : Record} (holds : Holds cluster store records)
    (present : records record.grain = some kept) :
    client.register cluster record store = (.ok (kept, .unknown), store) := by
  obtain ⟨working, keyspace, made, known⟩ := holds
  have here := known record.grain
  have unchanged : { store with keyspace := some keyspace } = store := by rw [← made]
  rw [present, Option.map_some] at here
  simp [KeyValueClient.register, client, within_ok working made, Keyed.contains, here,
    KeyValueClient.decode, Record.ofJsonText_toJsonText, unchanged]

theorem register_holds {record : Record} (holds : Holds cluster store records) :
    ∃ next, client.register cluster record store =
      (.ok ((records record.grain).getD record, .unknown), next) ∧
        Holds cluster next (records.add record) := by
  cases kept : records record.grain with
  | none =>
    obtain ⟨working, keyspace, made, known⟩ := holds
    have here := known record.grain
    rw [kept, Option.map_none] at here
    refine ⟨{ store with keyspace := some (keyspace.put
      (KeyValueClient.key cluster record.grain) record.toJsonText) }, ?_, working, _, rfl, ?_⟩
    · simp [KeyValueClient.register, client, within_ok working made, Keyed.contains, here]
    · intro grain
      rw [Keyed.get?_put, Records.add_none kept]
      by_cases same : grain = record.grain
      · simp [same]
      · rw [if_neg fun key => same (key_injective key), if_neg same]
        exact known grain
  | some other =>
    exact ⟨store, register_held holds kept, by rwa [Records.add_some kept]⟩

theorem unregister_other {record : Record} (holds : Holds cluster store records)
    (other : records record.grain ≠ some record) :
    client.unregister cluster record store = (.ok (), store) := by
  obtain ⟨working, keyspace, made, known⟩ := holds
  have differs : keyspace.get? (KeyValueClient.key cluster record.grain) ≠
      some record.toJsonText := by
    rw [known record.grain]
    intro same
    obtain ⟨kept, found, text⟩ := Option.map_eq_some_iff.mp same
    exact other (toJsonText_injective text ▸ found)
  have unchanged : { store with keyspace := some keyspace } = store := by rw [← made]
  simp [KeyValueClient.unregister, client, within_ok working made, differs, unchanged]

theorem unregister_holds {record : Record} (holds : Holds cluster store records) :
    ∃ next, client.unregister cluster record store = (.ok (), next) ∧
      Holds cluster next (records.remove record) := by
  by_cases present : records record.grain = some record
  · obtain ⟨working, keyspace, made, known⟩ := holds
    have here := known record.grain
    rw [present, Option.map_some] at here
    refine ⟨{ store with keyspace := some (keyspace.erase
      (KeyValueClient.key cluster record.grain)) }, ?_, working, _, rfl, ?_⟩
    · simp [KeyValueClient.unregister, client, within_ok working made, here]
    · intro grain
      rw [Keyed.get?_erase, Records.remove_some present]
      by_cases same : grain = record.grain
      · simp [same]
      · rw [if_neg fun key => same (key_injective key), if_neg same]
        exact known grain
  · exact ⟨store, unregister_other holds present, by rwa [Records.remove_other present]⟩

theorem lookup_holds {grain : String} (holds : Holds cluster store records) :
    client.lookup cluster grain store = (.ok ((records grain).map (·, .unknown)), store) := by
  obtain ⟨working, keyspace, made, known⟩ := holds
  have unchanged : { store with keyspace := some keyspace } = store := by rw [← made]
  have here := known grain
  cases kept : records grain <;> rw [kept] at here <;>
    simp [KeyValueClient.lookup, client, within_ok working made, here, unchanged,
      KeyValueClient.decode, Record.ofJsonText_toJsonText, Except.map]

theorem keeps (cluster : String) : (client.backend cluster).Keeps {} (Holds cluster) where
  prepare := ⟨_, rfl, rfl, _, rfl, fun _ => rfl⟩
  register := fun _ _ _ holds =>
    let ⟨next, called, holds⟩ := register_holds holds
    ⟨.unknown, next, called, holds⟩
  unregister := fun _ _ _ holds _ => unregister_holds holds
  lookup := fun store _ _ holds => ⟨.unknown, store, lookup_holds holds, holds⟩

end KeyValueStore

namespace TableStore

variable {cluster : String} {store : TableStore} {records : Records}

def Holds (cluster : String) (store : TableStore) (records : Records) : Prop :=
  store.faults = 0 ∧ (∀ grain record, records grain = some record → record.grain = grain) ∧
    ∃ rows, store.rows = some rows ∧ ∀ grain,
      (rows.get? (cluster, Row.keyOf grain)).map Prod.fst =
        (records grain).map (Row.ofRecord cluster)

theorem keyOf_injective {grain other : String} (same : Row.keyOf grain = Row.keyOf other) :
    grain = other :=
  String.toList_inj.mp (percentEncode_injective (String.ofList_inj.mp same))

theorem within_ok {α : Type} {rows : Keyed (String × String) (Row × String)}
    (working : store.faults = 0) (made : store.rows = some rows)
    (use : Keyed (String × String) (Row × String) →
      Except StoreFault (α × Keyed (String × String) (Row × String))) :
    within use store = match use rows with
      | .error fault => (.error fault, store)
      | .ok (answer, rows) => (.ok answer, { store with rows := some rows }) := by
  cases ended : use rows with
  | error fault => simp [within, faulted, working, made, ended]
  | ok answered => simp [within, faulted, working, made, ended]

theorem register_holds {record : Record} (holds : Holds cluster store records) :
    ∃ version next, client.register cluster record store =
      (.ok ((records record.grain).getD record, version), next) ∧
        Holds cluster next (records.add record) := by
  obtain ⟨working, named, rows, made, known⟩ := holds
  have here := known record.grain
  -- The e-tag is drawn before the row is looked for.
  have drawnMade : store.draw.2.rows = some rows := made
  have drawnWorking : store.draw.2.faults = 0 := working
  cases kept : records record.grain with
  | none =>
    rw [kept, Option.map_none, Option.map_eq_none_iff] at here
    refine ⟨.ofEtag store.draw.1, { store.draw.2 with rows := some (rows.put
      (cluster, Row.keyOf record.grain) (.ofRecord cluster record, store.draw.1)) }, ?_, working,
      ?_, _, rfl, ?_⟩
    · simp [TableClient.register, client, insert, within_ok drawnWorking drawnMade, Keyed.contains,
        Row.keys, Row.ofRecord, here]
    · intro grain other found
      rw [Records.add_none kept] at found
      split at found
      · rename_i same
        rw [← Option.some.inj found, same]
      · exact named grain other found
    · intro grain
      rw [Keyed.get?_put, Records.add_none kept]
      by_cases same : grain = record.grain
      · simp [same]
      · rw [if_neg fun keys => same (keyOf_injective (Prod.mk.inj keys).2), if_neg same]
        exact known grain
  | some other =>
    rw [kept, Option.map_some, Option.map_eq_some_iff] at here
    obtain ⟨⟨row, etag⟩, here, rfl⟩ := here
    refine ⟨.ofEtag etag, store.draw.2, ?_, working,
      by rw [Records.add_some kept]; exact named, rows, made,
      by rw [Records.add_some kept]; exact known⟩
    have unchanged : { store.draw.2 with rows := some rows } = store.draw.2 := by rw [← drawnMade]
    simp [TableClient.register, client, insert, read, within_ok drawnWorking drawnMade,
      Keyed.contains, Row.keys, Row.ofRecord, here, unchanged, Row.toRecord]

theorem unregister_holds {record : Record} (holds : Holds cluster store records)
    (same : ∀ kept, records record.grain = some kept → kept.activation = record.activation →
      kept = record) :
    ∃ next, client.unregister cluster record .unknown store = (.ok (), next) ∧
      Holds cluster next (records.remove record) := by
  obtain ⟨working, named, rows, made, known⟩ := holds
  have here := known record.grain
  have unchanged : { store with rows := some rows } = store := by rw [← made]
  by_cases present : records record.grain = some record
  · rw [present, Option.map_some, Option.map_eq_some_iff] at here
    obtain ⟨⟨row, etag⟩, here, rfl⟩ := here
    refine ⟨{ store with rows := some (rows.erase (cluster, Row.keyOf record.grain)) }, ?_,
      working, ?_, _, rfl, ?_⟩
    · simp [TableClient.unregister, client, read, delete, within_ok working made, here, unchanged,
        Row.ofRecord, TableClient.deleted]
    · intro grain other found
      rw [Records.remove_some present] at found
      split at found
      · cases found
      · exact named grain other found
    · intro grain
      rw [Keyed.get?_erase, Records.remove_some present]
      by_cases own : grain = record.grain
      · simp [own]
      · rw [if_neg fun keys => own (keyOf_injective (Prod.mk.inj keys).2), if_neg own]
        exact known grain
  · refine ⟨store, ?_, working, by rw [Records.remove_other present]; exact named, rows, made,
      by rw [Records.remove_other present]; exact known⟩
    cases kept : records record.grain with
    | none =>
      rw [kept, Option.map_none, Option.map_eq_none_iff] at here
      simp [TableClient.unregister, client, read, within_ok working made, here, unchanged]
    | some other =>
      have differs : other.activation ≠ record.activation := fun equal =>
        present (kept.trans (congrArg some (same other kept equal)))
      rw [kept, Option.map_some, Option.map_eq_some_iff] at here
      obtain ⟨⟨row, etag⟩, here, rfl⟩ := here
      simp [TableClient.unregister, client, read, within_ok working made, here, unchanged,
        Row.ofRecord, differs]

theorem lookup_holds {grain : String} (holds : Holds cluster store records) :
    ∃ version, client.lookup cluster grain store =
      (.ok ((records grain).map (·, version)), store) := by
  obtain ⟨working, named, rows, made, known⟩ := holds
  have unchanged : { store with rows := some rows } = store := by rw [← made]
  have here := known grain
  cases kept : records grain with
  | none =>
    rw [kept, Option.map_none, Option.map_eq_none_iff] at here
    exact ⟨.unknown, by
      simp [TableClient.lookup, client, read, within_ok working made, here, unchanged]⟩
  | some record =>
    rw [kept, Option.map_some, Option.map_eq_some_iff] at here
    obtain ⟨⟨row, etag⟩, here, rfl⟩ := here
    exact ⟨.ofEtag etag, by
      simp [TableClient.lookup, client, read, within_ok working made, here, unchanged,
        Row.ofRecord, Row.toRecord]⟩

theorem keeps (cluster : String) : (client.backend cluster).Keeps {} (Holds cluster) where
  prepare := ⟨_, rfl, rfl, nofun, _, rfl, fun _ => rfl⟩
  register := fun _ _ _ => register_holds
  unregister := fun _ _ _ => unregister_holds
  lookup := fun store _ _ holds =>
    let ⟨version, called⟩ := lookup_holds holds
    ⟨version, store, called, holds⟩

end TableStore
end ActorDirectory
