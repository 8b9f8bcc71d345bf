import ActorDirectory.Proofs.Store.Keeping
import ActorDirectory.Proofs.Store.Rows

namespace ActorDirectory

abbrev Contents (κ : Type) := String → Option κ

namespace Contents

variable {κ : Type} {answer : κ → Except BackendFault (Record × Version)} {record : Record}
  {before after : Contents κ} {result : Record × Version} {kept : κ} {grain : String}

def put (contents : Contents κ) (grain : String) (kept : κ) : Contents κ := fun other =>
  if other = grain then some kept else contents other

-- How an attempt to register a record may change the contents, and what it answers if it is not
-- in vain.
inductive Lodges (answer : κ → Except BackendFault (Record × Version)) (record : Record)
    (before after : Contents κ) : Option (Record × Version) → Prop where
  | failed : after = before → Lodges answer record before after none
  | found {kept : κ} {result : Record × Version} : after = before →
      before record.grain = some kept → answer kept = .ok result →
      Lodges answer record before after (some result)
  | inserted {kept : κ} {version : Version} : before record.grain = none →
      after = before.put record.grain kept → answer kept = .ok (record, version) →
      Lodges answer record before after (some (record, version))

theorem lodges_failed (lodges : Lodges answer record before after none) : after = before := by
  cases lodges with
  | failed same => exact same

theorem lodges_keeps {outcome : Option (Record × Version)}
    (lodges : Lodges answer record before after outcome) (there : before grain = some kept) :
    after grain = some kept := by
  cases lodges with
  | failed same => exact same ▸ there
  | found same => exact same ▸ there
  | inserted absent lodged =>
    rw [lodged, put, if_neg]
    · exact there
    · rintro rfl
      cases absent.symm.trans there

theorem lodges_tells (lodges : Lodges answer record before after (some result)) :
    ∃ kept, after record.grain = some kept ∧ answer kept = .ok result := by
  cases lodges with
  | found same there answers => exact ⟨_, same ▸ there, answers⟩
  | inserted _ lodged answers => exact ⟨_, lodged ▸ if_pos rfl, answers⟩

theorem lodges_changes {outcome : Option (Record × Version)}
    (lodges : Lodges answer record before after outcome) (grain : String) :
    after grain = before grain ∨
      record.grain = grain ∧ ∃ version, outcome = some (record, version) := by
  cases lodges with
  | failed same => exact .inl (same ▸ rfl)
  | found same => exact .inl (same ▸ rfl)
  | inserted _ lodged =>
    by_cases same : grain = record.grain
    · exact .inr ⟨same.symm, _, rfl⟩
    · exact .inl (lodged ▸ if_neg same)

end Contents

-- A backend that lodges records in a store, seen through what the store has and what it would
-- answer for it. The store is also looked at as if no fault were to come.
structure Backend.Lawful {σ κ : Type} (backend : Backend σ) (stored : σ → Contents κ)
    (answer : κ → Except BackendFault (Record × Version)) (calm : σ → σ) : Prop where
  prepare : ∀ store, stored (backend.prepare store).2 = stored store
  register : ∀ record store, Contents.Lodges answer record (stored store)
    (stored (backend.register record store).2) (backend.register record store).1.toOption
  calms : ∀ store, stored (calm store) = stored store
  ready : ∀ store, ∃ next, backend.prepare (calm store) = (.ok (), next) ∧ calm next = next
  lookup : ∀ store grain kept, stored store grain = some kept →
    ∃ next, backend.lookup grain (calm store) = ((answer kept).map some, next)

namespace KeyValueStore

variable {cluster : String} {store after : KeyValueStore}

def contents (cluster : String) (store : KeyValueStore) : Contents String := fun grain =>
  store.raw (KeyValueClient.key cluster grain)

def calm (store : KeyValueStore) : KeyValueStore := { store with faults := 0 }

theorem contents_same (same : after.keyspace = store.keyspace) :
    contents cluster after = contents cluster store := by
  funext grain
  rw [contents, raw, same]
  rfl

inductive Used {α : Type} (use : Keyed String String → α × Keyed String String)
    (store : KeyValueStore) : Except StoreFault α × KeyValueStore → Prop where
  | failed {fault : StoreFault} {after : KeyValueStore} : after.keyspace = store.keyspace →
      Used use store (.error fault, after)
  | used {keyspace : Keyed String String} {after : KeyValueStore} :
      store.keyspace = some keyspace → after.keyspace = some (use keyspace).2 →
      Used use store (.ok (use keyspace).1, after)

theorem within_used {α : Type} (use : Keyed String String → α × Keyed String String)
    (store : KeyValueStore) : Used use store (within use store) := by
  simp only [within, faulted]
  split
  · split
    · exact .failed rfl
    · rename_i keyspace made
      exact .used made rfl
  · exact .failed rfl

inductive Registers (cluster : String) (record : Record) (store : KeyValueStore) :
    Except BackendFault (Record × Version) × KeyValueStore → Prop where
  | failed {fault : BackendFault} {after : KeyValueStore} : after.keyspace = store.keyspace →
      Registers cluster record store (.error fault, after)
  | found {value : String} {result : Record × Version} {after : KeyValueStore} :
      after.keyspace = store.keyspace →
      store.raw (KeyValueClient.key cluster record.grain) = some value →
      KeyValueClient.decode value = .ok result → Registers cluster record store (.ok result, after)
  | inserted {keyspace : Keyed String String} {after : KeyValueStore} :
      store.keyspace = some keyspace →
      keyspace.get? (KeyValueClient.key cluster record.grain) = none →
      after.keyspace =
        some (keyspace.put (KeyValueClient.key cluster record.grain) record.toJsonText) →
      Registers cluster record store (.ok (record, .unknown), after)

theorem register_registers (cluster : String) (record : Record) (store : KeyValueStore) :
    Registers cluster record store (client.register cluster record store) := by
  have wrote := within_used (fun keyspace =>
    if keyspace.contains (KeyValueClient.key cluster record.grain) then (false, keyspace)
    else (true, keyspace.put (KeyValueClient.key cluster record.grain) record.toJsonText)) store
  simp only [KeyValueClient.register, client]
  generalize within _ store = called at wrote ⊢
  cases wrote with
  | failed same => exact .failed same
  | @used keyspace middle made changed =>
    by_cases present : keyspace.contains (KeyValueClient.key cluster record.grain) = true
    · simp only [if_pos present] at changed ⊢
      have same : middle.keyspace = store.keyspace := changed.trans made.symm
      have readBack := within_used
        (fun keyspace => (keyspace.get? (KeyValueClient.key cluster record.grain), keyspace)) middle
      generalize within _ middle = called at readBack ⊢
      cases readBack with
      | failed kept => exact .failed (kept.trans same)
      | @used later after there kept =>
        have unchanged : after.keyspace = store.keyspace := kept.trans (there.symm.trans same)
        cases found : later.get? (KeyValueClient.key cluster record.grain) with
        | none => exact .failed unchanged
        | some value =>
          have here : store.raw (KeyValueClient.key cluster record.grain) = some value := by
            rw [raw, ← same, there, Option.bind_some, found]
          dsimp only
          cases read : KeyValueClient.decode value with
          | error fault => exact .failed unchanged
          | ok result => exact .found unchanged here read
    · simp only [if_neg present] at changed ⊢
      exact .inserted made (by simpa [Keyed.contains] using present) changed

theorem register_lodges (cluster : String) (record : Record) (store : KeyValueStore) :
    Contents.Lodges KeyValueClient.decode record (contents cluster store)
      (contents cluster (client.register cluster record store).2)
      (client.register cluster record store).1.toOption := by
  have registers := register_registers cluster record store
  generalize client.register cluster record store = called at registers ⊢
  cases registers with
  | failed same => exact .failed (contents_same same)
  | found same here read => exact .found (contents_same same) here read
  | @inserted keyspace after made absent changed =>
    have free : contents cluster store record.grain = none := by
      rw [contents, raw, made]
      exact absent
    have lodged : contents cluster after =
        (contents cluster store).put record.grain record.toJsonText := by
      funext grain
      have own : KeyValueClient.key cluster grain = KeyValueClient.key cluster record.grain ↔
          grain = record.grain := ⟨key_injective, fun same => same ▸ rfl⟩
      simp only [Contents.put, contents, raw, changed, made, Option.bind_some, Keyed.get?_put,
        own]
    have read : KeyValueClient.decode record.toJsonText = .ok (record, .unknown) := by
      rw [KeyValueClient.decode, Record.ofJsonText_toJsonText]
    exact .inserted free lodged read

theorem lawful (cluster : String) :
    (client.backend cluster).Lawful (contents cluster) KeyValueClient.decode calm where
  prepare := fun store => by
    have prepared : ((client.backend cluster).prepare store).2 =
        (client.ensureKeyspace store).2 := by
      simp only [KeyValueClient.backend]
      split <;> rename_i called <;> rw [called]
    rw [prepared]
    simp only [client, faulted]
    split
    · funext grain
      cases made : store.keyspace <;> simp [contents, raw, made]
    · rfl
  register := register_lodges cluster
  calms := fun _ => rfl
  ready := fun _ => ⟨_, rfl, rfl⟩
  lookup := fun store grain value there => by
    obtain ⟨keyspace, made, found⟩ := Option.bind_eq_some_iff.mp there
    have working : (calm store).faults = 0 := rfl
    have calmMade : (calm store).keyspace = some keyspace := made
    exact ⟨_, by
      simp only [KeyValueClient.backend, KeyValueClient.lookup, client,
        within_ok working calmMade, found]
      rfl⟩

end KeyValueStore

namespace TableStore

variable {cluster : String} {store after : TableStore}

def contents (cluster : String) (store : TableStore) : Contents (Row × String) := fun grain =>
  store.row? (cluster, Row.keyOf grain)

def calm (store : TableStore) : TableStore := { store with faults := 0 }

def answer (kept : Row × String) : Except BackendFault (Record × Version) :=
  .ok (kept.1.toRecord, .ofEtag kept.2)

theorem contents_same (same : after.rows = store.rows) :
    contents cluster after = contents cluster store :=
  funext fun _ => row_same same _

inductive Registers (cluster : String) (record : Record) (store : TableStore) :
    Except BackendFault (Record × Version) × TableStore → Prop where
  | failed {fault : BackendFault} {after : TableStore} : after.rows = store.rows →
      Registers cluster record store (.error fault, after)
  | found {kept : Row × String} {after : TableStore} : after.rows = store.rows →
      store.row? (cluster, Row.keyOf record.grain) = some kept →
      Registers cluster record store (.ok (kept.1.toRecord, .ofEtag kept.2), after)
  | inserted {rows : Keyed (String × String) (Row × String)} {tag : String} {after : TableStore} :
      store.rows = some rows → rows.get? (cluster, Row.keyOf record.grain) = none →
      after.rows =
        some (rows.put (cluster, Row.keyOf record.grain) (.ofRecord cluster record, tag)) →
      Registers cluster record store (.ok (record, .ofEtag tag), after)

theorem register_registers (cluster : String) (record : Record) (store : TableStore) :
    Registers cluster record store (client.register cluster record store) := by
  have inserted := insert_inserted (.ofRecord cluster record) store
  simp only [TableClient.register, client]
  generalize insert (.ofRecord cluster record) store = called at inserted ⊢
  cases inserted with
  | inserted made absent changed _ => exact .inserted made absent changed
  | @refused fault middle same _ =>
    cases fault with
    | alreadyExists =>
      have readBack := read_readBack cluster (Row.keyOf record.grain) middle
      dsimp only
      generalize read cluster (Row.keyOf record.grain) middle = called at readBack ⊢
      cases readBack with
      | failed kept _ => exact .failed (kept.trans same)
      | found kept _ =>
        cases found : middle.row? (cluster, Row.keyOf record.grain) with
        | none => exact .failed (kept.trans same)
        | some there =>
          exact .found (kept.trans same) ((row_same same _).symm.trans found)
    | _ => exact .failed same

theorem register_lodges (cluster : String) (record : Record) (store : TableStore) :
    Contents.Lodges answer record (contents cluster store)
      (contents cluster (client.register cluster record store).2)
      (client.register cluster record store).1.toOption := by
  have registers := register_registers cluster record store
  generalize client.register cluster record store = called at registers ⊢
  cases registers with
  | failed same => exact .failed (contents_same same)
  | found same here => exact .found (contents_same same) here rfl
  | @inserted rows tag after made absent changed =>
    have free : contents cluster store record.grain = none := by
      rw [contents, row?, made]
      exact absent
    have lodged : contents cluster after = (contents cluster store).put record.grain
        (.ofRecord cluster record, tag) := by
      funext grain
      have own : (cluster, Row.keyOf grain) = (cluster, Row.keyOf record.grain) ↔
          grain = record.grain :=
        ⟨fun same => keyOf_injective (Prod.mk.inj same).2, fun same => same ▸ rfl⟩
      rw [contents, row_put made _ changed]
      simp only [own]
      rfl
    exact .inserted free lodged rfl

theorem lawful (cluster : String) :
    (client.backend cluster).Lawful (contents cluster) answer calm where
  prepare := fun store => by
    have prepared : ((client.backend cluster).prepare store).2 = (create store).2 := by
      simp only [TableClient.backend, client]
      split <;> rename_i called <;> rw [called]
    rw [prepared]
    simp only [create, faulted]
    split
    · funext grain
      cases made : store.rows <;> simp [contents, row?, made]
    · rfl
  register := register_lodges cluster
  calms := fun _ => rfl
  ready := fun _ => ⟨_, rfl, rfl⟩
  lookup := fun store grain kept there => by
    obtain ⟨rows, made, found⟩ := Option.bind_eq_some_iff.mp there
    have working : (calm store).faults = 0 := rfl
    have calmMade : (calm store).rows = some rows := made
    exact ⟨_, by
      simp only [TableClient.backend, TableClient.lookup, client, read,
        within_ok working calmMade, found]
      rfl⟩

end TableStore

end ActorDirectory
