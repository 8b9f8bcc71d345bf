import ActorDirectory.Proofs.Store.Isolation
import ActorDirectory.Proofs.Store.Preparation

-- Which rows of a table a directory asks for. The cluster's id and the escaped grain are the two
-- halves of a row's place, so directories of different clusters never meet, whatever their ids.
namespace ActorDirectory
open Text

namespace Row

theorem keyOf_legal (grain : String) : ∀ c ∈ (keyOf grain).toList, Legal c := by
  unfold keyOf
  rw [String.toList_ofList]
  exact percentEncode_legal grain.toList

theorem keyOf_decoded (grain : String) : percentDecode? (keyOf grain).toList = some grain := by
  unfold keyOf
  rw [String.toList_ofList, percentDecode_encode, String.ofList_toList]

end Row

def Call.note {σ κ ε α : Type} (key : κ) (call : Call σ ε α) : Call (σ × List κ) ε α :=
  fun (store, seen) => ((call store).1, (call store).2, seen ++ [key])

namespace TableClient

variable {σ : Type} {client : TableClient σ} {own : String × String → Prop} {holds : σ → Prop}
  {cluster : String} {store : σ} {call : RecordCall}

-- What the calls about some rows keep. A row that is read is also deleted by the keys in it, so
-- these must be among the rows too.
structure Upholds (client : TableClient σ) (own : String × String → Prop) (holds : σ → Prop) :
    Prop where
  createTable : Call.Keeps holds client.createTable
  insert : ∀ row, own row.keys → Call.Keeps holds (client.insert row)
  read : ∀ cluster name, own (cluster, name) → Call.Keeps holds (client.read cluster name)
  delete : ∀ cluster name etag, own (cluster, name) →
    Call.Keeps holds (client.delete cluster name etag)
  served : ∀ cluster name store row etag, own (cluster, name) → holds store →
    (client.read cluster name store).1 = .ok (some (row, etag)) → own row.keys

theorem undergo_begun (upholds : client.Upholds own holds)
    (mine : own (cluster, Row.keyOf call.grain))
    (inserted : ∀ row, row.keys = (cluster, Row.keyOf call.grain) →
      holds (client.insert row store).2)
    (read : holds (client.read cluster (Row.keyOf call.grain) store).2)
    (served : ∀ row etag,
      (client.read cluster (Row.keyOf call.grain) store).1 = .ok (some (row, etag)) →
        own row.keys) :
    holds ((client.backend cluster).undergo store call) := by
  cases call with
  | register record =>
    have inserted := inserted (.ofRecord cluster record) rfl
    simp only [Backend.undergo, backend, register]
    generalize client.insert (.ofRecord cluster record) store = called at inserted ⊢
    split
    · exact inserted
    · rename_i next
      have read := upholds.read cluster (Row.keyOf record.grain) mine next inserted
      generalize client.read cluster (Row.keyOf record.grain) next = called at read ⊢
      split <;> exact read
    · exact inserted
  | unregister record version =>
    simp only [Backend.undergo, backend, unregister]
    dsimp only [RecordCall.grain] at read served
    generalize client.read cluster (Row.keyOf record.grain) store = called at read served ⊢
    split
    · exact read
    · exact read
    · rename_i row etag next
      split
      · exact read
      · split
        · exact read
        · exact upholds.delete row.cluster row.row etag (served row etag rfl) next read
  | lookup grain =>
    simp only [Backend.undergo, backend, lookup]
    dsimp only [RecordCall.grain] at read
    generalize client.read cluster (Row.keyOf grain) store = called at read ⊢
    split <;> exact read

theorem undergo_keeps (upholds : client.Upholds own holds) (call : RecordCall)
    (mine : own (cluster, Row.keyOf call.grain)) (held : holds store) :
    holds ((client.backend cluster).undergo store call) :=
  undergo_begun upholds mine (fun row same => upholds.insert row (same ▸ mine) store held)
    (upholds.read _ _ mine store held) fun row etag => upholds.served _ _ store row etag mine held

theorem backend_upholds (upholds : client.Upholds own holds)
    (mine : ∀ name, own (cluster, name)) : (client.backend cluster).Upholds holds where
  prepare := by
    intro store held
    have created := upholds.createTable store held
    simp only [backend]
    generalize client.createTable store = called at created ⊢
    split <;> exact created
  register := fun record _ => undergo_keeps upholds (.register record) (mine _)
  unregister := fun record version _ => undergo_keeps upholds (.unregister record version) (mine _)
  lookup := fun grain _ => undergo_keeps upholds (.lookup grain) (mine _)

def noting (client : TableClient σ) : TableClient (σ × List (String × String)) where
  createTable := fun (store, seen) =>
    ((client.createTable store).1, (client.createTable store).2, seen)
  insert := fun row => (client.insert row).note row.keys
  read := fun cluster name => (client.read cluster name).note (cluster, name)
  delete := fun cluster name etag => (client.delete cluster name etag).note (cluster, name)

def asked (client : TableClient σ) (cluster : String) (call : RecordCall) (store : σ) :
    List (String × String) :=
  ((client.noting.backend cluster).undergo (store, []) call).2

theorem noting_undergo (client : TableClient σ) (cluster : String) (call : RecordCall) (store : σ)
    (seen : List (String × String)) :
    ((client.noting.backend cluster).undergo (store, seen) call).1 =
      (client.backend cluster).undergo store call := by
  cases call with
  | register record =>
    simp only [Backend.undergo, backend, register, noting, Call.note]
    rcases client.insert (.ofRecord cluster record) store with ⟨result, next⟩
    rcases result with fault | etag
    · cases fault with
      | alreadyExists =>
        dsimp only
        rcases client.read cluster (Row.keyOf record.grain) next with ⟨result, last⟩
        rcases result with _ | _ | _ <;> rfl
      | _ => rfl
    · rfl
  | unregister record version =>
    simp only [Backend.undergo, backend, unregister, noting, Call.note]
    rcases client.read cluster (Row.keyOf record.grain) store with ⟨result, next⟩
    rcases result with _ | _ | _
    · rfl
    · rfl
    · dsimp only
      split
      · rfl
      · split <;> rfl
  | lookup grain =>
    simp only [Backend.undergo, backend, lookup, noting, Call.note]
    rcases client.read cluster (Row.keyOf grain) store with ⟨result, next⟩
    cases result <;> rfl

theorem noting_upholds (upholds : client.Upholds own holds) :
    client.noting.Upholds own fun noted => holds noted.1 ∧ ∀ key ∈ noted.2, own key := by
  have noted : ∀ {seen : List (String × String)} {key}, own key → (∀ key ∈ seen, own key) →
      ∀ other ∈ seen ++ [key], own other := fun mine held =>
    List.forall_mem_append.mpr ⟨held, List.forall_mem_singleton.mpr mine⟩
  exact {
    createTable := fun (store, _) held => ⟨upholds.createTable store held.1, held.2⟩
    insert := fun row mine (store, _) held =>
      ⟨upholds.insert row mine store held.1, noted mine held.2⟩
    read := fun cluster name mine (store, _) held =>
      ⟨upholds.read cluster name mine store held.1, noted mine held.2⟩
    delete := fun cluster name etag mine (store, _) held =>
      ⟨upholds.delete cluster name etag mine store held.1, noted mine held.2⟩
    served := fun cluster name (store, _) row etag mine held =>
      upholds.served cluster name store row etag mine held.1 }

theorem noting_remembers (client : TableClient σ) (key : String × String) :
    client.noting.Upholds (fun _ => True) fun noted => key ∈ noted.2 where
  createTable := fun _ held => held
  insert := fun _ _ _ held => List.mem_append_left _ held
  read := fun _ _ _ _ held => List.mem_append_left _ held
  delete := fun _ _ _ _ _ held => List.mem_append_left _ held
  served := fun _ _ _ _ _ _ _ _ => trivial

-- Whatever comes of it, a call asks for the row of its grain to begin with, and then for no other.
theorem asked_iff (upholds : client.Upholds (· = (cluster, Row.keyOf call.grain)) holds)
    (held : holds store) (key : String × String) :
    key ∈ client.asked cluster call store ↔ key = (cluster, Row.keyOf call.grain) := by
  constructor
  · intro present
    exact (undergo_keeps (noting_upholds upholds) call rfl ⟨held, List.forall_mem_nil _⟩).2 key present
  · intro same
    subst same
    refine undergo_begun (noting_remembers client _) trivial (fun row same => ?_)
      (List.mem_append_right _ (List.mem_singleton.mpr rfl)) fun _ _ _ => trivial
    exact List.mem_append_right _ (List.mem_singleton.mpr same.symm)

end TableClient

namespace TableStore

variable {own : String × String → Prop} {key : String × String} {deed : Deed}

namespace Deed

def Concerns (own : String × String → Prop) : Deed → Prop
  | create => True
  | insert row => own row.keys
  | overwrite row => own row.keys
  | read cluster row => own (cluster, row)
  | delete cluster row _ => own (cluster, row)
  | fail _ => True

end Deed

theorem undergo_spares (concerns : deed.Concerns own) (other : ¬own key) (store : TableStore) :
    (store.undergo deed).row? key = store.row? key := by
  have apart : ∀ {place}, own place → key ≠ place := fun mine same => other (same ▸ mine)
  cases deed with
  | create => exact congrFun (create_rows store).1 key
  | insert row =>
    have inserted := insert_inserted row store
    dsimp only [undergo]
    generalize insert row store = called at inserted ⊢
    cases inserted with
    | refused same => exact row_same same key
    | inserted made _ changed => rw [row_put made _ changed, if_neg (apart concerns)]
  | overwrite row =>
    cases made : store.rows with
    | none => exact row_same (by simp [undergo, overwrite, draw, made]) key
    | some rows =>
      have changed : (store.overwrite row).rows =
          some (rows.put row.keys (row, etag (store.drawn + 1))) := by
        simp [overwrite, draw, made]
      exact (row_put made _ changed key).trans (if_neg (apart concerns))
  | read cluster name =>
    have readBack := read_readBack cluster name store
    dsimp only [undergo]
    generalize read cluster name store = called at readBack ⊢
    cases readBack with
    | failed same => exact row_same same key
    | found same => exact row_same same key
  | delete cluster name etag =>
    dsimp only [undergo]
    cases delete_deleted cluster name etag store with
    | kept same => exact row_same same key
    | deleted made _ changed =>
      rw [row?, row?, made, changed, Option.bind_some, Option.bind_some, Keyed.get?_erase,
        if_neg (apart concerns)]
  | fail => rfl

variable {holds : TableStore → Prop}

theorem client_upholds (does : ∀ store deed, deed.Concerns own → holds store →
    holds (store.undergo deed)) (tidy : ∀ store, holds store → store.Tidy) :
    client.Upholds own holds where
  createTable := fun store held => does store .create trivial held
  insert := fun row mine store held => does store (.insert row) mine held
  read := fun cluster name mine store held => does store (.read cluster name) mine held
  delete := fun cluster name etag mine store held =>
    does store (.delete cluster name etag) mine held
  served := fun cluster name store row etag mine held found => by
    have readBack := read_readBack cluster name store
    dsimp only [client] at found
    generalize read cluster name store = called at readBack found
    cases readBack with
    | failed => cases found
    | found =>
      have place := (tidy store held _ row etag (Except.ok.inj found)).1
      rwa [place]

theorem client_tidy : client.Upholds own Tidy :=
  client_upholds (fun store deed _ => becomes_tidy (undergo_becomes store deed)) fun _ => id

end TableStore

def Moment.Spares (other : String) (moment : Moment) : Prop :=
  ∀ name, moment.after.row? (other, name) = moment.before.row? (other, name)

namespace Contended
open TableStore

variable {α : Type} {own : String × String → Prop} {within : Moment → Prop}

theorem call_keeps {call : Call TableStore StoreFault α} {deed : Deed}
    (made : ∀ store, (call store).2 = store.undergo deed)
    (does : ∀ store : TableStore, within ⟨store, store.undergo deed⟩) :
    Call.Keeps (fun table => table.store.Tidy ∧ ∀ moment ∈ table.seen, within moment)
      (Contended.call call) := by
  intro table held
  obtain ⟨tidy, kept⟩ := held
  have before := undergoAll_tidy (table.others.headD []) tidy
  unfold Contended.call
  generalize table.store.undergoAll (table.others.headD []) = store at before ⊢
  dsimp only
  rw [made]
  exact ⟨becomes_tidy (undergo_becomes store deed) before,
    List.forall_mem_cons.mpr ⟨does store, kept⟩⟩

theorem client_upholds (does : ∀ store : TableStore, ∀ deed, deed.Concerns own →
    within ⟨store, store.undergo deed⟩) : client.Upholds own fun table =>
      table.store.Tidy ∧ ∀ moment ∈ table.seen, within moment where
  createTable := call_keeps (fun _ => rfl) fun store => does store .create trivial
  insert := fun row mine => call_keeps (fun _ => rfl) fun store => does store (.insert row) mine
  read := fun cluster name mine =>
    call_keeps (fun _ => rfl) fun store => does store (.read cluster name) mine
  delete := fun cluster name etag mine =>
    call_keeps (fun _ => rfl) fun store => does store (.delete cluster name etag) mine
  served := fun cluster name table row etag mine held found =>
    client_tidy.served cluster name _ row etag mine
      (undergoAll_tidy (table.others.headD []) held.1) found

theorem asked_iff (past : List Deed) (others : List (List Deed)) (cluster : String)
    (call : RecordCall) (key : String × String) :
    key ∈ client.asked cluster call ⟨({} : TableStore).undergoAll past, others, []⟩ ↔
      key = (cluster, Row.keyOf call.grain) := by
  have upholds : client.Upholds (· = (cluster, Row.keyOf call.grain)) fun table =>
      table.store.Tidy ∧ ∀ moment ∈ table.seen, True := client_upholds fun _ _ _ => trivial
  exact TableClient.asked_iff upholds
    ⟨undergoAll_tidy past empty_tidy, List.forall_mem_nil _⟩ key

end Contended

namespace Directory
open TableStore

variable {one other : String}

theorem undergoAll_row {directory : Directory TableStore}
    (own : directory.backend = client.backend one) (tidy : directory.store.Tidy)
    (distinct : one ≠ other) (usages : List Usage) (name : String) :
    (directory.undergoAll usages).store.row? (other, name) =
      directory.store.row? (other, name) := by
  have upholds : client.Upholds (fun key => key.1 ≠ other) fun store =>
      store.Tidy ∧ store.row? (other, name) = directory.store.row? (other, name) := by
    refine client_upholds (fun store deed concerns held => ?_) fun _ held => held.1
    exact ⟨becomes_tidy (undergo_becomes store deed) held.1,
      (undergo_spares concerns (fun apart => apart rfl) store).trans held.2⟩
  have uses := TableClient.backend_upholds upholds fun _ => distinct
  exact (undergoAll_keeps (own ▸ uses) ⟨tidy, rfl⟩ usages).2

theorem undergoAll_spares {directory : Directory Contended}
    (own : directory.backend = Contended.client.backend one) (tidy : directory.store.store.Tidy)
    (unseen : directory.store.seen = []) (distinct : one ≠ other) (usages : List Usage) :
    ∀ moment ∈ (directory.undergoAll usages).store.seen, moment.Spares other := by
  have upholds : Contended.client.Upholds (fun key => key.1 ≠ other) fun table =>
      table.store.Tidy ∧ ∀ moment ∈ table.seen, moment.Spares other :=
    Contended.client_upholds fun store deed concerns name =>
      undergo_spares concerns (fun apart => apart rfl) store
  have uses := TableClient.backend_upholds upholds fun _ => distinct
  have start : ∀ moment ∈ directory.store.seen, moment.Spares other :=
    unseen ▸ List.forall_mem_nil _
  exact (undergoAll_keeps (own ▸ uses) ⟨tidy, start⟩ usages).2

end Directory

-- A directory's keys are legal and can be read back. A call, whatever it meets, asks for the row of
-- its grain and no other, and two calls ask for one row only if they are of the same cluster and
-- about the same grain. What the directory of one cluster does leaves the rows of the others as
-- they are, in a run by itself and in each of its calls among those of others.
theorem rows_kept_apart (one other : String) (call called : RecordCall)
    (past theirPast : List TableStore.Deed) (others theirOthers : List (List TableStore.Deed))
    (retry : Retry) (isReady : Bool) (usages : List Usage) :
    let table := ({} : TableStore).undergoAll past
    let theirTable := ({} : TableStore).undergoAll theirPast
    let asked := Contended.client.asked one call ⟨table, others, []⟩
    let theirAsked := Contended.client.asked other called ⟨theirTable, theirOthers, []⟩
    let alone : Directory TableStore := ⟨TableStore.client.backend one, retry, table, isReady⟩
    let among : Directory Contended :=
      ⟨Contended.client.backend one, retry, ⟨table, others, []⟩, isReady⟩
    (∀ grain, (∀ c ∈ (Row.keyOf grain).toList, Legal c) ∧
      percentDecode? (Row.keyOf grain).toList = some grain) ∧
    Function.Injective Row.keyOf ∧
    ((Contended.client.noting.backend one).undergo (⟨table, others, []⟩, []) call).1 =
      (Contended.client.backend one).undergo ⟨table, others, []⟩ call ∧
    (∀ key, key ∈ asked ↔ key = (one, Row.keyOf call.grain)) ∧
    ((∃ key ∈ asked, key ∈ theirAsked) ↔ one = other ∧ call.grain = called.grain) ∧
    (one ≠ other →
      (∀ name, (alone.undergoAll usages).store.row? (other, name) = table.row? (other, name)) ∧
      ∀ moment ∈ (among.undergoAll usages).store.seen, moment.Spares other) := by
  intro table theirTable asked theirAsked alone among
  have tidy : table.Tidy := TableStore.undergoAll_tidy past TableStore.empty_tidy
  have mine : ∀ key, key ∈ asked ↔ key = (one, Row.keyOf call.grain) :=
    Contended.asked_iff past others one call
  have theirs : ∀ key, key ∈ theirAsked ↔ key = (other, Row.keyOf called.grain) :=
    Contended.asked_iff theirPast theirOthers other called
  refine ⟨fun grain => ⟨Row.keyOf_legal grain, Row.keyOf_decoded grain⟩,
    fun _ _ => TableStore.keyOf_injective, TableClient.noting_undergo .., mine, ?_, fun distinct =>
    ⟨Directory.undergoAll_row rfl tidy distinct usages,
      Directory.undergoAll_spares rfl tidy rfl distinct usages⟩⟩
  constructor
  · intro ⟨key, here, there⟩
    have same := ((mine key).mp here).symm.trans ((theirs key).mp there)
    obtain ⟨clusters, names⟩ := Prod.mk.inj same
    exact ⟨clusters, TableStore.keyOf_injective names⟩
  · intro ⟨clusters, grains⟩
    refine ⟨_, (mine _).mpr rfl, (theirs _).mpr ?_⟩
    rw [clusters, grains]

namespace Solo
open TableStore

theorem overlapping_kept_apart :
    let row : Row := .ofRecord "a-b" ⟨first, "user/1", "b"⟩
    let table := ({} : TableStore).undergoAll [.create, .insert row]
    let directory : Directory TableStore := ⟨client.backend "a", ⟨3, 100⟩, table, false⟩
    let usages : List Usage := [.one (.register (entry first "a")), .one (.lookup "user/1"),
      .unregisterMany [entry first "a", entry first "b"]]
    "a" ≠ "a-b" ∧
      (directory.undergoAll usages).store.row? ("a-b", "user%2F1") = some (row, etag 1) := by
  intro row table directory usages
  have distinct : "a" ≠ "a-b" := by decide
  have spared := (rows_kept_apart "a" "a-b" (.lookup "user/1") (.lookup "user/1")
    [.create, .insert row] [] [] [] ⟨3, 100⟩ false usages).2.2.2.2.2 distinct
  exact ⟨distinct, (spared.1 "user%2F1").trans (by decide +kernel)⟩

end Solo
end ActorDirectory
