import ActorDirectory.Proofs.Store.Batches
import ActorDirectory.Proofs.Store.Contract
import ActorDirectory.Proofs.Store.Interference
import ActorDirectory.Proofs.Store.Lodging

-- What one call leaves of all that a store shows, whatever that is and whatever faults are to
-- come. A call that fails changes nothing, and one that does not changes one place at most.
namespace ActorDirectory

abbrev Shown (κ ν : Type) := κ → Option ν

namespace Shown

variable {κ ν α ε : Type} {before after : Shown κ ν} {done : α → Shown κ ν → Prop} {place : κ}

def Fills (place : κ) (before after : Shown κ ν) : Prop :=
  ∀ other, after other = before other ∨ other = place ∧ before other = none

def Empties (place : κ) (before after : Shown κ ν) : Prop :=
  ∀ other, after other = before other ∨ other = place ∧ after other = none

theorem fills_refl (place : κ) (shown : Shown κ ν) : Fills place shown shown := fun _ => .inl rfl

theorem empties_refl (place : κ) (shown : Shown κ ν) : Empties place shown shown :=
  fun _ => .inl rfl

inductive Settles (before : Shown κ ν) (done : α → Shown κ ν → Prop) :
    Except ε α → Shown κ ν → Prop where
  | failed {fault : ε} {after : Shown κ ν} : after = before →
      Settles before done (.error fault) after
  | answered {value : α} {after : Shown κ ν} : done value after →
      Settles before done (.ok value) after

def Atomic {σ : Type} (shown : σ → Shown κ ν) (before : Shown κ ν) (done : α → Shown κ ν → Prop)
    (call : Call σ ε α) : Prop :=
  ∀ store, shown store = before → Settles before done (call store).1 (shown (call store).2)

theorem settles_kept {result : Except ε α} (settles : Settles before (fun _ after => after = before)
    result after) : after = before := by
  cases settles with
  | failed same => exact same
  | answered same => exact same

end Shown

open Shown

-- The calls of a backend, by the place of each grain. What the store shows must be orderly for
-- a registration to be taken back.
structure Backend.Framed {σ κ ν : Type} (backend : Backend σ) (shown : σ → Shown κ ν)
    (place : String → κ) (Orderly : Shown κ ν → Prop) : Prop where
  prepare : ∀ store, shown (backend.prepare store).2 = shown store
  register : ∀ record before, Atomic shown before
    (fun answer after =>
      after = before ∨ answer.1 = record ∧ Fills (place record.grain) before after)
    (backend.register record)
  unregister : ∀ record version before, Orderly before →
    Atomic shown before (fun _ after => Empties (place record.grain) before after)
      (backend.unregister record version)
  lookup : ∀ grain store, shown (backend.lookup grain store).2 = shown store

namespace KeyValueStore

variable {store after : KeyValueStore}

theorem raw_same (same : after.keyspace = store.keyspace) : after.raw = store.raw := by
  funext key
  rw [raw, raw, same]

theorem register_frames (cluster : String) (record : Record) (store : KeyValueStore) :
    Settles store.raw
      (fun answer after => after = store.raw ∨
        answer.1 = record ∧ Fills (KeyValueClient.key cluster record.grain) store.raw after)
      (client.register cluster record store).1 (client.register cluster record store).2.raw := by
  have registers := register_registers cluster record store
  generalize client.register cluster record store = called at registers ⊢
  cases registers with
  | failed same => exact .failed (raw_same same)
  | found same => exact .answered (.inl (raw_same same))
  | @inserted keyspace after made absent changed =>
    refine .answered (.inr ⟨rfl, fun key => ?_⟩)
    simp only [raw, made, changed, Option.bind_some, Keyed.get?_put]
    by_cases own : key = KeyValueClient.key cluster record.grain
    · exact .inr ⟨own, own ▸ absent⟩
    · exact .inl (if_neg own)

theorem unregister_frames (cluster : String) (record : Record) (store : KeyValueStore) :
    Settles store.raw
      (fun _ after => Empties (KeyValueClient.key cluster record.grain) store.raw after)
      (client.unregister cluster record store).1
      (client.unregister cluster record store).2.raw := by
  have used := within_used (fun keyspace =>
    if keyspace.get? (KeyValueClient.key cluster record.grain) = some record.toJsonText then
      (true, keyspace.erase (KeyValueClient.key cluster record.grain))
    else (false, keyspace)) store
  simp only [KeyValueClient.unregister, client]
  generalize within _ store = called at used ⊢
  cases used with
  | failed same => exact .failed (raw_same same)
  | @used keyspace after made changed =>
    refine .answered fun key => ?_
    split at changed
    · simp only [raw, made, changed, Option.bind_some, Keyed.get?_erase]
      by_cases own : key = KeyValueClient.key cluster record.grain
      · exact .inr ⟨own, if_pos own⟩
      · exact .inl (if_neg own)
    · exact .inl (congrFun (raw_same (changed.trans made.symm)) key)

theorem lookup_raw (cluster grain : String) (store : KeyValueStore) :
    (client.lookup cluster grain store).2.raw = store.raw := by
  have used := within_used
    (fun keyspace => (keyspace.get? (KeyValueClient.key cluster grain), keyspace)) store
  simp only [KeyValueClient.lookup, client]
  generalize within _ store = called at used ⊢
  cases used with
  | failed same => exact raw_same same
  | @used keyspace after made changed =>
    have same := raw_same (changed.trans made.symm)
    cases keyspace.get? (KeyValueClient.key cluster grain) <;> exact same

theorem prepare_raw (cluster : String) (store : KeyValueStore) :
    ((client.backend cluster).prepare store).2.raw = store.raw := by
  simp only [KeyValueClient.backend, client, faulted]
  cases store.faults with
  | succ faults => rfl
  | zero =>
    funext key
    cases made : store.keyspace <;> simp [raw, made]

theorem framed (cluster : String) :
    (client.backend cluster).Framed raw (KeyValueClient.key cluster) fun _ => True where
  prepare := prepare_raw cluster
  register := fun record _ store here => here ▸ register_frames cluster record store
  unregister := fun record _ _ _ store here => here ▸ unregister_frames cluster record store
  lookup := lookup_raw cluster

end KeyValueStore

namespace TableStore

variable {store after : TableStore}

def Orderly (shown : Shown (String × String) (Row × String)) : Prop :=
  ∀ key row tag, shown key = some (row, tag) → row.keys = key

theorem shown_same (same : after.rows = store.rows) : after.row? = store.row? :=
  funext fun key => row_same same key

theorem register_frames (cluster : String) (record : Record) (store : TableStore) :
    Settles store.row?
      (fun answer after => after = store.row? ∨
        answer.1 = record ∧ Fills (cluster, Row.keyOf record.grain) store.row? after)
      (client.register cluster record store).1 (client.register cluster record store).2.row? := by
  have registers := register_registers cluster record store
  generalize client.register cluster record store = called at registers ⊢
  cases registers with
  | failed same => exact .failed (shown_same same)
  | found same => exact .answered (.inl (shown_same same))
  | @inserted rows tag after made absent changed =>
    refine .answered (.inr ⟨rfl, fun key => ?_⟩)
    rw [row_put made _ changed key]
    by_cases own : key = (cluster, Row.keyOf record.grain)
    · exact .inr ⟨own, by rw [row?, made, Option.bind_some, own, absent]⟩
    · exact .inl (if_neg own)

theorem delete_settles {row : Row} {key : String × String} (named : row.keys = key)
    (tag : String) (store : TableStore) :
    Settles store.row? (fun _ after => Empties key store.row? after)
      (TableClient.deleted (delete row.cluster row.row tag store).1)
      (delete row.cluster row.row tag store).2.row? := by
  subst named
  have used : Used _ store (delete row.cluster row.row tag store) := within_used _ store
  generalize delete row.cluster row.row tag store = called at used ⊢
  cases used with
  | @failed fault after same =>
    have kept : Empties row.keys store.row? after.row? :=
      (shown_same same).symm ▸ empties_refl _ _
    cases fault with
    | conditionNotSatisfied => exact .answered kept
    | notFound => exact .answered kept
    | alreadyExists => exact .failed (shown_same same)
    | unavailable => exact .failed (shown_same same)
  | used made served changed =>
    split at served
    · cases served
    · split at served
      · cases served
        refine .answered fun key => ?_
        simp only [row?, made, changed, Option.bind_some, Keyed.get?_erase]
        by_cases own : key = row.keys
        · exact .inr ⟨own, if_pos own⟩
        · exact .inl (if_neg own)
      · cases served

theorem unregister_frames (cluster : String) (record : Record) (version : Version)
    (orderly : Orderly store.row?) :
    Settles store.row? (fun _ after => Empties (cluster, Row.keyOf record.grain) store.row? after)
      (client.unregister cluster record version store).1
      (client.unregister cluster record version store).2.row? := by
  have readBack := read_readBack cluster (Row.keyOf record.grain) store
  simp only [TableClient.unregister, client]
  generalize read cluster (Row.keyOf record.grain) store = called at readBack ⊢
  cases readBack with
  | failed same => exact .failed (shown_same same)
  | @found middle same =>
    have kept : Empties (cluster, Row.keyOf record.grain) store.row? middle.row? :=
      (shown_same same).symm ▸ empties_refl _ _
    cases stored : store.row? (cluster, Row.keyOf record.grain) with
    | none => exact .answered kept
    | some found =>
      dsimp only
      split
      · exact .answered kept
      · split
        · exact .failed (shown_same same)
        · have settles := delete_settles (orderly _ found.1 found.2 stored) found.2 middle
          rwa [shown_same same] at settles

theorem lookup_rows (cluster grain : String) (store : TableStore) :
    (client.lookup cluster grain store).2.row? = store.row? := by
  have readBack := read_readBack cluster (Row.keyOf grain) store
  simp only [TableClient.lookup, client]
  generalize read cluster (Row.keyOf grain) store = called at readBack ⊢
  cases readBack with
  | failed same => exact shown_same same
  | found same => exact shown_same same

theorem prepare_rows (cluster : String) (store : TableStore) :
    ((client.backend cluster).prepare store).2.row? = store.row? := by
  have created := (create_rows store).1
  simp only [TableClient.backend, client]
  generalize create store = called at created ⊢
  split <;> exact created

theorem framed (cluster : String) :
    (client.backend cluster).Framed row? (fun grain => (cluster, Row.keyOf grain)) Orderly where
  prepare := prepare_rows cluster
  register := fun record _ store here => here ▸ register_frames cluster record store
  unregister := fun record version _ orderly store here => by
    subst here
    exact unregister_frames cluster record version orderly
  lookup := lookup_rows cluster

end TableStore

section Calls

variable {σ κ ν α : Type} {backend : Backend σ} {shown : σ → Shown κ ν} {before : Shown κ ν}
  {done : α → Shown κ ν → Prop} {call : Call σ BackendFault α} {place : String → κ}
  {orderly : Shown κ ν → Prop} {directory : Directory σ} {entry : Entry} {address : Address}

theorem Shown.atomic_kept (kept : ∀ store, shown (call store).2 = shown store)
    (before : Shown κ ν) : Atomic shown before (fun _ after => after = before) call := by
  intro store here
  have same := (kept store).trans here
  generalize call store = called at same ⊢
  obtain ⟨result, next⟩ := called
  cases result with
  | error => exact .failed same
  | ok => exact .answered same

namespace Retry

theorem attempts_settles (atomic : Atomic shown before done call) {store : σ}
    {result : Option α × σ} (attempts : Attempts call store result)
    (here : shown store = before) : (result.1 = none → shown result.2 = before) ∧
      ∀ value, result.1 = some value → done value (shown result.2) := by
  induction attempts with
  | @answered store _ value called =>
    have settles := atomic store here
    rw [called] at settles
    cases settles with
    | answered ends => exact ⟨nofun, fun other same => Option.some.inj same ▸ ends⟩
  | @failed store _ _ called =>
    have settles := atomic store here
    rw [called] at settles
    cases settles with
    | failed same => exact ⟨fun _ => same, nofun⟩
  | @again store _ _ _ called _ ih =>
    have settles := atomic store here
    rw [called] at settles
    cases settles with
    | failed same => exact ih same

theorem runFrom_settles (atomic : Atomic shown before done call) (further made : Nat)
    {store : σ} (here : shown store = before) :
    Settles before done (runFrom call further made store).1
      (shown (runFrom call further made store).2.2) := by
  obtain ⟨failed, answered⟩ :=
    attempts_settles atomic (runFrom_attempts call further made store) here
  generalize runFrom call further made store = ended at failed answered ⊢
  obtain ⟨result, _, after⟩ := ended
  cases result with
  | error => exact .failed (failed rfl)
  | ok value => exact .answered (answered value rfl)

end Retry

namespace Directory

theorem ensureReady_shown (framed : directory.backend.Framed shown place orderly) :
    shown directory.ensureReady.2.store = shown directory.store := by
  rw [ensureReady]
  split
  · rfl
  · exact settles_kept (Retry.runFrom_settles (Shown.atomic_kept framed.prepare _)
      directory.retry.further 0 rfl)

theorem call_settles (framed : directory.backend.Framed shown place orderly)
    (atomic : Atomic shown (shown directory.store) done call) :
    Settles (shown directory.store) done (directory.call call).1.result
      (shown (directory.call call).2.store) := by
  have readied := ensureReady_shown framed
  rw [Directory.call]
  dsimp only
  split
  · exact .failed readied
  · exact Retry.runFrom_settles atomic _ 0 readied

end Directory
end Calls

-- A call of a directory fails or sends elsewhere, and changes nothing, or it succeeds.
structure Directory.Framed {σ κ ν : Type} (shown : σ → Shown κ ν) (place : String → κ)
    (directory : Directory σ) : Prop where
  refused : ∀ entry, (directory.register entry).1.result.isSuccess = false →
    shown (directory.register entry).2.store = shown directory.store
  registered : ∀ entry, Fills (place entry.grain) (shown directory.store)
    (shown (directory.register entry).2.store)
  retained : ∀ entry, (directory.unregister entry).1.result.isSuccess = false →
    shown (directory.unregister entry).2.store = shown directory.store
  unregistered : ∀ entry, Empties (place entry.grain) (shown directory.store)
    (shown (directory.unregister entry).2.store)
  lookedUp : ∀ grain, shown (directory.lookup grain).2.store = shown directory.store

namespace Directory

variable {σ κ ν : Type} {shown : σ → Shown κ ν} {place : String → κ}
  {orderly : Shown κ ν → Prop} {directory : Directory σ}

theorem register_settles (framed : directory.backend.Framed shown place orderly) (entry : Entry) :
    shown (directory.register entry).2.store = shown directory.store ∨
      (directory.register entry).1.result.isSuccess = true ∧
        Fills (place entry.grain) (shown directory.store)
          (shown (directory.register entry).2.store) := by
  cases read : entry.toAddress with
  | error fault => simp only [register, read, true_or]
  | ok address =>
    have settles := call_settles framed (framed.register address.toRecord _)
    obtain ⟨fits, own⟩ := Entry.toAddress_fits read
    simp only [register, read]
    generalize directory.call (directory.backend.register address.toRecord) = called at settles ⊢
    obtain ⟨⟨result, waited⟩, next⟩ := called
    cases settles with
    | failed same => exact .inl same
    | @answered answer after ends =>
      obtain ⟨record, version⟩ := answer
      rcases ends with same | ⟨rfl, fills⟩
      · exact .inl same
      · refine .inr ⟨?_, own ▸ fills⟩
        simp [registered, Address.toAddress_toRecord fits, Outcome.isSuccess]

theorem unregister_settles (framed : directory.backend.Framed shown place orderly)
    (tidy : orderly (shown directory.store)) (entry : Entry) :
    shown (directory.unregister entry).2.store = shown directory.store ∨
      (directory.unregister entry).1.result.isSuccess = true ∧
        Empties (place entry.grain) (shown directory.store)
          (shown (directory.unregister entry).2.store) := by
  cases read : entry.toAddress with
  | error fault => simp only [unregister, read, true_or]
  | ok address =>
    have settles := call_settles framed (framed.unregister address.toRecord entry.version _ tidy)
    have own := (Entry.toAddress_fits read).2
    simp only [unregister, read]
    generalize directory.call
      (directory.backend.unregister address.toRecord entry.version) = called at settles ⊢
    obtain ⟨⟨result, waited⟩, next⟩ := called
    cases settles with
    | failed same => exact .inl same
    | answered empties => exact .inr ⟨rfl, own ▸ empties⟩

theorem lookup_shown (framed : directory.backend.Framed shown place orderly) (grain : String) :
    shown (directory.lookup grain).2.store = shown directory.store :=
  settles_kept (call_settles framed (Shown.atomic_kept (framed.lookup grain) _))

theorem calls_framed (framed : directory.backend.Framed shown place orderly)
    (tidy : orderly (shown directory.store)) : directory.Framed shown place where
  refused := fun entry failed => by
    rcases register_settles framed entry with same | ⟨succeeded, _⟩
    · exact same
    · cases failed.symm.trans succeeded
  registered := fun entry => by
    rcases register_settles framed entry with same | ⟨_, fills⟩
    · exact same ▸ fills_refl _ _
    · exact fills
  retained := fun entry failed => by
    rcases unregister_settles framed tidy entry with same | ⟨succeeded, _⟩
    · exact same
    · cases failed.symm.trans succeeded
  unregistered := fun entry => by
    rcases unregister_settles framed tidy entry with same | ⟨_, empties⟩
    · exact same ▸ empties_refl _ _
    · exact empties
  lookedUp := lookup_shown framed

end Directory

-- Any keyspace and any table that can come about, with anyone's values in them; whether the
-- directory has made its container ready or not.
theorem failures_change_nothing (cluster : String) (retry : Retry) (isReady : Bool)
    (store : KeyValueStore) (past : List TableStore.Deed) :
    (Directory.mk (KeyValueStore.client.backend cluster) retry store isReady).Framed
        KeyValueStore.raw (KeyValueClient.key cluster) ∧
      (Directory.mk (TableStore.client.backend cluster) retry
        (({} : TableStore).undergoAll past) isReady).Framed
          TableStore.row? fun grain => (cluster, Row.keyOf grain) := by
  refine ⟨Directory.calls_framed (KeyValueStore.framed cluster) trivial,
    Directory.calls_framed (TableStore.framed cluster) fun key row tag found => ?_⟩
  exact (TableStore.undergoAll_tidy past TableStore.empty_tidy key row tag found).1

example :
    let keyspace : Keyed String String := Keyed.empty.put "main-user/1" "corrupt"
    let directory : Directory KeyValueStore :=
      ⟨KeyValueStore.client.backend "main", ⟨3, 100⟩, ⟨some keyspace, 1, 2⟩, true⟩
    let entry := Solo.entry Solo.first "a"
    let (timed, next) := directory.register entry
    timed = ⟨.failure entry (.backend .serialization), 200⟩ ∧
      next.store.raw "main-user/1" = some "corrupt" := by
  decide +kernel

end ActorDirectory
