import ActorDirectory.Json.Forms
import ActorDirectory.Keyed
import ActorDirectory.Store.Backend

namespace ActorDirectory

structure KeyValueClient (σ : Type) where
  ensureKeyspace : Call σ StoreFault Unit
  get : String → Call σ StoreFault (Option String)
  setIfAbsent : String → String → Call σ StoreFault Bool
  deleteIfEqual : String → String → Call σ StoreFault Bool

structure KeyValueStore where
  keyspace : Option (Keyed String String) := none
  ensured : Nat := 0
  faults : Nat := 0
  deriving DecidableEq

namespace KeyValueClient

variable {σ : Type}

def key (cluster grain : String) : String := cluster ++ "-" ++ grain

def decode (value : String) : Except BackendFault (Record × Version) :=
  match Record.ofJsonText? value with
  | some record => .ok (record, .unknown)
  | none => .error .serialization

-- A record that was there before is read back. That it is gone by then may pass.
def register (client : KeyValueClient σ) (cluster : String) (record : Record) :
    Call σ BackendFault (Record × Version) := fun store =>
  let key := key cluster record.grain
  match client.setIfAbsent key record.toJsonText store with
  | (.error fault, store) => (.error (.store fault), store)
  | (.ok true, store) => (.ok (record, .unknown), store)
  | (.ok false, store) =>
    match client.get key store with
    | (.error fault, store) => (.error (.store fault), store)
    | (.ok (some value), store) => (decode value, store)
    | (.ok none, store) =>
      (.error (.store (.unavailable (key ++ " vanished during registration"))), store)

def unregister (client : KeyValueClient σ) (cluster : String) (record : Record) :
    Call σ BackendFault Unit := fun store =>
  match client.deleteIfEqual (key cluster record.grain) record.toJsonText store with
  | (.error fault, store) => (.error (.store fault), store)
  | (.ok _, store) => (.ok (), store)

def lookup (client : KeyValueClient σ) (cluster grain : String) :
    Call σ BackendFault (Option (Record × Version)) := fun store =>
  match client.get (key cluster grain) store with
  | (.error fault, store) => (.error (.store fault), store)
  | (.ok none, store) => (.ok none, store)
  | (.ok (some value), store) => ((decode value).map some, store)

-- Values carry no version, so none is known and none is compared.
def backend (client : KeyValueClient σ) (cluster : String) : Backend σ where
  prepare := fun store =>
    match client.ensureKeyspace store with
    | (.error fault, store) => (.error (.store fault), store)
    | (.ok _, store) => (.ok (), store)
  register := client.register cluster
  unregister := fun record _ => client.unregister cluster record
  lookup := client.lookup cluster

end KeyValueClient

namespace KeyValueStore

def faulted (call : Call KeyValueStore StoreFault α) : Call KeyValueStore StoreFault α :=
  fun store =>
    match store.faults with
    | 0 => call store
    | faults + 1 => (.error (.unavailable "injected failure"), { store with faults })

def within (use : Keyed String String → α × Keyed String String) :
    Call KeyValueStore StoreFault α :=
  faulted fun store =>
    match store.keyspace with
    | none => (.error (.unavailable "keyspace does not exist"), store)
    | some keyspace =>
      let (answer, keyspace) := use keyspace
      (.ok answer, { store with keyspace := some keyspace })

def client : KeyValueClient KeyValueStore where
  ensureKeyspace := faulted fun store =>
    (.ok (), { store with
      keyspace := some (store.keyspace.getD .empty), ensured := store.ensured + 1 })
  get := fun key => within fun keyspace => (keyspace.get? key, keyspace)
  setIfAbsent := fun key value => within fun keyspace =>
    if keyspace.contains key then (false, keyspace) else (true, keyspace.put key value)
  deleteIfEqual := fun key expected => within fun keyspace =>
    if keyspace.get? key = some expected then (true, keyspace.erase key) else (false, keyspace)

def raw (store : KeyValueStore) (key : String) : Option String :=
  store.keyspace.bind (·.get? key)

end KeyValueStore
end ActorDirectory
