import ActorDirectory.Keyed
import ActorDirectory.Store.Backend
import ActorDirectory.Text.Percent

namespace ActorDirectory
open Text

structure Row where
  cluster : String
  row : String
  silo : String
  grain : String
  activation : String
  deriving DecidableEq, Repr

structure TableClient (σ : Type) where
  createTable : Call σ StoreFault Unit
  insert : Row → Call σ StoreFault String
  read : String → String → Call σ StoreFault (Option (Row × String))
  delete : String → String → String → Call σ StoreFault Unit

structure TableStore where
  rows : Option (Keyed (String × String) (Row × String)) := none
  drawn : Nat := 0
  faults : Nat := 0
  deriving DecidableEq

namespace Row

def keyOf (grain : String) : String := String.ofList (percentEncode grain.toList)

def ofRecord (cluster : String) (record : Record) : Row :=
  ⟨cluster, keyOf record.grain, record.silo, record.grain, record.activation⟩

def toRecord (row : Row) : Record := ⟨row.silo, row.grain, row.activation⟩

def keys (row : Row) : String × String := (row.cluster, row.row)

end Row

namespace TableClient

variable {σ : Type}

def register (client : TableClient σ) (cluster : String) (record : Record) :
    Call σ BackendFault (Record × Version) := fun store =>
  match client.insert (.ofRecord cluster record) store with
  | (.ok etag, store) => (.ok (record, .ofEtag etag), store)
  | (.error .alreadyExists, store) =>
    match client.read cluster (Row.keyOf record.grain) store with
    | (.error fault, store) => (.error (.store fault), store)
    | (.ok (some (row, etag)), store) => (.ok (row.toRecord, .ofEtag etag), store)
    | (.ok none, store) =>
      (.error (.store (.unavailable
        ("row for " ++ record.grain ++ " vanished during registration"))), store)
  | (.error fault, store) => (.error (.store fault), store)

-- Someone else's change between reading and deleting counts as unregistered.
def deleted : Except StoreFault Unit → Except BackendFault Unit
  | .ok () => .ok ()
  | .error .conditionNotSatisfied => .ok ()
  | .error .notFound => .ok ()
  | .error fault => .error (.store fault)

-- Only the row of the same activation is deleted, and with a known version only while it has it.
def unregister (client : TableClient σ) (cluster : String) (record : Record)
    (version : Version) : Call σ BackendFault Unit := fun store =>
  match client.read cluster (Row.keyOf record.grain) store with
  | (.error fault, store) => (.error (.store fault), store)
  | (.ok none, store) => (.ok (), store)
  | (.ok (some (row, etag)), store) =>
    if row.activation ≠ record.activation then (.ok (), store)
    else if version ≠ .unknown ∧ version ≠ .ofEtag etag then
      (.error (.store .conditionNotSatisfied), store)
    else
      let (result, store) := client.delete row.cluster row.row etag store
      (deleted result, store)

def lookup (client : TableClient σ) (cluster grain : String) :
    Call σ BackendFault (Option (Record × Version)) := fun store =>
  match client.read cluster (Row.keyOf grain) store with
  | (.error fault, store) => (.error (.store fault), store)
  | (.ok found, store) =>
    (.ok (found.map fun found => (found.1.toRecord, .ofEtag found.2)), store)

def backend (client : TableClient σ) (cluster : String) : Backend σ where
  prepare := fun store =>
    match client.createTable store with
    | (.error fault, store) => (.error (.store fault), store)
    | (.ok _, store) => (.ok (), store)
  register := client.register cluster
  unregister := client.unregister cluster
  lookup := client.lookup cluster

end TableClient

namespace TableStore

def etag (number : Nat) : String := "W/\"" ++ String.ofList (decimal number) ++ "\""

def faulted (call : Call TableStore StoreFault α) : Call TableStore StoreFault α := fun store =>
  match store.faults with
  | 0 => call store
  | faults + 1 => (.error (.unavailable "injected failure"), { store with faults })

def within (use : Keyed (String × String) (Row × String) →
    Except StoreFault (α × Keyed (String × String) (Row × String))) :
    Call TableStore StoreFault α :=
  faulted fun store =>
    match store.rows with
    | none => (.error (.unavailable "table does not exist"), store)
    | some rows =>
      match use rows with
      | .error fault => (.error fault, store)
      | .ok (answer, rows) => (.ok answer, { store with rows := some rows })

def draw (store : TableStore) : String × TableStore :=
  (etag (store.drawn + 1), { store with drawn := store.drawn + 1 })

def create : Call TableStore StoreFault Unit :=
  faulted fun store => (.ok (), { store with rows := some (store.rows.getD .empty) })

-- The e-tag is drawn first, so that a failed insertion uses one up too.
def insert (row : Row) : Call TableStore StoreFault String := fun store =>
  let (etag, store) := store.draw
  within (fun rows =>
    if rows.contains row.keys then .error .alreadyExists
    else .ok (etag, rows.put row.keys (row, etag))) store

def read (cluster row : String) : Call TableStore StoreFault (Option (Row × String)) :=
  within fun rows => .ok (rows.get? (cluster, row), rows)

def delete (cluster row etag : String) : Call TableStore StoreFault Unit :=
  within fun rows =>
    match rows.get? (cluster, row) with
    | none => .error .notFound
    | some (_, current) =>
      if current = etag then .ok ((), rows.erase (cluster, row))
      else .error .conditionNotSatisfied

def client : TableClient TableStore := ⟨create, insert, read, delete⟩

def overwrite (store : TableStore) (row : Row) : TableStore :=
  let (etag, store) := store.draw
  { store with rows := store.rows.map (·.put row.keys (row, etag)) }

end TableStore
end ActorDirectory
