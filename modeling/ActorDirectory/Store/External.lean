import ActorDirectory.Store.Batch
import ActorDirectory.Store.KeyValue
import ActorDirectory.Store.Table

namespace ActorDirectory

inductive External where
  | keyValue (directory : Directory KeyValueStore)
  | table (directory : Directory TableStore)

namespace External

def openKeyValue (cluster : String) (retry : Retry) : External :=
  .keyValue ⟨KeyValueStore.client.backend cluster, retry, {}, false⟩

def openTable (cluster : String) (retry : Retry) : External :=
  .table ⟨TableStore.client.backend cluster, retry, {}, false⟩

def use (act : {σ : Type} → Directory σ → α × Directory σ) : External → α × External
  | keyValue directory =>
    let (answer, directory) := act directory
    (answer, keyValue directory)
  | table directory =>
    let (answer, directory) := act directory
    (answer, table directory)

def register (external : External) (entry : Entry) : Timed Outcome × External :=
  external.use (·.register entry)

def unregister (external : External) (entry : Entry) : Timed Outcome × External :=
  external.use (·.unregister entry)

def lookup (external : External) (grain : String) :
    Timed (Except Fault (Option Entry)) × External :=
  external.use (·.lookup grain)

def unregisterMany (external : External) (entries : List Entry) :
    Timed (List Outcome) × External :=
  external.use (·.unregisterMany entries)

def arm (faults : Nat) : External → External
  | keyValue directory => keyValue { directory with store := { directory.store with faults } }
  | table directory => table { directory with store := { directory.store with faults } }

end External
end ActorDirectory
