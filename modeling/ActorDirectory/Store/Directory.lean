import ActorDirectory.Entry
import ActorDirectory.Store.Backend

namespace ActorDirectory

-- A directory kept in an external store. The store is made ready once, by the first call that
-- needs it; if that fails, the next call tries again.
structure Directory (σ : Type) where
  backend : Backend σ
  retry : Retry
  store : σ
  isReady : Bool := false

namespace Directory

variable {σ α : Type}

def ensureReady (directory : Directory σ) : Timed (Except Fault Unit) × Directory σ :=
  if directory.isReady then (⟨.ok (), 0⟩, directory)
  else
    let (timed, store) := directory.retry.run directory.backend.prepare directory.store
    (timed, { directory with store, isReady := timed.result.isOk })

def call (directory : Directory σ) (call : Call σ BackendFault α) :
    Timed (Except Fault α) × Directory σ :=
  let (readied, directory) := directory.ensureReady
  match readied.result with
  | .error fault => (⟨.error fault, readied.waited⟩, directory)
  | .ok () =>
    let (timed, store) := directory.retry.run call directory.store
    (⟨timed.result, readied.waited + timed.waited⟩, { directory with store })

def registered (entry : Entry) (address : Address) :
    Except Fault (Record × Version) → Outcome
  | .error fault => .failure entry fault
  | .ok (record, version) =>
    match record.toAddress with
    | .error fault => .failure entry (.parse fault)
    | .ok stored =>
      if stored = address then .success (.ofAddress stored version)
      else .redirect entry (.ofAddress stored version)

def unregistered (entry : Entry) : Except Fault Unit → Outcome
  | .error fault => .failure entry fault
  | .ok () => .success entry

def found : Except Fault (Option (Record × Version)) → Except Fault (Option Entry)
  | .error fault => .error fault
  | .ok none => .ok none
  | .ok (some (record, version)) =>
    match record.toAddress with
    | .error fault => .error (.parse fault)
    | .ok address => .ok (some (.ofAddress address version))

-- An entry that cannot be read is refused before the store is called.
def register (directory : Directory σ) (entry : Entry) : Timed Outcome × Directory σ :=
  match entry.toAddress with
  | .error fault => (⟨.failure entry (.parse fault), 0⟩, directory)
  | .ok address =>
    let (timed, directory) := directory.call (directory.backend.register address.toRecord)
    (⟨registered entry address timed.result, timed.waited⟩, directory)

def unregister (directory : Directory σ) (entry : Entry) : Timed Outcome × Directory σ :=
  match entry.toAddress with
  | .error fault => (⟨.failure entry (.parse fault), 0⟩, directory)
  | .ok address =>
    let (timed, directory) :=
      directory.call (directory.backend.unregister address.toRecord entry.version)
    (⟨unregistered entry timed.result, timed.waited⟩, directory)

def lookup (directory : Directory σ) (grain : String) :
    Timed (Except Fault (Option Entry)) × Directory σ :=
  let (timed, directory) := directory.call (directory.backend.lookup grain)
  (⟨found timed.result, timed.waited⟩, directory)

end Directory
end ActorDirectory
