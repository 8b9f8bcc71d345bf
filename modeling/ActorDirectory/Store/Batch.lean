import ActorDirectory.Store.Directory

-- Many calls to one directory at once. The calls take turns in order: each goes on until it
-- has to wait, for its next attempt or for another call that makes the store ready. When the
-- delay has passed they all take another turn.
namespace ActorDirectory

inductive Phase (α : Type) where
  | waiting
  | preparing (made : Nat)
  | calling (made : Nat)
  | done (result : Except Fault α)

structure Element (σ α : Type) where
  call : Call σ BackendFault α
  phase : Phase α

structure Shared (σ : Type) where
  store : σ
  isReady : Bool
  isHeld : Bool

inductive Attempted (α : Type) where
  | done (result : Except Fault α)
  | again (made : Nat)

namespace Retry

def attempt (retry : Retry) (call : Call σ BackendFault α) : (further made : Nat) → σ →
    Attempted α × σ
  | further, made, store =>
    match call store with
    | (.ok value, store) => (.done (.ok value), store)
    | (.error fault, store) =>
      if fault.isTransient then
        match further with
        | 0 => (.done (.error (.retriesExhausted (made + 1) fault)), store)
        | further + 1 =>
          if retry.delay = 0 then attempt retry call further (made + 1) store
          else (.again (made + 1), store)
      else (.done (.error (.backend fault)), store)

def resume (retry : Retry) (call : Call σ BackendFault α) (made : Nat) (store : σ) :
    Attempted α × σ :=
  retry.attempt call (retry.further - made) made store

end Retry

namespace Phase

variable {α : Type}

def isDone : Phase α → Bool
  | done _ => true
  | _ => false

def result : Phase α → Except Fault α
  | done result => result
  | _ => .error .notRunning

end Phase

namespace Element

variable {σ α : Type}

def callStore (retry : Retry) (element : Element σ α) (made : Nat) (shared : Shared σ) :
    Element σ α × Shared σ :=
  match retry.resume element.call made shared.store with
  | (.done result, store) => ({ element with phase := .done result }, { shared with store })
  | (.again made, store) => ({ element with phase := .calling made }, { shared with store })

-- If the store cannot be made ready, this call alone fails and the next may try.
def prepare (retry : Retry) (backend : Backend σ) (element : Element σ α) (made : Nat)
    (shared : Shared σ) : Element σ α × Shared σ :=
  match retry.resume backend.prepare made shared.store with
  | (.done (.ok ()), store) => element.callStore retry 0 ⟨store, true, false⟩
  | (.done (.error fault), store) =>
    ({ element with phase := .done (.error fault) }, ⟨store, false, false⟩)
  | (.again made, store) => ({ element with phase := .preparing made }, ⟨store, false, true⟩)

def turn (retry : Retry) (backend : Backend σ) (element : Element σ α) (shared : Shared σ) :
    Element σ α × Shared σ :=
  match element.phase with
  | .done _ => (element, shared)
  | .calling made => element.callStore retry made shared
  | .preparing made => element.prepare retry backend made shared
  | .waiting =>
    if shared.isReady then element.callStore retry 0 shared
    else if shared.isHeld then (element, shared)
    else element.prepare retry backend 0 shared

end Element

namespace Batch

variable {σ α : Type}

def turns (retry : Retry) (backend : Backend σ) : List (Element σ α) → Shared σ →
    List (Element σ α) × Shared σ
  | [], shared => ([], shared)
  | element :: rest, shared =>
    let (element, shared) := element.turn retry backend shared
    let (rest, shared) := turns retry backend rest shared
    (element :: rest, shared)

def rounds (retry : Retry) (backend : Backend σ) : Nat → List (Element σ α) → Shared σ →
    List (Element σ α) × Shared σ × Nat
  | 0, elements, shared => (elements, shared, 0)
  | fuel + 1, elements, shared =>
    let (elements, shared) := turns retry backend elements shared
    if elements.all (·.phase.isDone) then (elements, shared, 0)
    else
      let (elements, shared, delays) := rounds retry backend fuel elements shared
      (elements, shared, delays + 1)

-- In each round but the last some call makes an attempt and waits.
def enough (retry : Retry) (elements : List (Element σ α)) : Nat :=
  2 * (retry.further + 1) * elements.length + 1

end Batch

namespace Directory

variable {σ α : Type}

def callMany (directory : Directory σ) (calls : List (Except Fault (Call σ BackendFault α))) :
    Timed (List (Except Fault α)) × Directory σ :=
  let elements := calls.map fun
    | .ok call => ⟨call, .waiting⟩
    | .error fault => ⟨fun store => (.error .serialization, store), .done (.error fault)⟩
  let (elements, shared, delays) := Batch.rounds directory.retry directory.backend
    (Batch.enough directory.retry elements) elements ⟨directory.store, directory.isReady, false⟩
  (⟨elements.map (·.phase.result), delays * directory.retry.delay⟩,
    { directory with store := shared.store, isReady := shared.isReady })

def addressOf (entry : Entry) : Except Fault Address := entry.toAddress.mapError .parse

def registerMany (directory : Directory σ) (entries : List Entry) :
    Timed (List Outcome) × Directory σ :=
  let (timed, next) := directory.callMany (entries.map fun entry =>
    (addressOf entry).map fun address => directory.backend.register address.toRecord)
  let outcome (entry : Entry) (result : Except Fault (Record × Version)) : Outcome :=
    match addressOf entry with
    | .error fault => .failure entry fault
    | .ok address => registered entry address result
  (⟨List.zipWith outcome entries timed.result, timed.waited⟩, next)

def unregisterMany (directory : Directory σ) (entries : List Entry) :
    Timed (List Outcome) × Directory σ :=
  let (timed, next) := directory.callMany (entries.map fun entry =>
    (addressOf entry).map fun address =>
      directory.backend.unregister address.toRecord entry.version)
  (⟨List.zipWith unregistered entries timed.result, timed.waited⟩, next)

def lookupMany (directory : Directory σ) (grains : List String) :
    Timed (List (Except Fault (Option Entry))) × Directory σ :=
  let (timed, next) := directory.callMany (grains.map fun grain =>
    .ok (directory.backend.lookup grain))
  (⟨timed.result.map found, timed.waited⟩, next)

end Directory
end ActorDirectory
