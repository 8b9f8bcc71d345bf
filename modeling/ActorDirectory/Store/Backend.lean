import ActorDirectory.Address

namespace ActorDirectory

-- A call that may fail. What it changed before it failed stays changed.
abbrev Call (σ ε α : Type) := σ → Except ε α × σ

structure Backend (σ : Type) where
  prepare : Call σ BackendFault Unit
  register : Record → Call σ BackendFault (Record × Version)
  -- Removes a record if it is still the one stored. A store that keeps versions also compares
  -- the version, unless it is the unknown one.
  unregister : Record → Version → Call σ BackendFault Unit
  lookup : String → Call σ BackendFault (Option (Record × Version))

structure Retry where
  attempts : Nat
  delay : Nat
  deriving DecidableEq, Repr

structure Timed (α : Type) where
  result : α
  waited : Nat
  deriving DecidableEq, Repr

namespace Retry

def further (retry : Retry) : Nat := retry.attempts - 1

def runFrom (call : Call σ BackendFault α) : (further made : Nat) → σ →
    Except Fault α × Nat × σ
  | further, made, store =>
    match call store with
    | (.ok value, store) => (.ok value, made + 1, store)
    | (.error fault, store) =>
      if fault.isTransient then
        match further with
        | 0 => (.error (.retriesExhausted (made + 1) fault), made + 1, store)
        | further + 1 => runFrom call further (made + 1) store
      else (.error (.backend fault), made + 1, store)

def run (retry : Retry) (call : Call σ BackendFault α) (store : σ) :
    Timed (Except Fault α) × σ :=
  let (result, made, store) := runFrom call retry.further 0 store
  (⟨result, (made - 1) * retry.delay⟩, store)

end Retry
end ActorDirectory
