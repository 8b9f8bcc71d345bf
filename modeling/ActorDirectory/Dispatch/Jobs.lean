import ActorDirectory.Dispatch.Clock
import ActorDirectory.Order
import ActorDirectory.Silo

namespace ActorDirectory

-- An operation that fails a number of times and then puts others into lanes.
inductive Job where
  | mk (name : String) (failures : Nat) (follow : List (Silo × Job))

structure JobQueues where
  dispatch : Dispatch Silo Job Unit
  attempts : Nat
  delay : Nat
  isCancelled : Bool

namespace Job

def name : Job → String
  | mk name _ _ => name

def failures : Job → Nat
  | mk _ failures _ => failures

def follow : Job → List (Silo × Job)
  | mk _ _ follow => follow

mutual

def cost (attempts : Nat) : Job → Nat
  | mk _ _ follow => attempts + costs attempts follow

def costs (attempts : Nat) : List (Silo × Job) → Nat
  | [] => 0
  | (_, job) :: rest => 2 + cost attempts job + costs attempts rest

end

def perform (job : Job) (made : Nat) : Performed Silo Job Unit :=
  if made < job.failures then ⟨(), false, []⟩
  else ⟨(), true, job.follow.map fun next => .enqueue next.1 next.2⟩

end Job

namespace JobQueues

def empty (attempts delay : Nat) : JobQueues := ⟨{ world := () }, max attempts 1, delay, false⟩

def rules (queues : JobQueues) : Rules Silo Job Unit where
  attempts := queues.attempts
  delay := queues.delay
  perform := fun _ _ job made => job.perform made
  cost := fun _ _ job => job.cost queues.attempts

def enqueue (queues : JobQueues) (target : Silo) (job : Job) : JobQueues :=
  if queues.isCancelled then queues
  else { queues with dispatch := queues.dispatch.enqueue target job }

def forget (queues : JobQueues) (target : Silo) : JobQueues :=
  { queues with dispatch := queues.dispatch.close target }

def cancel (queues : JobQueues) : JobQueues :=
  { queues with dispatch := queues.dispatch.halt fun _ => true, isCancelled := true }

def quiesce (queues : JobQueues) : JobQueues :=
  { queues with dispatch := queues.dispatch.quiesce queues.rules fun _ => true }

def sleep (queues : JobQueues) (duration : Nat) : JobQueues :=
  { queues with dispatch := queues.dispatch.sleep queues.rules duration }

def attemptsAfter (queues : JobQueues) (count : Nat) : List (Silo × List (Attempt Silo Job)) :=
  Order.sortOn (·.1.rank) (Order.group Attempt.key (queues.dispatch.history.drop count))

def dropped (queues : JobQueues) : Nat := total (queues.dispatch.lanes.map Lane.dropped)

end JobQueues
end ActorDirectory
