import ActorDirectory.Keyed
import ActorDirectory.Partition

namespace ActorDirectory

structure Cached where
  instances : List Instance
  version : Version
  inserted : Nat
  lastUse : Nat
  deriving DecidableEq, Repr

-- A bounded cache of answers. Uses are numbered from one; the index lists them from the
-- longest ago to the latest, each with its grain. Times are in milliseconds.
structure Cache where
  capacity : Nat
  ttl : Nat
  cached : Keyed Grain Cached
  recency : List (Nat × Grain)
  uses : Nat
  deriving DecidableEq

namespace Cache

def empty (capacity ttl : Nat) : Cache := ⟨capacity, ttl, .empty, [], 0⟩

def size (cache : Cache) : Nat := cache.cached.size

def isEmpty (cache : Cache) : Bool := cache.size = 0

def touch (cache : Cache) (grain : Grain) : Cache :=
  let use := cache.uses + 1
  match cache.cached.get? grain with
  | none => { cache with uses := use }
  | some item =>
    { cache with
      uses := use
      cached := cache.cached.put grain { item with lastUse := use }
      recency := cache.recency.filter (·.1 ≠ item.lastUse) ++ [(use, grain)] }

def remove (cache : Cache) (grain : Grain) : Bool × Cache :=
  match cache.cached.get? grain with
  | none => (false, cache)
  | some item =>
    (true, { cache with
      cached := cache.cached.erase grain
      recency := cache.recency.filter (·.1 ≠ item.lastUse) })

def evictOldest (cache : Cache) : Cache :=
  match cache.recency with
  | [] => cache
  | (_, grain) :: recency => { cache with cached := cache.cached.erase grain, recency }

def evict (cache : Cache) : Cache :=
  (cache.size - cache.capacity).repeat evictOldest cache

def add (cache : Cache) (now : Nat) (grain : Grain) (instances : List Instance)
    (version : Version) : Cache :=
  let cache := (cache.remove grain).2
  let item := ⟨instances, version, now, 0⟩
  evict (touch { cache with cached := cache.cached.put grain item } grain)

-- An answer is kept under the grain of its first address; an empty answer is not kept.
def addFound (cache : Cache) (now : Nat) (found : Found) : Cache :=
  match found.primary? with
  | none => cache
  | some first =>
    cache.add now first.grain (found.addresses.map Address.toInstance) found.version

-- An answer that has reached its age limit is dropped, one that is given counts as used.
def lookup (cache : Cache) (now : Nat) (grain : Grain) : Option Found × Cache :=
  match cache.cached.get? grain with
  | none => (none, cache)
  | some item =>
    if cache.ttl ≤ now - item.inserted then (none, (cache.remove grain).2)
    else (some ⟨item.instances.map (·.address grain), item.version⟩, cache.touch grain)

def invalidate (cache : Cache) (address : Address) : Bool × Cache :=
  match cache.cached.get? address.grain with
  | none => (false, cache)
  | some item =>
    if item.instances.any (·.activation = address.activation) then cache.remove address.grain
    else (false, cache)

def clear (cache : Cache) : Cache := { cache with cached := .empty, recency := [] }

end Cache
end ActorDirectory
