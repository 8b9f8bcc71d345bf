import ActorDirectory.Proofs.Locator.Recall

-- To whoever uses it, a cache is a plain list of answers, the one used longest ago first. The
-- index, the numbers of uses and the table only serve to find the places in that list.
namespace ActorDirectory

structure Shelved where
  grain : Grain
  instances : List Instance
  version : Version
  inserted : Nat
  deriving DecidableEq, Repr

structure Shelf where
  capacity : Nat
  ttl : Nat
  items : List Shelved
  deriving DecidableEq, Repr

inductive CacheCall where
  | add (grain : Grain) (instances : List Instance) (version : Version)
  | addFound (found : Found)
  | lookup (grain : Grain)
  | remove (grain : Grain)
  | invalidate (address : Address)
  | clear
  | pass (time : Nat)

inductive CacheReply where
  | nothing
  | told (removed : Bool)
  | found (found : Option Found)
  deriving DecidableEq, Repr

structure CacheAnswer where
  reply : CacheReply
  size : Nat
  isEmpty : Bool
  deriving DecidableEq, Repr

namespace CacheCall

def passed : CacheCall → Nat
  | pass time => time
  | _ => 0

end CacheCall

namespace Shelved

def found (item : Shelved) : Found :=
  ⟨item.instances.map (·.address item.grain), item.version⟩

def names (item : Shelved) (activation : Activation) : Bool :=
  item.instances.any (·.activation = activation)

end Shelved

namespace Shelf

def empty (capacity ttl : Nat) : Shelf := ⟨capacity, ttl, []⟩

def find? (shelf : Shelf) (grain : Grain) : Option Shelved :=
  shelf.items.find? (·.grain = grain)

def without (shelf : Shelf) (grain : Grain) : Shelf :=
  { shelf with items := shelf.items.filter (·.grain ≠ grain) }

def append (shelf : Shelf) (item : Shelved) : Shelf :=
  { shelf with items := shelf.items ++ [item] }

-- Only the last items stay, as many as there is room for.
def trim (shelf : Shelf) : Shelf :=
  { shelf with items := shelf.items.drop (shelf.items.length - shelf.capacity) }

def add (shelf : Shelf) (now : Nat) (grain : Grain) (instances : List Instance)
    (version : Version) : Shelf :=
  ((shelf.without grain).append ⟨grain, instances, version, now⟩).trim

def addFound (shelf : Shelf) (now : Nat) (found : Found) : Shelf :=
  match found.addresses with
  | [] => shelf
  | first :: _ =>
    shelf.add now first.grain (found.addresses.map Address.toInstance) found.version

def lookup (shelf : Shelf) (now : Nat) (grain : Grain) : Option Found × Shelf :=
  match shelf.find? grain with
  | none => (none, shelf)
  | some item =>
    if shelf.ttl ≤ now - item.inserted then (none, shelf.without grain)
    else (some item.found, (shelf.without grain).append item)

def remove (shelf : Shelf) (grain : Grain) : Bool × Shelf :=
  ((shelf.find? grain).isSome, shelf.without grain)

def invalidate (shelf : Shelf) (address : Address) : Bool × Shelf :=
  if (shelf.find? address.grain).any (·.names address.activation) then
    (true, shelf.without address.grain)
  else (false, shelf)

def clear (shelf : Shelf) : Shelf := { shelf with items := [] }

def serve (shelf : Shelf) (now : Nat) : CacheCall → CacheReply × Shelf
  | .add grain instances version => (.nothing, shelf.add now grain instances version)
  | .addFound found => (.nothing, shelf.addFound now found)
  | .lookup grain =>
    let (found, shelf) := shelf.lookup now grain
    (.found found, shelf)
  | .remove grain =>
    let (removed, shelf) := shelf.remove grain
    (.told removed, shelf)
  | .invalidate address =>
    let (removed, shelf) := shelf.invalidate address
    (.told removed, shelf)
  | .clear => (.nothing, shelf.clear)
  | .pass _ => (.nothing, shelf)

def serveAll (shelf : Shelf) (now : Nat) : List CacheCall → List CacheAnswer × Shelf
  | [] => ([], shelf)
  | call :: rest =>
    let (reply, shelf) := shelf.serve now call
    let (answers, last) := shelf.serveAll (now + call.passed) rest
    (⟨reply, shelf.items.length, shelf.items.isEmpty⟩ :: answers, last)

end Shelf

namespace Shelf

variable {shelf : Shelf} {item : Shelved}

end Shelf

namespace Cached

def shelved (item : Cached) (grain : Grain) : Shelved :=
  ⟨grain, item.instances, item.version, item.inserted⟩

end Cached

namespace Cache

def serve (cache : Cache) (now : Nat) : CacheCall → CacheReply × Cache
  | .add grain instances version => (.nothing, cache.add now grain instances version)
  | .addFound found => (.nothing, cache.addFound now found)
  | .lookup grain =>
    let (found, cache) := cache.lookup now grain
    (.found found, cache)
  | .remove grain =>
    let (removed, cache) := cache.remove grain
    (.told removed, cache)
  | .invalidate address =>
    let (removed, cache) := cache.invalidate address
    (.told removed, cache)
  | .clear => (.nothing, cache.clear)
  | .pass _ => (.nothing, cache)

def serveAll (cache : Cache) (now : Nat) : List CacheCall → List CacheAnswer × Cache
  | [] => ([], cache)
  | call :: rest =>
    let (reply, cache) := cache.serve now call
    let (answers, last) := cache.serveAll (now + call.passed) rest
    (⟨reply, cache.size, cache.isEmpty⟩ :: answers, last)

def shelf (cache : Cache) : Shelf :=
  ⟨cache.capacity, cache.ttl, cache.recency.filterMap fun pair =>
    (cache.cached.get? pair.2).map (·.shelved pair.2)⟩

variable {cache : Cache} {capacity ttl now : Nat} {grain : Grain} {item : Cached}

example :
    let silo : Silo := ⟨.v4 ⟨10, 0, 0, 1⟩, 100, 1⟩
    let grain (key : String) : Grain := ⟨"user", key⟩
    let added (key : String) : CacheCall := .add (grain key) [⟨silo, .ofNat 1⟩] ⟨1⟩
    ((empty 2 100).serveAll 0 [added "1", added "2", .pass 60, .lookup (grain "1"), added "3",
      .lookup (grain "2"), .pass 40, .lookup (grain "1"), .lookup (grain "3")]).1.map
        (fun answer => (answer.reply matches .found (some _), answer.size)) =
      [(false, 1), (false, 2), (false, 2), (true, 2), (false, 2), (false, 2), (false, 2),
        (false, 1), (true, 1)] := by decide

end Cache
end ActorDirectory
