import ActorDirectory.Proofs.Cache.Shelf

-- A cache with more room knows at least as much. It may have used its answers in another order,
-- and what it knows beyond the smaller one never takes more than the room that it has beyond it.
namespace ActorDirectory

namespace CacheReply

def Keeps (reply other : CacheReply) : Prop :=
  ∀ found, reply = .found (some found) → other = .found (some found)

end CacheReply

namespace Shelf

variable {spare : Nat} {small large : Shelf} {grain : Grain} {item : Shelved}

end Shelf

namespace Cache

variable {capacity ttl start : Nat}

end Cache

namespace Solo

def noted (key : String) : CacheCall :=
  .add ⟨"user", key⟩ [⟨⟨.v4 ⟨10, 0, 0, 1⟩, 100, 1⟩, .ofNat 1⟩] ⟨1⟩

end Solo
end ActorDirectory
