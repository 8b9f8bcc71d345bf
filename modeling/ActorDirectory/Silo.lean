import ActorDirectory.Net.Ip

namespace ActorDirectory
open Text

structure Silo where
  ip : Ip
  port : UInt16
  generation : UInt32
  deriving DecidableEq, Repr

namespace Silo

-- The generation follows the last at-sign. An endpoint that opens a bracket is cut at the
-- first closing bracket with its colon, any other at its last colon.
def parse? (text : String) : Option Silo := do
  let (endpoint, generation) ← cutLast '@' text.toList
  let generation ← unsigned? UInt32.size generation
  let (ip, port) ← match endpoint with
    | '[' :: rest => cutMark [']', ':'] rest
    | _ => cutLast ':' endpoint
  let ip ← Ip.parse? ip
  let port ← unsigned? UInt16.size port
  some ⟨ip, UInt16.ofNat port, UInt32.ofNat generation⟩

def renderHost : Ip → List Char
  | .v4 ip => ip.render
  | .v6 ip => '[' :: ip.render ++ [']']

def render (silo : Silo) : List Char :=
  renderHost silo.ip ++ ':' :: decimal silo.port.toNat ++ '@' :: decimal silo.generation.toNat

def toText (silo : Silo) : String := String.ofList silo.render

def sameEndpoint (a b : Silo) : Bool := a.ip = b.ip ∧ a.port = b.port

-- A number that orders silos: every IPv4 address before every IPv6 address,
-- then address, port and generation as numbers.
def rank (silo : Silo) : Nat :=
  valueOf (capacity 65536 8) [silo.ip.family, silo.ip.number] * (UInt16.size * UInt32.size) +
    silo.port.toNat * UInt32.size + silo.generation.toNat

theorem rank_injective {a b : Silo} (same : a.rank = b.rank) : a = b := by
  obtain ⟨ip, port, generation⟩ := a
  obtain ⟨ip', port', generation'⟩ := b
  have ports := port.toNat_lt
  have ports' := port'.toNat_lt
  have generations := generation.toNat_lt
  have generations' := generation'.toNat_lt
  have numbers := ip.number_lt
  have numbers' := ip'.number_lt
  simp only [rank, valueOf, capacity, UInt16.size, UInt32.size, List.foldl_cons, List.foldl_nil,
    Nat.reduceMul] at same numbers numbers'
  have family : ip.family = ip'.family := by omega
  have number : ip.number = ip'.number := by omega
  have samePort : port.toNat = port'.toNat := by omega
  have sameGeneration : generation.toNat = generation'.toNat := by omega
  rw [Ip.number_injective family number, UInt16.toNat_inj.mp samePort,
    UInt32.toNat_inj.mp sameGeneration]

def order (a b : Silo) : Ordering := compare a.rank b.rank

end Silo
end ActorDirectory
