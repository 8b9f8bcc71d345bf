import ActorDirectory.Net.Ipv6

namespace ActorDirectory

inductive Ip where
  | v4 (ip : Ipv4)
  | v6 (ip : Ipv6)
  deriving DecidableEq, Repr

namespace Ip

def parse? (text : List Char) : Option Ip :=
  match Ipv4.parse? text with
  | some ip => some (.v4 ip)
  | none => (Ipv6.parse? text).map .v6

def render : Ip → List Char
  | v4 ip => ip.render
  | v6 ip => ip.render

def toText (ip : Ip) : String := String.ofList ip.render

def family : Ip → Nat
  | v4 _ => 4
  | v6 _ => 6

def number : Ip → Nat
  | v4 ip => ip.number
  | v6 ip => ip.number

theorem number_lt (ip : Ip) : ip.number < Text.capacity 65536 8 := by
  cases ip with
  | v4 ip => exact Nat.lt_trans ip.number_lt (by decide)
  | v6 ip => exact ip.number_lt

theorem number_injective {ip other : Ip} (family : ip.family = other.family)
    (same : ip.number = other.number) : ip = other := by
  cases ip with
  | v4 ip =>
    cases other with
    | v4 other => exact congrArg v4 (Ipv4.number_injective same)
    | v6 other => cases family
  | v6 ip =>
    cases other with
    | v4 other => cases family
    | v6 other => exact congrArg v6 (Ipv6.number_injective same)

end Ip
end ActorDirectory
