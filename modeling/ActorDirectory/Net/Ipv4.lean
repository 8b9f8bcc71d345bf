import ActorDirectory.Text.Split
import ActorDirectory.Text.Numeral

namespace ActorDirectory
open Text

structure Ipv4 where
  a : UInt8
  b : UInt8
  c : UInt8
  d : UInt8
  deriving DecidableEq, Repr

namespace Ipv4

def octet? (text : List Char) : Option UInt8 := do
  let digits ← digitsOf decimalDigit? text
  let value := valueOf 10 digits
  if text.length ≤ 3 ∧ (text.head? = some '0' → text.length = 1) ∧ value < 256 then
    some (UInt8.ofNat value)
  else none

def parse? (text : List Char) : Option Ipv4 :=
  match pieces '.' text with
  | [p, q, r, s] => do some ⟨← octet? p, ← octet? q, ← octet? r, ← octet? s⟩
  | _ => none

def render (ip : Ipv4) : List Char :=
  joined ['.'] ([ip.a, ip.b, ip.c, ip.d].map fun octet => decimal octet.toNat)

def number (ip : Ipv4) : Nat :=
  valueOf 256 ([ip.a, ip.b, ip.c, ip.d].map UInt8.toNat)

theorem octets_small (ip : Ipv4) :
    ∀ digit ∈ [ip.a, ip.b, ip.c, ip.d].map UInt8.toNat, digit < 256 := by
  intro digit present
  obtain ⟨octet, _, rfl⟩ := List.mem_map.mp present
  exact octet.toNat_lt

theorem number_lt (ip : Ipv4) : ip.number < UInt32.size :=
  valueOf_lt ip.octets_small

theorem number_injective {ip other : Ipv4} (same : ip.number = other.number) : ip = other := by
  have digits := valueOf_injective ip.octets_small other.octets_small rfl same
  cases ip
  cases other
  simp only [List.map_cons, List.map_nil, List.cons.injEq, UInt8.toNat_inj, and_true] at digits
  obtain ⟨rfl, rfl, rfl, rfl⟩ := digits
  rfl

def groups (ip : Ipv4) : List UInt16 :=
  [UInt16.ofNat (ip.a.toNat * 256 + ip.b.toNat), UInt16.ofNat (ip.c.toNat * 256 + ip.d.toNat)]

def ofGroups (high low : UInt16) : Ipv4 :=
  ⟨UInt8.ofNat (high.toNat / 256), UInt8.ofNat (high.toNat % 256),
    UInt8.ofNat (low.toNat / 256), UInt8.ofNat (low.toNat % 256)⟩

end Ipv4
end ActorDirectory
