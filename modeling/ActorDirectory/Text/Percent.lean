import ActorDirectory.Text.Numeral

namespace ActorDirectory.Text

def isEscaped (c : Char) : Bool :=
  c = '%' ∨ c = '/' ∨ c = '\\' ∨ c = '#' ∨ c = '?' ∨ c.toNat < 0x20 ∨
    (0x7f ≤ c.toNat ∧ c.toNat < 0xa0)

def percentByte (byte : UInt8) : List Char :=
  ['%', hexUpper (byte.toNat / 16), hexUpper (byte.toNat % 16)]

def percentEncode (text : List Char) : List Char :=
  text.flatMap fun c =>
    if isEscaped c then (String.utf8EncodeChar c).flatMap percentByte else [c]

end ActorDirectory.Text
