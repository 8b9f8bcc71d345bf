import ActorDirectory.Text.Numeral

namespace ActorDirectory
open Text

structure Activation where
  bits : BitVec 128
  deriving DecidableEq, Repr

namespace Activation

def ofNat (n : Nat) : Activation := ⟨BitVec.ofNat 128 n⟩

def value (activation : Activation) : Nat := activation.bits.toNat

def parse? (text : String) : Option Activation := do
  let digits ← digitsOf hexDigit? text.toList
  if digits.length ≤ 32 then some (ofNat (valueOf 16 digits)) else none

def toText (activation : Activation) : String :=
  String.ofList (hexPadded 32 activation.value)

end Activation
end ActorDirectory
