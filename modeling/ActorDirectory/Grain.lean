import ActorDirectory.Text.Split

namespace ActorDirectory
open Text

-- What an actor is, wherever it runs: its kind and a key within the kind.
-- A grain read from JSON need not be well formed.
structure Grain where
  kind : String
  key : String
  deriving DecidableEq, Repr

namespace Grain

def WellFormed (grain : Grain) : Prop :=
  grain.kind ≠ "" ∧ '/' ∉ grain.kind.toList ∧ grain.key ≠ ""

instance (grain : Grain) : Decidable grain.WellFormed :=
  inferInstanceAs (Decidable (_ ∧ _ ∧ _))

def toText (grain : Grain) : String := grain.kind ++ "/" ++ grain.key

def make? (kind key : String) : Option Grain :=
  if WellFormed ⟨kind, key⟩ then some ⟨kind, key⟩ else none

def parse? (text : String) : Option Grain := do
  let (kind, key) ← cut '/' text.toList
  make? (String.ofList kind) (String.ofList key)

def order (a b : Grain) : Ordering := (compare a.kind b.kind).then (compare a.key b.key)

end Grain
end ActorDirectory
