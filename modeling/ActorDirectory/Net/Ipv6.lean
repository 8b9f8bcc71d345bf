import ActorDirectory.Net.Ipv4

namespace ActorDirectory
open Text

structure Ipv6 where
  groups : List UInt16
  length_groups : groups.length = 8
  deriving DecidableEq, Repr

namespace Ipv6

def ofGroups? (groups : List UInt16) : Option Ipv6 :=
  if eight : groups.length = 8 then some ⟨groups, eight⟩ else none

def group? (text : List Char) : Option UInt16 := do
  let digits ← digitsOf hexDigit? text
  if text.length ≤ 4 then some (UInt16.ofNat (valueOf 16 digits)) else none

def groupsOf (dotted : Bool) : List (List Char) → Option (List UInt16)
  | [] => some []
  | [piece] =>
    match group? piece with
    | some group => some [group]
    | none => if dotted then (Ipv4.parse? piece).map Ipv4.groups else none
  | piece :: more => do some ((← group? piece) :: (← groupsOf dotted more))

def side (dotted : Bool) (text : List Char) : Option (List UInt16) :=
  if text = [] then some [] else groupsOf dotted (pieces ':' text)

-- A double colon stands for at least one zero group; dotted octets may only end the address.
def parse? (text : List Char) : Option Ipv6 :=
  match cutMark [':', ':'] text with
  | none => (groupsOf true (pieces ':' text)).bind ofGroups?
  | some (before, after) => do
    let head ← side false before
    let tail ← side true after
    if head.length + tail.length < 8 then
      ofGroups? (head ++ List.replicate (8 - (head.length + tail.length)) 0 ++ tail)
    else none

def zerosFrom (groups : List UInt16) (start : Nat) : Nat :=
  ((groups.drop start).takeWhile (· = 0)).length

def longestZeros (groups : List UInt16) : Nat × Nat :=
  (List.range groups.length).foldl
    (fun best start =>
      if best.2 < zerosFrom groups start then (start, zerosFrom groups start) else best)
    (0, 0)

def renderGroups (groups : List UInt16) : List Char :=
  joined [':'] (groups.map fun group => hex group.toNat)

-- An address that carries an IPv4 address is written dotted; elsewhere the longest run of
-- at least two zero groups becomes a double colon.
def render (ip : Ipv6) : List Char :=
  match ip.groups with
  | [0, 0, 0, 0, 0, 0xffff, high, low] =>
    [':', ':', 'f', 'f', 'f', 'f', ':'] ++ (Ipv4.ofGroups high low).render
  | groups =>
    let zeros := longestZeros groups
    if 1 < zeros.2 then
      renderGroups (groups.take zeros.1) ++ [':', ':'] ++
        renderGroups (groups.drop (zeros.1 + zeros.2))
    else renderGroups groups

def number (ip : Ipv6) : Nat := valueOf 65536 (ip.groups.map UInt16.toNat)

theorem groups_small (ip : Ipv6) : ∀ digit ∈ ip.groups.map UInt16.toNat, digit < 65536 := by
  intro digit present
  obtain ⟨group, _, rfl⟩ := List.mem_map.mp present
  exact group.toNat_lt

theorem number_lt (ip : Ipv6) : ip.number < capacity 65536 8 := by
  have below := valueOf_lt ip.groups_small
  simpa [number, ip.length_groups] using below

theorem number_injective {ip other : Ipv6} (same : ip.number = other.number) : ip = other := by
  have digits := valueOf_injective ip.groups_small other.groups_small
    (by simp [ip.length_groups, other.length_groups]) same
  have groups := (List.map_inj_right fun _ _ => UInt16.toNat_inj.mp).mp digits
  cases ip
  cases other
  cases groups
  rfl

end Ipv6
end ActorDirectory
