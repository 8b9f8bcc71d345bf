import ActorDirectory.Proofs.Cluster.Forwarding

-- Each silo has its own share of a batch. The silo that is asked takes its share away and sorts
-- the rest by owner.
namespace ActorDirectory

namespace Batch

variable {owner? : Grain → Option Silo} {silo owner other : Silo} {address : Address}
  {rest addresses : List Address} {hops : UInt8}

def share (owner? : Grain → Option Silo) (silo : Silo) (addresses : List Address) : List Address :=
  addresses.filter fun address => owner? address.grain = some silo

def foreign (owner? : Grain → Option Silo) (silo : Silo) (addresses : List Address) :
    List (Silo × Address) :=
  addresses.filterMap fun address => ((owner? address.grain).filter (· ≠ silo)).map (·, address)

-- Where no hop more can be counted, nothing can be forwarded, and the first address that would
-- have to be ends the request.
def attempted (owner? : Grain → Option Silo) (silo : Silo) (hops : UInt8)
    (addresses : List Address) : List Address :=
  if hops.toNat + 1 < UInt8.size then addresses
  else addresses.takeWhile fun address => owner? address.grain = some silo

def own (owner? : Grain → Option Silo) (silo : Silo) (hops : UInt8) (addresses : List Address) :
    List Address :=
  share owner? silo (attempted owner? silo hops addresses)

theorem mem_share : address ∈ share owner? silo addresses ↔
    address ∈ addresses ∧ owner? address.grain = some silo := by
  simp [share]

theorem share_nobody (nobody : ∀ grain, owner? grain = none) (addresses : List Address) :
    share owner? silo addresses = [] := by
  simp [share, nobody]

theorem mem_own (mine : address ∈ own owner? silo hops addresses) : address ∈ addresses := by
  have attempted := (mem_share.mp mine).1
  rw [Batch.attempted] at attempted
  split at attempted
  · exact attempted
  · exact (List.takeWhile_sublist _).subset attempted

theorem own_countable (countable : hops.toNat + 1 < UInt8.size) (addresses : List Address) :
    own owner? silo hops addresses = share owner? silo addresses := by
  rw [own, attempted, if_pos countable]

theorem own_cons : own owner? silo hops (address :: rest) =
    if owner? address.grain = some silo then address :: own owner? silo hops rest
    else if hops.toNat + 1 < UInt8.size then own owner? silo hops rest
    else [] := by
  simp only [own, attempted]
  by_cases mine : owner? address.grain = some silo
  · split
    · simp [share, mine]
    · simp [share, mine]
  · split
    · simp [share, mine]
    · simp [share, mine]

theorem foreign_cons (owned : owner? address.grain = some owner) :
    foreign owner? silo (address :: rest) =
      if owner = silo then foreign owner? silo rest
      else (owner, address) :: foreign owner? silo rest := by
  rw [foreign, List.filterMap_cons, owned]
  by_cases same : owner = silo
  · simp [same, foreign, Option.filter_some]
  · simp [same, foreign, Option.filter_some]

theorem foreign_nobody (nobody : ∀ grain, owner? grain = none) (addresses : List Address) :
    foreign owner? silo addresses = [] := by
  simp [foreign, nobody]

theorem mem_foreign {pair : Silo × Address} : pair ∈ foreign owner? silo addresses ↔
    pair.2 ∈ addresses ∧ owner? pair.2.grain = some pair.1 ∧ pair.1 ≠ silo := by
  obtain ⟨owner, address⟩ := pair
  simp only [foreign, List.mem_filterMap, Option.map_eq_some_iff, Option.filter_eq_some_iff,
    Prod.mk.injEq, decide_eq_true_eq]
  constructor
  · rintro ⟨_, present, _, ⟨owned, away⟩, rfl, rfl⟩
    exact ⟨present, owned, away⟩
  · rintro ⟨present, owned, away⟩
    exact ⟨_, present, _, ⟨owned, away⟩, rfl, rfl⟩

theorem foreign_share (owner? : Grain → Option Silo) (silo other : Silo)
    (addresses : List Address) :
    ((foreign owner? silo addresses).filter (·.1 = other)).map Prod.snd =
      if other = silo then [] else share owner? other addresses := by
  induction addresses with
  | nil => simp [foreign, share]
  | cons address rest ih =>
    cases owned : owner? address.grain with
    | none => simpa [foreign, share, owned] using ih
    | some owner =>
      rw [foreign_cons owned]
      by_cases own : owner = silo
      · subst own
        rw [if_pos rfl, ih]
        split
        · rfl
        · rename_i away
          simp [share, owned, Ne.symm away]
      · by_cases here : owner = other
        · subst here
          simp [own, share, owned, ih]
        · simp [own, here, share, owned, ih]

end Batch

namespace Partition

def withdraw (partition : Partition) (addresses : List Address) : Partition :=
  addresses.foldl (fun partition address => (partition.unregister address).2) partition

end Partition

namespace Cluster

variable {cluster middle after : Cluster} {silo owner : Silo} {node : Node} {grain : Grain}
  {change next : Silo → Partition → Partition} {hops : UInt8}

def Becomes (cluster : Cluster) (change : Silo → Partition → Partition) (after : Cluster) : Prop :=
  (∃ nodes sent, after = { cluster with nodes, sent }) ∧ ∀ silo, after.nodes.get? silo =
    (cluster.nodes.get? silo).map fun node => { node with partition := change silo node.partition }

theorem becomes_sent (cluster : Cluster) (sent : List Sent) :
    cluster.Becomes (fun _ partition => partition) { cluster with sent } :=
  ⟨⟨_, _, rfl⟩, fun _ => (Option.map_id' ..).symm⟩

theorem becomes_trans (one : cluster.Becomes change middle) (two : middle.Becomes next after) :
    cluster.Becomes (fun silo partition => next silo (change silo partition)) after := by
  obtain ⟨⟨nodes, sent, rfl⟩, first⟩ := one
  obtain ⟨⟨laterNodes, laterSent, rfl⟩, second⟩ := two
  refine ⟨⟨laterNodes, laterSent, rfl⟩, fun silo => ?_⟩
  rw [second, first, Option.map_map]
  rfl

theorem becomes_congr (becomes : cluster.Becomes change after)
    (same : ∀ silo node, cluster.nodes.get? silo = some node →
      change silo node.partition = next silo node.partition) : cluster.Becomes next after := by
  obtain ⟨network, related⟩ := becomes
  refine ⟨network, fun silo => ?_⟩
  rw [related]
  cases here : cluster.nodes.get? silo with
  | none => rfl
  | some node => simp [same silo node here]

theorem becomes_node (becomes : cluster.Becomes change after)
    (here : cluster.nodes.get? silo = some node) :
    after.nodes.get? silo = some { node with partition := change silo node.partition } := by
  rw [becomes.2, here]
  rfl

theorem becomes_hash (becomes : cluster.Becomes change after) : after.hash = cluster.hash := by
  obtain ⟨⟨nodes, sent, rfl⟩, _⟩ := becomes
  rfl

theorem becomes_modify (cluster : Cluster) (silo : Silo) (change : Partition → Partition) :
    cluster.Becomes (fun other partition => if other = silo then change partition else partition)
      (cluster.modifyPartition silo change) := by
  simp only [modifyPartition, modifyNode]
  split
  · rename_i absent
    refine ⟨⟨_, _, rfl⟩, fun other => ?_⟩
    by_cases same : other = silo
    · subst same
      simp [absent]
    · simp [same]
  · rename_i node here
    refine ⟨⟨_, _, rfl⟩, fun other => ?_⟩
    by_cases same : other = silo
    · subst same
      simp [here]
    · simp [same]

theorem becomes_reach (becomes : cluster.Becomes change after)
    (reached : cluster.reach silo = .ok node) :
    after.reach silo = .ok { node with partition := change silo node.partition } := by
  obtain ⟨reachable, linked, here⟩ := reach_ok reached
  have there := becomes_node becomes here
  obtain ⟨⟨nodes, sent, rfl⟩, _⟩ := becomes
  exact reach_of reachable linked there

-- The silo runs, and the request was not forwarded too often for it to be looked at.
structure Asked (cluster : Cluster) (silo : Silo) (node : Node) (hops : UInt8) : Prop where
  here : cluster.nodes.get? silo = some node
  named : node.silo = silo
  running : node.isRunning = true
  allowed : hops ≤ cluster.settings.maxHops

theorem becomes_asked (asked : cluster.Asked silo node hops) (becomes : cluster.Becomes change after) :
    after.Asked silo { node with partition := change silo node.partition } hops := by
  have here := becomes_node becomes asked.here
  obtain ⟨⟨nodes, sent, rfl⟩, _⟩ := becomes
  exact ⟨here, asked.named, asked.running, asked.allowed⟩

theorem becomes_owner (becomes : cluster.Becomes change after) (node : Node)
    (partition : Partition) :
    { node with partition }.owner? after.hash = node.owner? cluster.hash := by
  rw [becomes_hash becomes]
  rfl

theorem asked_route (asked : cluster.Asked silo node hops)
    (owned : node.owner? cluster.hash grain = some owner) :
    node.route cluster.hash cluster.settings.maxHops grain hops =
      .ok (if owner = silo then .here else .forward owner) := by
  have allowed : ¬cluster.settings.maxHops < hops := UInt8.not_lt.mpr asked.allowed
  simp [Node.route, asked.running, allowed, owned, asked.named]

theorem owner_nobody (nobody : node.owner? cluster.hash grain = none) (other : Grain) :
    node.owner? cluster.hash other = none := by
  refine Option.eq_none_iff_forall_ne_some.mpr fun owner owned => ?_
  obtain ⟨silo, owned⟩ := Membership.owner_everywhere owned grain
  exact nomatch nobody.symm.trans owned

theorem countable_iff {room : Nat} : (hopsAt room).toNat + 1 < UInt8.size ↔ room ≠ 0 := by
  rw [hopsAt_toNat, UInt8.size]
  omega

theorem asked_lost (asked : cluster.Asked silo node hops)
    (nobody : node.owner? cluster.hash grain = none) :
    node.route cluster.hash cluster.settings.maxHops grain hops = .error .noActiveSilos := by
  have allowed : ¬cluster.settings.maxHops < hops := UInt8.not_lt.mpr asked.allowed
  simp [Node.route, asked.running, allowed, nobody]

theorem unregisterHere_becomes {room : Nat} (asked : cluster.Asked silo node (hopsAt room))
    (addresses : List Address) :
    cluster.Becomes (fun other partition =>
      if other = silo then
        partition.withdraw (Batch.own (node.owner? cluster.hash) silo (hopsAt room) addresses)
      else partition) (cluster.unregisterHere silo room addresses).2 := by
  induction addresses generalizing cluster node with
  | nil =>
    refine becomes_congr (becomes_sent cluster cluster.sent) fun other node _ => ?_
    simp [Batch.own, Batch.attempted, Batch.share, Partition.withdraw]
  | cons address rest ih =>
    rw [unregisterHere, Batch.own_cons]
    simp only [asked.here]
    cases owned : node.owner? cluster.hash address.grain with
    | none =>
      rw [asked_lost asked owned, Batch.own, Batch.share_nobody (owner_nobody owned)]
      refine becomes_congr (becomes_sent cluster cluster.sent) fun other node _ => ?_
      simp [Partition.withdraw]
    | some owner =>
      rw [asked_route asked owned]
      by_cases same : owner = silo
      · subst same
        simp only [↓reduceIte]
        have first := becomes_modify cluster owner fun partition => (partition.unregister address).2
        have later := ih (becomes_asked asked first)
        simp only [becomes_owner first] at later
        refine becomes_congr (becomes_trans first later) fun other node _ => ?_
        by_cases same : other = owner
        · simp [same, Partition.withdraw]
        · simp [same]
      · simp only [same, ↓reduceIte, Option.some.injEq, countable_iff]
        by_cases spent : room = 0
        · simp only [spent, ↓reduceIte, ne_eq, not_true_eq_false]
          refine becomes_congr (becomes_sent cluster cluster.sent) fun other node _ => ?_
          simp [Partition.withdraw]
        · simpa [spent] using ih asked

theorem unregisterHere_sorts {room : Nat} (asked : cluster.Asked silo node (hopsAt room))
    (addresses : List Address) :
    (cluster.unregisterHere silo room addresses).1 =
        .ok (Batch.foreign (node.owner? cluster.hash) silo addresses) ∨
      (∃ fault, (cluster.unregisterHere silo room addresses).1 = .error fault) ∧
        (room = 0 ∨ ∃ grain, node.owner? cluster.hash grain = none) := by
  induction addresses generalizing cluster node with
  | nil => exact .inl rfl
  | cons address rest ih =>
    rw [unregisterHere]
    simp only [asked.here]
    cases owned : node.owner? cluster.hash address.grain with
    | none =>
      rw [asked_lost asked owned]
      exact .inr ⟨⟨_, rfl⟩, .inr ⟨_, owned⟩⟩
    | some owner =>
      rw [asked_route asked owned, Batch.foreign_cons owned]
      by_cases same : owner = silo
      · subst same
        simp only [↓reduceIte]
        have first := becomes_modify cluster owner fun partition => (partition.unregister address).2
        have later := ih (becomes_asked asked first)
        simp only [becomes_owner first] at later
        exact later
      · simp only [same, ↓reduceIte]
        by_cases spent : room = 0
        · rw [if_pos spent]
          exact .inr ⟨⟨_, rfl⟩, .inl spent⟩
        · rw [if_neg spent]
          rcases ih asked with sorted | ⟨⟨fault, failed⟩, why⟩
          · exact .inl (by simp only [sorted]; rfl)
          · exact .inr ⟨⟨fault, by simp only [failed]; rfl⟩, why⟩

end Cluster
end ActorDirectory
