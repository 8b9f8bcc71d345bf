import ActorDirectory.Proofs.Cluster.Reached
import Mathlib.Data.List.Chain

-- A request that silos pass on to each other comes to an end, whatever each of them believes.
namespace ActorDirectory

structure Visit where
  silo : Silo
  hops : UInt8
  deriving DecidableEq, Repr

namespace Node

theorem route_running {hash : String → UInt64} {maxHops hops : UInt8} {node : Node} {grain : Grain}
    {route : Route} (routed : node.route hash maxHops grain hops = .ok route) :
    node.isRunning = true := by
  cases running : node.isRunning with
  | true => rfl
  | false => simp [Node.route, running] at routed

end Node

namespace Cluster

variable {cluster : Cluster} {grain : Grain} {silo owner : Silo} {node : Node}
  {first last next : Visit} {trail : List Visit}

-- A silo that takes another one for the owner and reaches it passes the request on, as long as
-- one hop more can be counted. Nothing else bounds how often that happens.
inductive Passes (cluster : Cluster) (grain : Grain) : Visit → Visit → Prop where
  | forward {visit : Visit} {owner : Silo} {node target : Node} :
      cluster.nodes.get? visit.silo = some node →
      node.route cluster.hash cluster.settings.maxHops grain visit.hops = .ok (.forward owner) →
      cluster.reach owner = .ok target →
      visit.hops.toNat + 1 < UInt8.size →
      Passes cluster grain visit ⟨owner, visit.hops + 1⟩

structure Journey (cluster : Cluster) (grain : Grain) (first : Visit) (trail : List Visit) :
    Prop where
  starts : trail.head? = some first
  passes : trail.IsChain (cluster.Passes grain)
  ends : ∀ last ∈ trail.getLast?, ∀ next, ¬cluster.Passes grain last next

theorem passes_hops (passes : cluster.Passes grain first next) :
    next.hops.toNat = first.hops.toNat + 1 ∧
      first.hops.toNat ≤ cluster.settings.maxHops.toNat := by
  cases passes with
  | forward here routed reached countable =>
    refine ⟨?_, ?_⟩
    · rw [UInt8.toNat_add]
      exact Nat.mod_eq_of_lt countable
    · rw [Node.route] at routed
      split at routed
      · cases routed
      · split at routed
        · cases routed
        · rename_i allowed
          exact UInt8.le_iff_toNat_le.mp (UInt8.not_lt.mp allowed)

-- The count of hops rises from visit to visit, and a silo that is called past the limit passes
-- nothing on.
theorem passes_bounded (starts : trail.head? = some first)
    (passes : trail.IsChain (cluster.Passes grain)) :
    trail.length ≤ max 1 (cluster.settings.maxHops.toNat + 2 - first.hops.toNat) ∧
      ∀ number visit, trail[number]? = some visit →
        visit.hops.toNat = first.hops.toNat + number := by
  induction trail generalizing first with
  | nil => cases starts
  | cons visit rest ih =>
    obtain rfl : visit = first := Option.some.inj starts
    cases rest with
    | nil =>
      refine ⟨Nat.le_max_left .., fun number later found => ?_⟩
      cases number with
      | zero => rw [Option.some.inj found, Nat.add_zero]
      | succ number => cases found
    | cons second rest =>
      obtain ⟨one, others⟩ := List.isChain_cons_cons.mp passes
      obtain ⟨raised, allowed⟩ := passes_hops one
      obtain ⟨short, counted⟩ := ih rfl others
      refine ⟨?_, fun number later found => ?_⟩
      · simp only [List.length_cons] at short ⊢
        omega
      · cases number with
        | zero => rw [Option.some.inj found, Nat.add_zero]
        | succ number => rw [counted number later found, raised, Nat.add_assoc, Nat.add_comm 1]

theorem hopsAt_toNat (room : Nat) : (hopsAt room).toNat = 255 - room :=
  UInt8.toNat_ofNat_of_lt' (by simp only [UInt8.size]; omega)

theorem hopsAt_roomAt (hops : UInt8) : hopsAt (roomAt hops) = hops := by
  have small := hops.toNat_lt
  apply UInt8.toNat_inj.mp
  rw [hopsAt_toNat, roomAt]
  omega

theorem hopsAt_succ {room : Nat} (small : room + 1 ≤ 255) :
    hopsAt (room + 1) + 1 = hopsAt room := by
  apply UInt8.toNat_inj.mp
  rw [UInt8.toNat_add, hopsAt_toNat, hopsAt_toNat, UInt8.toNat_one]
  omega

inductive Travels (cluster : Cluster) (grain : Grain) :
    Nat → Node → List Leg → Except Fault Silo → Prop where
  | lost {room : Nat} {node : Node} {fault : Fault} :
      node.route cluster.hash cluster.settings.maxHops grain (hopsAt room) = .error fault →
      Travels cluster grain room node [] (.error fault)
  | here {room : Nat} {node : Node} :
      node.route cluster.hash cluster.settings.maxHops grain (hopsAt room) = .ok .here →
      Travels cluster grain room node [] (.ok node.silo)
  | countless {node : Node} {owner : Silo} :
      node.route cluster.hash cluster.settings.maxHops grain (hopsAt 0) = .ok (.forward owner) →
      Travels cluster grain 0 node [] (.error (.tooManyHops grain.toText (hopsAt 0)))
  | unreached {room : Nat} {node : Node} {owner : Silo} {fault : Fault} :
      node.route cluster.hash cluster.settings.maxHops grain (hopsAt (room + 1)) =
        .ok (.forward owner) →
      cluster.reach owner = .error fault →
      Travels cluster grain (room + 1) node [⟨node.silo, owner, hopsAt room⟩] (.error fault)
  | onward {room : Nat} {node target : Node} {owner : Silo} {legs : List Leg}
      {ending : Except Fault Silo} :
      node.route cluster.hash cluster.settings.maxHops grain (hopsAt (room + 1)) =
        .ok (.forward owner) →
      cluster.reach owner = .ok target →
      Travels cluster grain room target legs ending →
      Travels cluster grain (room + 1) node (⟨node.silo, owner, hopsAt room⟩ :: legs) ending

theorem travel_travels (cluster : Cluster) (grain : Grain) (room : Nat) (node : Node) :
    cluster.Travels grain room node (cluster.travel grain room node).1
      (cluster.travel grain room node).2 := by
  induction room generalizing node with
  | zero =>
    rw [travel]
    split
    · rename_i routed
      exact .lost routed
    · rename_i routed
      exact .here routed
    · rename_i routed
      exact .countless routed
  | succ room ih =>
    rw [travel]
    split
    · rename_i routed
      exact .lost routed
    · rename_i routed
      exact .here routed
    · rename_i routed
      dsimp only
      split
      · rename_i reached
        exact .unreached routed reached
      · rename_i reached
        exact .onward routed reached (ih _)

def arrivals (cluster : Cluster) (legs : List Leg) : List Visit :=
  (legs.filter fun leg => (cluster.reach leg.target).isOk).map fun leg => ⟨leg.target, leg.hops⟩

theorem arrivals_reached {leg : Leg} {target : Node} (legs : List Leg)
    (reached : cluster.reach leg.target = .ok target) :
    cluster.arrivals (leg :: legs) = ⟨leg.target, leg.hops⟩ :: cluster.arrivals legs := by
  simp [arrivals, reached, Except.isOk, Except.toBool]

theorem arrivals_unreached {leg : Leg} {fault : Fault} (legs : List Leg)
    (unreached : cluster.reach leg.target = .error fault) :
    cluster.arrivals (leg :: legs) = cluster.arrivals legs := by
  simp [arrivals, unreached, Except.isOk, Except.toBool]

theorem journey_last (stays : ∀ next, ¬cluster.Passes grain first next) :
    cluster.Journey grain first [first] where
  starts := rfl
  passes := .singleton first
  ends := fun _ same => Option.some.inj same ▸ stays

theorem journey_passed (passes : cluster.Passes grain first next)
    (journey : cluster.Journey grain next (next :: trail)) :
    cluster.Journey grain first (first :: next :: trail) where
  starts := rfl
  passes := .cons_cons passes journey.passes
  ends := journey.ends

theorem passes_routed {hops : UInt8} (here : cluster.nodes.get? silo = some node)
    (passes : cluster.Passes grain ⟨silo, hops⟩ next) : ∃ owner target,
      node.route cluster.hash cluster.settings.maxHops grain hops = .ok (.forward owner) ∧
        cluster.reach owner = .ok target ∧ hops.toNat + 1 < UInt8.size := by
  cases passes with
  | forward there routed reached countable =>
    cases here.symm.trans there
    exact ⟨_, _, routed, reached, countable⟩

theorem travels_journey (named : cluster.Named) {room : Nat} {legs : List Leg}
    {ending : Except Fault Silo} (travels : cluster.Travels grain room node legs ending)
    (small : room ≤ 255) (here : cluster.nodes.get? node.silo = some node) :
    cluster.Journey grain ⟨node.silo, hopsAt room⟩
      (⟨node.silo, hopsAt room⟩ :: cluster.arrivals legs) := by
  induction travels with
  | lost routed =>
    refine journey_last fun next passes => ?_
    obtain ⟨owner, _, forwards, _⟩ := passes_routed here passes
    exact nomatch routed.symm.trans forwards
  | here routed =>
    refine journey_last fun next passes => ?_
    obtain ⟨owner, _, forwards, _⟩ := passes_routed here passes
    exact nomatch routed.symm.trans forwards
  | countless routed =>
    refine journey_last fun next passes => ?_
    obtain ⟨_, _, _, _, countable⟩ := passes_routed here passes
    exact absurd countable (by decide)
  | unreached routed unreached =>
    rw [arrivals_unreached [] unreached]
    refine journey_last fun next passes => ?_
    obtain ⟨owner, target, forwards, reached, _⟩ := passes_routed here passes
    cases routed.symm.trans forwards
    exact nomatch unreached.symm.trans reached
  | @onward room node target owner legs ending routed reached _ ih =>
    have there := (reach_ok reached).2.2
    have name : target.silo = owner := named _ _ there
    have passes : cluster.Passes grain ⟨node.silo, hopsAt (room + 1)⟩ ⟨owner, hopsAt room⟩ := by
      rw [← hopsAt_succ small]
      exact .forward here routed reached (by rw [hopsAt_toNat, UInt8.size]; omega)
    have later := ih (by omega) (name ▸ there)
    rw [name] at later
    rw [arrivals_reached legs reached]
    exact journey_passed passes later

-- The silo that a request ends at answers it: the last one called, which runs and owns the grain
-- as far as it knows.
structure AnsweredBy (cluster : Cluster) (grain : Grain) (trail : List Visit) (owner : Silo)
    (node : Node) : Prop where
  last : trail.getLast?.map Visit.silo = some owner
  here : cluster.nodes.get? owner = some node
  running : node.isRunning = true
  owns : node.owns cluster.hash grain = true

theorem travels_answered (named : cluster.Named) {room : Nat} {legs : List Leg}
    (travels : cluster.Travels grain room node legs (.ok owner))
    (here : cluster.nodes.get? node.silo = some node) :
    ∃ answering, cluster.AnsweredBy grain (⟨node.silo, hopsAt room⟩ :: cluster.arrivals legs) owner
      answering := by
  generalize ended : Except.ok owner = ending at travels
  induction travels with
  | lost routed => cases ended
  | @here room node routed =>
    cases ended
    exact ⟨node, rfl, here, Node.route_running routed, Node.route_here routed⟩
  | countless routed => cases ended
  | unreached routed unreached => cases ended
  | @onward room node target other legs ending routed reached _ ih =>
    have there := (reach_ok reached).2.2
    have name : target.silo = other := named _ _ there
    obtain ⟨answering, answered⟩ := ih (name ▸ there) ended
    refine ⟨answering, ?_, answered.here, answered.running, answered.owns⟩
    rw [arrivals_reached legs reached, List.getLast?_cons_cons, ← name]
    exact answered.last

def visits (cluster : Cluster) (silo : Silo) (grain : Grain) (hops : UInt8) : List Visit :=
  ⟨silo, hops⟩ :: cluster.arrivals (cluster.travelFrom silo grain hops).1

theorem visits_journey (named : cluster.Named) (silo : Silo) (grain : Grain) (hops : UInt8) :
    cluster.Journey grain ⟨silo, hops⟩ (cluster.visits silo grain hops) := by
  rw [visits, travelFrom]
  cases here : cluster.nodes.get? silo with
  | none =>
    refine journey_last fun next passes => ?_
    cases passes with
    | forward there => cases here.symm.trans there
  | some node =>
    have name := named _ _ here
    have journey := travels_journey named (travel_travels cluster grain (roomAt hops) node)
      (Nat.sub_le ..) (name.symm ▸ here)
    rwa [name, hopsAt_roomAt] at journey

theorem visits_answered (named : cluster.Named) {hops : UInt8}
    (ended : (cluster.travelFrom silo grain hops).2 = .ok owner) :
    ∃ node, cluster.AnsweredBy grain (cluster.visits silo grain hops) owner node := by
  rw [visits]
  simp only [travelFrom] at ended ⊢
  cases here : cluster.nodes.get? silo with
  | none => simp [here] at ended
  | some node =>
    simp only [here] at ended ⊢
    have name := named _ _ here
    have travels := travel_travels cluster grain (roomAt hops) node
    rw [ended] at travels
    have answered := travels_answered named travels (name.symm ▸ here)
    rwa [name, hopsAt_roomAt] at answered

inductive MadeAlong (cluster : Cluster) (address : Address) (single : Bool) (trail : List Visit) :
    Except Fault Tagged × Cluster → Prop where
  | failed {fault : Fault} {after : Cluster} : after.nodes = cluster.nodes →
      MadeAlong cluster address single trail (.error fault, after)
  | made {owner : Silo} {node : Node} {after : Cluster} :
      cluster.AnsweredBy address.grain trail owner node →
      (∀ other, after.nodes.get? other =
        if other = owner then
          some { node with partition := (node.partition.register address single).2 }
        else cluster.nodes.get? other) →
      MadeAlong cluster address single trail
        (.ok (node.partition.register address single).1, after)

inductive FoundAlong (cluster : Cluster) (grain : Grain) (trail : List Visit) :
    Except Fault (Option Found) × Cluster → Prop where
  | failed {fault : Fault} {after : Cluster} : after.nodes = cluster.nodes →
      FoundAlong cluster grain trail (.error fault, after)
  | found {owner : Silo} {node : Node} {after : Cluster} :
      cluster.AnsweredBy grain trail owner node → after.nodes = cluster.nodes →
      FoundAlong cluster grain trail (.ok (node.partition.lookup grain), after)

theorem made_nothing {address : Address} {single : Bool} {result : Except Fault Tagged × Cluster}
    {fault : Fault} (made : cluster.MadeAlong address single trail result)
    (failed : result.1 = .error fault) : result.2.nodes = cluster.nodes := by
  cases made with
  | failed unchanged => exact unchanged
  | made => cases failed

theorem register_ends (named : cluster.Named) (silo : Silo) (address : Address) (single : Bool)
    (hops : UInt8) : cluster.MadeAlong address single (cluster.visits silo address.grain hops)
      (cluster.register silo address single hops) := by
  obtain ⟨sent, sending⟩ := sendAlong_sent cluster (cluster.travelFrom silo address.grain hops).1
    (.register address single)
  cases ended : (cluster.travelFrom silo address.grain hops).2 with
  | error fault =>
    simp only [register, ended, sending]
    exact .failed rfl
  | ok owner =>
    obtain ⟨node, answered⟩ := visits_answered named ended
    simp only [register, ended, sending, answered.here]
    refine .made answered fun other => ?_
    simp only [modifyPartition, modifyNode, answered.here, Keyed.get?_put]

theorem lookup_ends (named : cluster.Named) (silo : Silo) (grain : Grain) (hops : UInt8) :
    cluster.FoundAlong grain (cluster.visits silo grain hops)
      (cluster.lookup silo grain hops) := by
  obtain ⟨sent, sending⟩ := sendAlong_sent cluster (cluster.travelFrom silo grain hops).1
    (.lookup grain)
  cases ended : (cluster.travelFrom silo grain hops).2 with
  | error fault =>
    simp only [lookup, ended, sending]
    exact .failed rfl
  | ok owner =>
    obtain ⟨node, answered⟩ := visits_answered named ended
    simp only [lookup, ended, sending, answered.here, Option.bind_some]
    exact .found answered rfl

-- However the silos disagree, no way on is longer than the limit allows, and no count of hops
-- wraps around. A request goes such a way to its end, and there it is answered or fails.
theorem forwarding_ends (named : cluster.Named) (silo : Silo) (address : Address) (single : Bool)
    (hops : UInt8) :
    (∀ trail : List Visit, trail.head? = some ⟨silo, hops⟩ →
      trail.IsChain (cluster.Passes address.grain) →
        trail.length ≤ max 1 (cluster.settings.maxHops.toNat + 2 - hops.toNat) ∧
          ∀ number visit, trail[number]? = some visit →
            visit.hops.toNat = hops.toNat + number) ∧
    cluster.Journey address.grain ⟨silo, hops⟩ (cluster.visits silo address.grain hops) ∧
    cluster.MadeAlong address single (cluster.visits silo address.grain hops)
      (cluster.register silo address single hops) ∧
    cluster.FoundAlong address.grain (cluster.visits silo address.grain hops)
      (cluster.lookup silo address.grain hops) :=
  ⟨fun _ starts passes => passes_bounded starts passes, visits_journey named silo _ hops,
    register_ends named silo address single hops, lookup_ends named silo _ hops⟩

end Cluster

namespace Duo

def crossed : World :=
  (World.empty Xxh3.hashText settings).play [.start first, .start second,
    .apply first (listed 1 .shuttingDown .active), .apply second (listed 1 .active .shuttingDown)]

def bounces : List Visit := [⟨first, 0⟩, ⟨second, 1⟩, ⟨first, 2⟩, ⟨second, 3⟩, ⟨first, 4⟩]

theorem bounced_ends : crossed.cluster.Named ∧
    crossed.cluster.Journey grain ⟨first, 0⟩ bounces ∧
    bounces.length = max 1 (crossed.cluster.settings.maxHops.toNat + 2 - (0 : UInt8).toNat) ∧
    (crossed.cluster.register first (runningOn first) true 0).1 =
      .error (.tooManyHops "user/1" 4) ∧
    (crossed.cluster.register first (runningOn first) true 0).2.nodes = crossed.cluster.nodes := by
  have named : crossed.cluster.Named :=
    (World.play_sound (World.empty_sound Xxh3.hashText (by decide)) _).named
  have called : crossed.cluster.visits first grain 0 = bounces := by decide +kernel
  have failed : (crossed.cluster.register first (runningOn first) true 0).1 =
      .error (.tooManyHops "user/1" 4) := by decide +kernel
  obtain ⟨_, journey, made, _⟩ :=
    Cluster.forwarding_ends named first (runningOn first) true 0
  exact ⟨named, called ▸ journey, rfl, failed, Cluster.made_nothing made failed⟩

end Duo
end ActorDirectory
