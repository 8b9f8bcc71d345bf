import ActorDirectory.Proofs.Cluster.Reached
import Mathlib.Data.List.Induction

-- A hand-over is taken in without asking whether its grains are the silo's own. This is what
-- it takes for a silo to hold a grain that belongs to another.
namespace ActorDirectory

namespace Node

variable {hash : String → UInt64} {settings : Settings} {node : Node} {snapshot : Snapshot}
  {grain : Grain}

def Astray (hash : String → UInt64) (grain : Grain) (node : Node) : Prop :=
  (node.partition.roster? grain).isSome = true ∧ node.owns hash grain = false

theorem apply_astray (made : node.membership.Made hash settings.bucketsPerSilo) :
    (node.apply hash settings snapshot).1.Astray hash grain ↔
      node.adopts? hash settings snapshot = none ∧ node.Astray hash grain := by
  have named : (node.apply hash settings snapshot).1.silo = node.silo := apply_frame.1
  cases adopted : node.adopts? hash settings snapshot with
  | none =>
    have same : (node.apply hash settings snapshot).1.partition = node.partition := by
      rw [apply_partition, adopted]
    simp only [Astray, owns, same, named, apply_owner made adopted, true_and]
  | some current =>
    simp only [reduceCtorEq, false_and, iff_false, Astray, not_and, Bool.not_eq_false]
    intro present
    rw [apply_partition, adopted] at present
    rw [Partition.retain_roster] at present
    obtain ⟨kept, found⟩ := Option.isSome_iff_exists.mp present
    obtain ⟨roster, _, left⟩ := Option.bind_eq_some_iff.mp found
    obtain ⟨someone, _⟩ := Roster.keep_eq_some.mp left
    obtain ⟨inst, stays⟩ := List.exists_mem_of_ne_nil _ someone
    have owned := (List.mem_filter.mp stays).2
    simp only [Bool.and_eq_true, decide_eq_true_eq] at owned
    have membership : (node.apply hash settings snapshot).1.membership = current := by
      rw [apply_membership, (adopts_eq_some.mp adopted).1]
      rfl
    simp [owns, owner?, membership, named, owned.1]

end Node

namespace World

variable {world : World} {action : Action} {silo : Silo} {grain : Grain} {before after node : Node}

def HoldsAstray (world : World) (silo : Silo) (grain : Grain) : Prop :=
  ∃ node, world.node? silo = some node ∧ node.Astray world.cluster.hash grain

def ArrivesAstray (world : World) (action : Action) (silo : Silo) (grain : Grain) : Prop :=
  ∃ node single multi, world.node? silo = some node ∧
    world.effect? action = some (node, .accept single multi) ∧
    (∃ address ∈ single ++ multi, address.grain = grain) ∧
    node.owns world.cluster.hash grain = false

def Sweeps (world : World) (action : Action) (silo : Silo) : Prop :=
  action.IsStart silo ∨ ∃ node snapshot current, world.node? silo = some node ∧
    world.effect? action = some (node, .follow snapshot) ∧
    node.adopts? world.cluster.hash world.cluster.settings snapshot = some current

-- A hand-over of the grain came to the wrong silo, which was not swept since.
inductive Strayed (start : World) (silo : Silo) (grain : Grain) : List Action → Prop where
  | arrived {run : List Action} {action : Action} :
      (start.play run).ArrivesAstray action silo grain → Strayed start silo grain (run ++ [action])
  | stayed {run : List Action} {action : Action} : Strayed start silo grain run →
      ¬(start.play run).Sweeps action silo → Strayed start silo grain (run ++ [action])

theorem strayed_concat {run : List Action} : Strayed world silo grain (run ++ [action]) ↔
    (world.play run).ArrivesAstray action silo grain ∨
      Strayed world silo grain run ∧ ¬(world.play run).Sweeps action silo := by
  constructor
  · intro strayed
    generalize equal : run ++ [action] = whole at strayed
    cases strayed with
    | arrived arrives =>
      obtain ⟨rfl, last⟩ := List.append_inj' equal rfl
      cases last
      exact .inl arrives
    | stayed strayed unswept =>
      obtain ⟨rfl, last⟩ := List.append_inj' equal rfl
      cases last
      exact .inr ⟨strayed, unswept⟩
  · rintro (arrives | ⟨strayed, unswept⟩)
    · exact .arrived arrives
    · exact .stayed strayed unswept

theorem act_astray (sound : world.Sound) (action : Action) :
    (world.act action).HoldsAstray silo grain ↔
      world.ArrivesAstray action silo grain ∨
        world.HoldsAstray silo grain ∧ ¬world.Sweeps action silo := by
  have hash := (act_settings sound.named action).1
  cases here : world.node? silo with
  | none =>
    simp only [HoldsAstray, ArrivesAstray, here, reduceCtorEq, false_and, exists_false, or_false,
      iff_false, not_exists, not_and]
    intro after found astray
    cases act_comes sound.named found with
    | fresh _ same => exact absurd astray.1 (by simp [same])
    | affected before => rw [here] at before; cases before
    | kept before => rw [here] at before; cases before
  | some before =>
    obtain ⟨after, found⟩ := act_present sound.named action here
    simp only [HoldsAstray, ArrivesAstray, Sweeps, here, found, hash, Option.some.injEq,
      exists_eq_left', ↓existsAndEq, true_and]
    cases act_comes sound.named found with
    | fresh started same =>
      have clear : ∀ effect, world.effect? action ≠ some (before, effect) :=
        fun _ affected => effect_going affected started
      simp [same, started, clear, Node.Astray]
    | affected earlier affected same =>
      rename_i effect
      rw [here] at earlier
      cases earlier
      have going : ¬action.IsStart silo := effect_going affected
      simp only [affected, going, false_or, Option.some.injEq, Prod.mk.injEq, true_and]
      cases effect with
      | follow snapshot =>
        rw [same, Node.undergo, Node.apply_astray (sound.made silo _ here)]
        simp [Option.eq_none_iff_forall_not_mem, and_comm]
      | accept single multi =>
        have taken : after.Astray world.cluster.hash grain ↔
            ((before.partition.roster? grain).isSome = true ∨
              ∃ address ∈ single ++ multi, address.grain = grain) ∧
            before.owns world.cluster.hash grain = false := by
          rw [same]
          exact and_congr_left fun _ => Partition.accept_known
        rw [taken, or_and_right]
        simp only [Node.Astray, reduceCtorEq, false_and, exists_false, not_false_eq_true,
          and_true, Effect.accept.injEq, and_assoc, exists_and_left, exists_eq_left']
        exact or_comm
      | destroy addresses =>
        have unchanged : after.Astray world.cluster.hash grain ↔
            before.Astray world.cluster.hash grain := by
          rw [same]
          exact Iff.rfl
        simp [unchanged]
    | kept earlier going clear kept =>
      rw [here] at earlier
      cases earlier
      simp only [clear, going, false_and, exists_false, or_false, false_or, not_false_eq_true,
        and_true]
      simp only [Node.Astray, Node.owns, Node.owner?, kept.membership, kept.silo]
      refine and_congr_left fun other => ?_
      rw [kept.rosters grain other]

theorem play_astray (sound : world.Sound) (clear : ¬world.HoldsAstray silo grain)
    (run : List Action) :
    (world.play run).HoldsAstray silo grain ↔ Strayed world silo grain run := by
  induction run using List.reverseRecOn with
  | nil =>
    refine iff_of_false clear fun strayed => ?_
    generalize equal : ([] : List Action) = whole at strayed
    cases strayed <;> simp at equal
  | append_singleton run action ih =>
    rw [play_concat, act_astray (play_sound sound run), ih, strayed_concat]

-- Where the running silos agree, a silo has entries only for what is its own, unless a grain
-- strayed to it.
theorem authority_unless_strayed {hash : String → UInt64} {settings : Settings}
    (valid : settings.problems = []) {run : List Action}
    (reached : (empty hash settings).play run = world) {snapshot : Snapshot}
    (agreed : world.Agrees snapshot) :
    (∀ silo node, world.node? silo = some node → node.isRunning = true → ∀ grain,
      (world.Lists silo grain → world.ownerIn snapshot grain = some silo) ↔
        ¬Strayed (empty hash settings) silo grain run) ∧
    ∀ grain, (∀ silo, ¬Strayed (empty hash settings) silo grain run) → ∀ one other,
      world.Lists one grain → world.Lists other grain → one = other := by
  have initially := empty_sound hash valid
  have sound : world.Sound := reached ▸ play_sound initially run
  have owns : ∀ silo node, world.node? silo = some node → node.isRunning = true → ∀ grain,
      (world.Lists silo grain → world.ownerIn snapshot grain = some silo) ↔
        ¬Strayed (empty hash settings) silo grain run := by
    intro silo node here running grain
    have absent : ¬(empty hash settings).HoldsAstray silo grain := by
      rintro ⟨_, nowhere, _⟩
      cases nowhere
    have owner : node.owner? world.cluster.hash grain = world.ownerIn snapshot grain := by
      rw [Node.owner?, agreed silo node here running, ownerIn, Cluster.ownerIn]
    rw [← play_astray initially absent run, reached]
    simp only [HoldsAstray, Lists, here, Option.some.injEq, exists_eq_left', running, true_and,
      Node.Astray, Node.owns, owner, sound.named silo node here, decide_eq_false_iff_not, not_and,
      Decidable.not_not]
  refine ⟨owns, fun grain unstrayed one other first second => ?_⟩
  have owned : ∀ silo, world.Lists silo grain → world.ownerIn snapshot grain = some silo := by
    intro silo lists
    have holds := lists
    obtain ⟨node, here, running, _⟩ := holds
    exact (owns silo node here running grain).mpr (unstrayed silo) lists
  exact Option.some.inj ((owned one first).symm.trans (owned other second))

end World

namespace Duo

def overtaken : List Action :=
  opening (listed 1 .active .joining) first ++
    [.apply second (listed 2 .shuttingDown .active), .apply second (listed 3 .active .shuttingDown),
      .apply first (listed 2 .shuttingDown .active), .turn 0,
      .apply first (listed 3 .active .shuttingDown), .turn 1]

def overtakenWorld : World := (World.empty Xxh3.hashText settings).play overtaken

theorem overtaken_agrees : overtakenWorld.Agrees (listed 3 .active .shuttingDown) := by
  have each : ∀ pair ∈ overtakenWorld.cluster.nodes.pairs, pair.2.membership =
      .ofSnapshot overtakenWorld.cluster.hash overtakenWorld.cluster.settings.bucketsPerSilo
        (listed 3 .active .shuttingDown) := by
    decide +kernel
  exact fun silo node here _ => each _ (Keyed.mem_of_get? here)

theorem overtaken_lists (silo : Silo) (known : silo ∈ [first, second]) :
    overtakenWorld.Lists silo grain := by
  have both : ∀ silo ∈ [first, second], ∃ node ∈ overtakenWorld.node? silo,
      node.isRunning = true ∧ (node.partition.roster? grain).isSome = true := by
    decide +kernel
  obtain ⟨node, here, holds⟩ := both silo known
  exact ⟨node, here, holds⟩

theorem overtaken_strayed : overtakenWorld.Agrees (listed 3 .active .shuttingDown) ∧
    overtakenWorld.Lists first grain ∧ overtakenWorld.Lists second grain ∧
    World.Strayed (World.empty Xxh3.hashText settings) second grain overtaken := by
  refine ⟨overtaken_agrees, overtaken_lists first (by simp), overtaken_lists second (by simp), ?_⟩
  obtain ⟨node, here, running, _⟩ := overtaken_lists second (by simp)
  have owned : overtakenWorld.ownerIn (listed 3 .active .shuttingDown) grain = some first := by
    decide +kernel
  have played : (World.empty Xxh3.hashText settings).play overtaken = overtakenWorld := rfl
  have exactly := (World.authority_unless_strayed (by decide) played overtaken_agrees).1
    second node here running grain
  refine Classical.not_not.mp fun unstrayed => ?_
  have wrong := owned.symm.trans (exactly.mpr unstrayed (overtaken_lists second (by simp)))
  exact absurd wrong (by decide)

end Duo
end ActorDirectory
