import ActorDirectory.Hash.Xxh3
import ActorDirectory.Proofs.Cluster.Calls
import ActorDirectory.Proofs.Dispatch.Schedules

-- Where runs lead that begin without any silo.
namespace ActorDirectory

namespace Node

structure Kept (hash : String → UInt64) (before after : Node) : Prop where
  silo : after.silo = before.silo
  membership : after.membership = before.membership
  running : after.isRunning = true → before.isRunning = true
  proper : before.partition.Proper → after.partition.Proper
  rosters : ∀ grain, before.owns hash grain = false →
    after.partition.roster? grain = before.partition.roster? grain

variable {hash : String → UInt64} {node after : Node}

theorem kept_refl : node.Kept hash node := ⟨rfl, rfl, id, id, fun _ _ => rfl⟩

theorem kept_of_tended (tended : node.Tended hash after) : node.Kept hash after := by
  obtain ⟨partition, rfl, proper, rosters⟩ := tended
  exact ⟨rfl, rfl, id, proper, rosters⟩

end Node

namespace Action

def IsStart : Action → Silo → Prop
  | .start silo, other => other = silo
  | _, _ => False

end Action

namespace World

variable {world : World} {action : Action} {silo : Silo} {before after : Node}

theorem effect_going {affected : Node × Effect} (found : world.effect? action = some affected) :
    ¬action.IsStart silo := by
  cases action with
  | start started => cases found
  | _ => exact id

theorem start_node? (world : World) (silo other : Silo) :
    (world.start silo).node? other = if other = silo then some { silo } else world.node? other :=
  Keyed.get?_put world.cluster.nodes silo other { silo }

structure Aside (world : World) (action : Action) : Prop where
  clear : ∀ affected, world.effect? action ≠ some affected
  going : ∀ silo, ¬action.IsStart silo
  settings : (world.act action).cluster.hash = world.cluster.hash ∧
    (world.act action).cluster.settings = world.cluster.settings
  kept : ∀ silo, Option.Rel (Node.Kept world.cluster.hash) (world.node? silo)
    ((world.act action).node? silo)

theorem aside_of_modify {change : Node → Node} {target : Silo}
    (same : (world.act action).cluster = world.cluster.modifyNode target change)
    (clear : ∀ affected, world.effect? action ≠ some affected)
    (going : ∀ silo, ¬action.IsStart silo)
    (kept : ∀ node : Node, node.Kept world.cluster.hash (change node)) : world.Aside action := by
  have unchanged : ∀ silo, Option.Rel (Node.Kept world.cluster.hash)
      (world.cluster.nodes.get? silo) (world.cluster.nodes.get? silo) := by
    intro silo
    cases world.cluster.nodes.get? silo with
    | none => exact .none
    | some node => exact .some Node.kept_refl
  refine ⟨clear, going, ?_, fun silo => ?_⟩
  · rw [same, Cluster.modifyNode]
    split
    · exact ⟨rfl, rfl⟩
    · exact ⟨rfl, rfl⟩
  · rw [node?, node?, same, Cluster.modifyNode]
    split
    · exact unchanged silo
    · rename_i node here
      by_cases other : silo = target
      · subst other
        simp only [here, Keyed.get?_put, ↓reduceIte]
        exact .some (kept node)
      · simpa only [Keyed.get?_put, other, ↓reduceIte] using unchanged silo

theorem aside_of_tended (tended : world.cluster.Tended (world.act action).cluster)
    (clear : ∀ affected, world.effect? action ≠ some affected)
    (going : ∀ silo, ¬action.IsStart silo) : world.Aside action := by
  obtain ⟨⟨nodes, sent, same⟩, related⟩ := tended
  refine ⟨clear, going, by rw [same]; exact ⟨rfl, rfl⟩, fun silo => ?_⟩
  have related := related silo
  rw [node?, node?]
  revert related
  generalize world.cluster.nodes.get? silo = before
  generalize (world.act action).cluster.nodes.get? silo = after
  intro related
  cases related with
  | none => exact .none
  | some related => exact .some (Node.kept_of_tended related)

theorem act_kinds (named : world.cluster.Named) (action : Action) :
    (∃ silo, action = .start silo) ∨ action.Shifts (fun _ => True) ∨ world.Aside action := by
  cases action with
  | start silo => exact .inl ⟨silo, rfl⟩
  | apply silo snapshot => exact .inr (.inl trivial)
  | turn number => exact .inr (.inl trivial)
  | pass time => exact .inr (.inl trivial)
  | stop silo =>
    exact .inr (.inr (aside_of_modify rfl nofun nofun fun _ =>
      ⟨rfl, rfl, nofun, id, fun _ _ => rfl⟩))
  | register silo address single hops =>
    exact .inr (.inr (aside_of_tended
      (Cluster.register_tended named silo address single hops) nofun nofun))
  | unregister silo addresses hops =>
    exact .inr (.inr (aside_of_tended
      (Cluster.unregisterAll_tended _ world.cluster silo addresses) nofun nofun))
  | lookup silo grain hops =>
    exact .inr (.inr (aside_of_tended (Cluster.lookup_tended silo grain hops) nofun nofun))
  | host silo address single =>
    exact .inr (.inr (aside_of_modify rfl nofun nofun fun _ =>
      ⟨rfl, rfl, id, id, fun _ _ => rfl⟩))
  | unhost silo address =>
    exact .inr (.inr (aside_of_modify rfl nofun nofun fun _ =>
      ⟨rfl, rfl, id, id, fun _ _ => rfl⟩))

inductive Comes (world : World) (action : Action) (silo : Silo) (after : Node) : Prop where
  | fresh : action.IsStart silo → after = { silo } → Comes world action silo after
  | affected {before : Node} {effect : Effect} : world.node? silo = some before →
      world.effect? action = some (before, effect) →
      after = (before.undergo world.cluster.hash world.cluster.settings effect).1 →
      Comes world action silo after
  | kept {before : Node} : world.node? silo = some before → ¬action.IsStart silo →
      (∀ effect, world.effect? action ≠ some (before, effect)) →
      before.Kept world.cluster.hash after → Comes world action silo after

theorem act_comes (named : world.cluster.Named)
    (found : (world.act action).node? silo = some after) : world.Comes action silo after := by
  rcases act_kinds named action with ⟨started, rfl⟩ | shifts | aside
  · rw [act, start_node?] at found
    split at found
    · rename_i same
      cases found
      exact .fresh same (by rw [same])
    · rename_i other
      exact .kept found other (fun _ => nofun) Node.kept_refl
  · obtain ⟨before, here, rfl⟩ := act_came named shifts found
    rcases becomes_cases world action before with ⟨effect, affected, same⟩ | ⟨clear, same⟩
    · exact .affected here affected same
    · refine .kept here ?_ clear (same.symm ▸ Node.kept_refl)
      cases action <;> first | exact id | cases shifts
  · have related := aside.kept silo
    rw [found] at related
    cases here : world.node? silo with
    | none => rw [here] at related; cases related
    | some before =>
      rw [here] at related
      cases related with
      | some kept => exact .kept here (aside.going silo) (fun _ => aside.clear _) kept

theorem act_present (named : world.cluster.Named) (action : Action)
    (here : world.node? silo = some before) : ∃ after, (world.act action).node? silo = some after := by
  rcases act_kinds named action with ⟨started, rfl⟩ | shifts | aside
  · rw [act, start_node?]
    split
    · exact ⟨_, rfl⟩
    · exact ⟨_, here⟩
  · rw [act_node? named shifts, here]
    exact ⟨_, rfl⟩
  · have related := aside.kept silo
    rw [here] at related
    cases found : (world.act action).node? silo with
    | none => rw [found] at related; cases related
    | some after => exact ⟨after, rfl⟩

theorem act_settings (named : world.cluster.Named) (action : Action) :
    (world.act action).cluster.hash = world.cluster.hash ∧
      (world.act action).cluster.settings = world.cluster.settings := by
  rcases act_kinds named action with ⟨silo, rfl⟩ | shifts | aside
  · exact ⟨rfl, rfl⟩
  · exact ⟨(act_network named shifts).1, (act_network named shifts).2.1⟩
  · exact aside.settings

theorem act_named (named : world.cluster.Named) (action : Action) :
    (world.act action).cluster.Named := by
  intro silo after found
  cases act_comes named found with
  | fresh _ same => rw [same]
  | affected here _ same =>
    subst same
    exact Node.undergo_frame.1.trans (named silo _ here)
  | kept here _ _ kept => exact kept.silo.trans (named silo _ here)

theorem play_named (named : world.cluster.Named) (actions : List Action) :
    (world.play actions).cluster.Named := by
  induction actions generalizing world with
  | nil => exact named
  | cons action rest ih => exact ih (act_named named action)

theorem stop_running (running : after.isRunning = true)
    (found : (world.act (.stop silo)).node? silo = some after) : False := by
  have stopped : ((world.cluster.modifyNode silo fun node =>
      { node with isRunning := false }).nodes.get? silo) = some after := found
  simp only [Cluster.modifyNode] at stopped
  split at stopped
  · rename_i absent
    rw [absent] at stopped
    cases stopped
  · rw [Keyed.get?_put, if_pos rfl] at stopped
    cases stopped
    cases running

-- Lanes of running silos take what is put in.
theorem act_accepts (sound : world.Sound) (found : (world.act action).node? silo = some after)
    (running : after.isRunning = true) {key : Channel} (origin : key.source = silo) :
    (world.act action).dispatch.Accepting key := by
  have earlier : ¬action.IsStart silo → world.dispatch.Accepting key := by
    intro other
    cases act_comes sound.named found with
    | fresh started _ => exact absurd started other
    | affected here _ same =>
      subst same
      rw [Node.undergo_frame.2] at running
      exact sound.accepting silo _ here running key origin
    | kept here _ _ kept => exact sound.accepting silo _ here (kept.running running) key origin
  cases action with
  | start started =>
    have blanked : (world.dispatch.blank fun channel => channel.source = started).Accepting key := by
      refine Dispatch.blank_accepting ?_
      by_cases same : silo = started
      · exact .inl (by simp [origin, same])
      · exact .inr (earlier same)
    exact blanked
  | stop stopped =>
    have other : ¬key.source = stopped := by
      intro same
      subst same
      exact stop_running running (origin ▸ found)
    exact Dispatch.halt_accepting (by simp [other]) (earlier id)
  | apply target snapshot =>
    have shifts : (Action.apply target snapshot).Shifts fun _ => True := trivial
    exact act_accepting shifts (earlier id)
  | turn number =>
    have shifts : (Action.turn number).Shifts fun _ => True := trivial
    exact act_accepting shifts (earlier id)
  | pass time => exact earlier id
  | register origin address single hops => exact earlier id
  | unregister origin addresses hops => exact earlier id
  | lookup origin grain hops => exact earlier id
  | host target address single => exact earlier id
  | unhost target address => exact earlier id

theorem act_sound (sound : world.Sound) (action : Action) : (world.act action).Sound := by
  obtain ⟨hash, settings⟩ := act_settings sound.named action
  refine ⟨settings ▸ sound.valid, act_named sound.named action, ?_, ?_, ?_⟩
  · intro silo after found
    rw [hash, settings]
    cases act_comes sound.named found with
    | fresh _ same =>
      rw [same]
      exact Membership.made_empty
    | affected here _ same =>
      subst same
      exact Node.undergo_made (sound.made silo _ here)
    | kept here _ _ kept =>
      rw [kept.membership]
      exact sound.made silo _ here
  · intro silo after found
    cases act_comes sound.named found with
    | fresh _ same =>
      rw [same]
      exact Partition.proper_empty
    | affected here _ same =>
      subst same
      exact Node.undergo_proper (sound.proper silo _ here)
    | kept here _ _ kept => exact kept.proper (sound.proper silo _ here)
  · exact fun silo after found running key origin => act_accepts sound found running origin

theorem play_sound (sound : world.Sound) (actions : List Action) : (world.play actions).Sound := by
  induction actions generalizing world with
  | nil => exact sound
  | cons action rest ih => exact ih (act_sound sound action)

theorem play_settings (sound : world.Sound) (actions : List Action) :
    (world.play actions).cluster.hash = world.cluster.hash ∧
      (world.play actions).cluster.settings = world.cluster.settings := by
  induction actions generalizing world with
  | nil => exact ⟨rfl, rfl⟩
  | cons action rest ih =>
    obtain ⟨hash, settings⟩ := ih (act_sound sound action)
    obtain ⟨sameHash, sameSettings⟩ := act_settings sound.named action
    exact ⟨hash.trans sameHash, settings.trans sameSettings⟩

def Works (world after : World) : Prop :=
  ∃ run, (∀ action ∈ run, action.Shifts fun _ => False) ∧ world.play run = after

theorem works_trans {middle after : World} (one : world.Works middle) (two : middle.Works after) :
    world.Works after := by
  obtain ⟨run, shifts, rfl⟩ := one
  obtain ⟨later, laterShifts, rfl⟩ := two
  refine ⟨run ++ later, fun action present => ?_, List.foldl_append ..⟩
  rcases List.mem_append.mp present with early | late
  · exact shifts action early
  · exact laterShifts action late

theorem works_sound {after : World} (sound : world.Sound) (works : world.Works after) :
    after.Sound := by
  obtain ⟨run, _, rfl⟩ := works
  exact play_sound sound run

-- The rules stay the same meanwhile, so that what lanes do alone is done in the world.
theorem works_of_dispatch (named : world.cluster.Named) {after : Dispatch Channel Errand Cluster}
    (works : Dispatch.Works world.rules world.dispatch after) :
    world.Works { world with dispatch := after } := by
  generalize followed : world.rules = rules at works
  generalize state : world.dispatch = dispatch at works
  induction works generalizing world with
  | done => exact ⟨[], nofun, by rw [play_nil, ← state]⟩
  | @turn dispatch _ number _ ih =>
    have turned : (world.act (.turn number)).dispatch = dispatch.turn rules number := by
      rw [act, followed, state]
    have settings := (act_settings named (.turn number)).2
    obtain ⟨run, shifts, played⟩ := ih (act_named named _)
      ((congrArg Cluster.rules settings).trans followed) turned
    exact ⟨.turn number :: run, List.forall_mem_cons.mpr ⟨trivial, shifts⟩, played⟩
  | @pass dispatch _ time _ ih =>
    have passed : (world.act (.pass time)).dispatch = dispatch.fire time := by
      rw [act, state]
    have settings := (act_settings named (.pass time)).2
    obtain ⟨run, shifts, played⟩ := ih (act_named named _)
      ((congrArg Cluster.rules settings).trans followed) passed
    exact ⟨.pass time :: run, List.forall_mem_cons.mpr ⟨trivial, shifts⟩, played⟩

theorem wait_works (named : world.cluster.Named) (duration : Nat) :
    world.Works (world.wait duration) := by
  refine works_of_dispatch named ?_
  rw [Dispatch.wait]
  split
  · exact .done
  · exact Dispatch.advanceTo_works _ _

theorem quiesceAll_works (sound : world.Sound) : world.Works world.quiesceAll := by
  have quiet : world.Works world.quiet := works_of_dispatch sound.named (Dispatch.quiet_works _)
  refine List.foldlRecOn (motive := world.Works) _ _ quiet fun middle works silo _ => ?_
  exact works_trans works
    (works_of_dispatch (works_sound sound works).named (Dispatch.quiesce_works _ _))

-- Settling is one of the runs in which clients do nothing, and so is sleeping.
theorem settle_works (sound : world.Sound) : world.Works world.settle := by
  have once := quiesceAll_works sound
  have twice := works_trans once (quiesceAll_works (works_sound sound once))
  have thrice := works_trans twice (quiesceAll_works (works_sound sound twice))
  exact works_trans thrice
    (works_of_dispatch (works_sound sound thrice).named (Dispatch.quiet_works _))

theorem sleep_works (sound : world.Sound) (duration : Nat) : world.Works (world.sleep duration) :=
  works_of_dispatch sound.named (Dispatch.sleep_works duration _)

theorem empty_sound (hash : String → UInt64) {settings : Settings}
    (valid : settings.problems = []) : (empty hash settings).Sound :=
  ⟨valid, fun _ _ => nofun, fun _ _ => nofun, fun _ _ => nofun, fun _ _ => nofun⟩

end World

namespace Duo

def settings : Settings := { bucketsPerSilo := 1 }

def first : Silo := ⟨.v4 ⟨10, 0, 0, 1⟩, 100, 1⟩

def second : Silo := ⟨.v4 ⟨10, 0, 0, 2⟩, 100, 1⟩

def grain : Grain := ⟨"user", "1"⟩

def runningOn (silo : Silo) : Address := ⟨grain, silo, .ofNat 10⟩

def numbered (key : String) (silo : Silo) (number : Nat) : Address :=
  ⟨⟨"user", key⟩, silo, .ofNat number⟩

def listed (epoch : UInt64) (one two : Status) : Snapshot :=
  .ofMembers [.unnamed first one, .unnamed second two] ⟨epoch⟩

def opening (snapshot : Snapshot) (host : Silo) : List Action :=
  [.start first, .start second, .apply first snapshot, .apply second snapshot,
    .register host (runningOn host) true 0, .host host (runningOn host) true]

def opened (snapshot : Snapshot) (host : Silo) : World :=
  (World.empty Xxh3.hashText settings).play (opening snapshot host)

end Duo
end ActorDirectory
