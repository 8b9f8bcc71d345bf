import ActorDirectory.Proofs.Cluster.Reached
import Mathlib.Data.List.Induction

-- Clusters at rest, and what stays true of them while the membership changes.
namespace ActorDirectory.World

variable {world : World} {action : Action} {allowed : Snapshot → Prop} {snapshot : Snapshot}
  {silo source target : Silo} {node : Node} {effect : Effect} {address : Address}
  {hosted : Hosted} {key : Channel} {errand : Errand}

def Runs (world : World) (hosted : Hosted) : Prop := ∃ silo, world.Hosts silo hosted

def HoldsAt (world : World) (silo : Silo) (address : Address) : Prop :=
  ∃ node, world.node? silo = some node ∧ node.partition.Holds address

structure Settled (world : World) (snapshot : Snapshot) : Prop where
  sound : world.Sound
  drained : world.dispatch.IsDrained
  follows : ∀ silo node, world.node? silo = some node → node.isRunning = true →
    node.membership = .ofSnapshot world.cluster.hash world.cluster.settings.bucketsPerSilo snapshot ∨
      node = { silo }
  atHome : ∀ silo hosted, world.Hosts silo hosted → hosted.address.silo = silo
  alone : Partition.Alone world.Runs
  registered : ∀ hosted, world.Runs hosted → ∃ owner,
    world.ownerIn snapshot hosted.address.grain = some owner ∧ world.HoldsAt owner hosted.address
  nothingElse : ∀ silo address, world.HoldsAt silo address →
    world.ownerIn snapshot address.grain = some silo ∧
      ∃ hosted, world.Runs hosted ∧ hosted.address = address

-- All that is registered or on its way runs, and there is room for it.
structure Faithful (world : World) : Prop where
  sound : world.Sound
  atHome : ∀ silo hosted, world.Hosts silo hosted → hosted.address.silo = silo
  alone : Partition.Alone world.Runs
  welcomes : ∀ silo node, world.node? silo = some node → node.partition.Welcomes world.Runs
  errands : ∀ key errand, world.dispatch.Pending key errand → ∃ source target single multi node,
    key = .handoff source target ∧ errand = .accept single multi ∧
      world.node? source = some node ∧ node.isRunning = true ∧
      (∀ address ∈ single, ⟨address, true⟩ ∈ node.catalog.hosted) ∧
      ∀ address ∈ multi, ⟨address, false⟩ ∈ node.catalog.hosted

theorem settled_faithful (settled : world.Settled snapshot) : world.Faithful := by
  refine ⟨settled.sound, settled.atHome, settled.alone, ?_,
    fun key errand pending => absurd pending (settled.drained key errand)⟩
  intro silo node here grain roster found
  obtain ⟨someone, lone⟩ := settled.sound.proper silo node here grain roster found
  refine ⟨someone, fun inst present => ?_⟩
  obtain ⟨owned, runs⟩ := settled.nothingElse silo (inst.address grain)
    ⟨node, here, roster, found, present⟩
  refine ⟨runs, fun single hosted hosting same => ?_⟩
  obtain ⟨owner, assigned, _, there, _, enrolled, listed⟩ := settled.registered hosted hosting
  rw [same] at assigned enrolled
  have own : owner = silo := Option.some.inj (assigned.symm.trans owned)
  subst own
  rw [here] at there
  cases there
  rw [found] at enrolled
  cases enrolled
  obtain ⟨only, all⟩ := List.length_eq_one_iff.mp (lone single)
  rw [all] at present listed
  have equal : hosted.address.toInstance = inst :=
    (List.mem_singleton.mp listed).trans (List.mem_singleton.mp present).symm
  rw [← equal, ← same]
  rfl

theorem settled_of_tables (sound : world.Sound)
    (idle : ∀ lane ∈ world.dispatch.lanes, lane.waiting = [])
    (follows : ∀ pair ∈ world.cluster.nodes.pairs, pair.2.membership = .ofSnapshot
      world.cluster.hash world.cluster.settings.bucketsPerSilo snapshot)
    (atHome : ∀ pair ∈ world.cluster.nodes.pairs, ∀ hosted ∈ pair.2.catalog.hosted,
      hosted.address.silo = pair.1)
    (alone : ∀ pair ∈ world.cluster.nodes.pairs, ∀ hosted ∈ pair.2.catalog.hosted,
      ∀ other ∈ world.cluster.nodes.pairs, ∀ second ∈ other.2.catalog.hosted,
        hosted.single = true → second.address.grain = hosted.address.grain →
          second.address = hosted.address)
    (registered : ∀ pair ∈ world.cluster.nodes.pairs, ∀ hosted ∈ pair.2.catalog.hosted,
      ∃ owner ∈ world.cluster.nodes.pairs,
        world.ownerIn snapshot hosted.address.grain = some owner.1 ∧
        ∃ roster ∈ owner.2.partition.roster? hosted.address.grain,
          hosted.address.toInstance ∈ roster.instances)
    (nothingElse : ∀ pair ∈ world.cluster.nodes.pairs, ∀ entry ∈ pair.2.partition.held.pairs,
      world.ownerIn snapshot entry.1 = some pair.1 ∧
        ∀ inst ∈ entry.2.instances, ∃ host ∈ world.cluster.nodes.pairs,
          ∃ hosted ∈ host.2.catalog.hosted, hosted.address = inst.address entry.1) :
    world.Settled snapshot := by
  refine ⟨sound, Dispatch.drained_of_idle idle, ?_, ?_, ?_, ?_, ?_⟩
  · exact fun silo node here _ => .inl (follows _ (Keyed.mem_of_get? here))
  · rintro silo hosted ⟨node, here, hosts⟩
    exact atHome _ (Keyed.mem_of_get? here) hosted hosts
  · rintro hosted other ⟨_, node, here, hosts⟩ ⟨_, _, there, otherHosts⟩
    exact alone _ (Keyed.mem_of_get? here) hosted hosts _ (Keyed.mem_of_get? there) other otherHosts
  · rintro hosted ⟨_, node, here, hosts⟩
    obtain ⟨owner, present, owned, roster, found, listed⟩ :=
      registered _ (Keyed.mem_of_get? here) hosted hosts
    exact ⟨owner.1, owned, owner.2, Keyed.get?_of_mem present, roster, found, listed⟩
  · rintro silo address ⟨node, here, roster, found, listed⟩
    obtain ⟨holding, entry, rfl⟩ := Option.map_eq_some_iff.mp found
    obtain ⟨owned, each⟩ := nothingElse _ (Keyed.mem_of_get? here) _ (Keyed.mem_of_get? entry)
    obtain ⟨host, present, hosted, hosts, same⟩ := each _ listed
    exact ⟨owned, hosted, ⟨host.1, host.2, Keyed.get?_of_mem present, hosts⟩, same⟩

theorem performs_pending (performs : world.Performs action key errand) :
    world.dispatch.Pending key errand := by
  obtain ⟨number, lane, _, next, rfl⟩ := performs
  obtain ⟨found, live, ⟨rest, waiting⟩, _⟩ := Dispatch.turn_attempt world.rules next
  exact ⟨lane, List.mem_of_getElem? found, rfl, live, by simp [waiting]⟩

theorem faithful_effect (faithful : world.Faithful) (shifts : action.Shifts allowed)
    (affected : world.effect? action = some (node, effect)) :
    (∃ snapshot, allowed snapshot ∧ effect = .follow snapshot) ∨
      ∃ source single multi, effect = .accept single multi ∧
        world.Performs action (.handoff source node.silo) (.accept single multi) := by
  cases effect_reaches affected with
  | told same _ =>
    subst same
    exact .inl ⟨_, shifts, rfl⟩
  | followed performs _ =>
    obtain ⟨_, _, _, _, _, same, _⟩ := faithful.errands _ _ (performs_pending performs)
    cases same
  | handed performs received =>
    have name := faithful.sound.named _ _ (Cluster.receiver_found received)
    exact .inr ⟨_, _, _, rfl, name ▸ performs⟩
  | condemned performs _ =>
    obtain ⟨_, _, _, _, _, _, same, _⟩ := faithful.errands _ _ (performs_pending performs)
    cases same

theorem handed_runs (faithful : world.Faithful) {single multi : List Address}
    (performs : world.Performs action (.handoff source target) (.accept single multi)) :
    (∀ address ∈ single, world.Runs ⟨address, true⟩) ∧
      ∀ address ∈ multi, world.Runs ⟨address, false⟩ := by
  obtain ⟨_, _, _, _, node, same, accepts, here, _, singles, multis⟩ :=
    faithful.errands _ _ (performs_pending performs)
  cases same
  cases accepts
  exact ⟨fun address present => ⟨source, node, here, singles address present⟩,
    fun address present => ⟨source, node, here, multis address present⟩⟩

theorem faithful_becomes (faithful : world.Faithful) (shifts : action.Shifts allowed)
    (node : Node) : (world.becomes action node).catalog = node.catalog := by
  rcases becomes_cases world action node with ⟨effect, affected, same⟩ | ⟨_, same⟩
  · rw [same]
    rcases faithful_effect faithful shifts affected with ⟨_, _, rfl⟩ | ⟨_, _, _, rfl, _⟩
    · exact Node.apply_frame.2.2
    · rfl
  · rw [same]

theorem act_hosts (faithful : world.Faithful) (shifts : action.Shifts allowed) :
    (world.act action).Hosts silo hosted ↔ world.Hosts silo hosted := by
  simp only [Hosts, act_node? faithful.sound.named shifts, Option.map_eq_some_iff]
  constructor
  · rintro ⟨_, ⟨node, here, rfl⟩, hosts⟩
    exact ⟨node, here, faithful_becomes faithful shifts node ▸ hosts⟩
  · rintro ⟨node, here, hosts⟩
    exact ⟨_, ⟨node, here, rfl⟩, (faithful_becomes faithful shifts node).symm ▸ hosts⟩

theorem act_runs (faithful : world.Faithful) (shifts : action.Shifts allowed) :
    (world.act action).Runs = world.Runs := by
  funext hosted
  exact propext (exists_congr fun silo => act_hosts faithful shifts)

def Delivers (world : World) (action : Action) (silo : Silo) (address : Address) : Prop :=
  ∃ node single multi, world.node? silo = some node ∧
    world.effect? action = some (node, .accept single multi) ∧ address ∈ single ++ multi

def Purges (world : World) (action : Action) (silo : Silo) (address : Address) : Prop :=
  ∃ node snapshot current, world.node? silo = some node ∧
    world.effect? action = some (node, .follow snapshot) ∧
    node.adopts? world.cluster.hash world.cluster.settings snapshot = some current ∧
    ¬(current.owner? world.cluster.hash address.grain = some silo ∧
      current.snapshot.isDead address.silo = false)

theorem accept_here (faithful : world.Faithful) {single multi : List Address}
    (here : world.node? silo = some node)
    (performs : world.Performs action (.handoff source target) (.accept single multi)) :
    (node.partition.accept single multi).1 = [] ∧
      (node.partition.accept single multi).2.Welcomes world.Runs ∧
      ∀ address ∈ single ++ multi, (node.partition.accept single multi).2.Holds address := by
  obtain ⟨singles, multis⟩ := handed_runs faithful performs
  exact Partition.accept_welcome faithful.alone (faithful.welcomes silo node here) singles multis

-- One action: an activation is registered if it is handed over now, or was registered and is
-- not purged.
theorem act_holds (faithful : world.Faithful) (shifts : action.Shifts allowed) :
    (world.act action).HoldsAt silo address ↔ world.Delivers action silo address ∨
      world.HoldsAt silo address ∧ ¬world.Purges action silo address := by
  simp only [HoldsAt, act_node? faithful.sound.named shifts]
  cases here : world.node? silo with
  | none => simp [Delivers, here]
  | some node =>
    simp only [Delivers, Purges, here, Option.map_some, Option.some.injEq, exists_eq_left',
      ↓existsAndEq, true_and]
    rcases becomes_cases world action node with ⟨effect, affected, same⟩ | ⟨clear, same⟩
    · rw [same]
      simp only [affected, Option.some.injEq, Prod.mk.injEq, true_and]
      rcases faithful_effect faithful shifts affected with
        ⟨snapshot, _, rfl⟩ | ⟨source, single, multi, rfl, performs⟩
      · have name := faithful.sound.named _ _ here
        rw [Node.undergo, Node.apply_holds]
        simp only [reduceCtorEq, false_and, exists_false, false_or, Effect.follow.injEq,
          name]
        simp
      · obtain ⟨_, _, held⟩ := accept_here faithful here performs
        simp only [reduceCtorEq, false_and, exists_false, not_false_eq_true, and_true,
          Effect.accept.injEq, and_assoc, exists_and_left, exists_eq_left']
        constructor
        · intro holds
          rw [Node.undergo, Node.accept_frame, Partition.accept_partition] at holds
          rcases Partition.of_enlist holds with earlier | last
          · rcases Partition.of_enlist earlier with earlier | first
            · exact .inr earlier
            · exact .inl (List.mem_append_left _ first)
          · exact .inl (List.mem_append_right _ last)
        · rintro (handed | holds)
          · exact held address handed
          · rw [Node.undergo, Node.accept_frame, Partition.accept_partition]
            exact Partition.enlist_keeps multi (Partition.enlist_keeps single holds)
    · rw [same]
      simp [clear]

theorem act_welcomes (faithful : world.Faithful) (shifts : action.Shifts allowed)
    (here : world.node? silo = some node) :
    (world.becomes action node).partition.Welcomes world.Runs := by
  have before := faithful.welcomes silo node here
  rcases becomes_cases world action node with ⟨effect, affected, same⟩ | ⟨_, same⟩
  · rw [same]
    rcases faithful_effect faithful shifts affected with
      ⟨snapshot, _, rfl⟩ | ⟨source, single, multi, rfl, performs⟩
    · rw [Node.undergo, Node.apply_partition]
      split
      · exact before
      · exact Partition.retain_welcomes before _
    · exact (accept_here faithful here performs).2.1
  · rw [same]
    exact before

theorem act_asked (faithful : world.Faithful) (shifts : action.Shifts allowed)
    (asked : .enqueue key errand ∈ world.asks action) :
    ∃ node snapshot current owner single multi, world.node? node.silo = some node ∧
      allowed snapshot ∧ world.effect? action = some (node, .follow snapshot) ∧
      node.adopts? world.cluster.hash world.cluster.settings snapshot = some current ∧
      key = .handoff node.silo owner ∧ errand = .accept single multi ∧
      (∀ address ∈ single, ⟨address, true⟩ ∈ node.catalog.hosted ∧
        current.owner? world.cluster.hash address.grain = some owner) ∧
      ∀ address ∈ multi, ⟨address, false⟩ ∈ node.catalog.hosted ∧
        current.owner? world.cluster.hash address.grain = some owner := by
  obtain ⟨node, effect, affected, asked⟩ := asks_effect asked
  have here := effect_found faithful.sound.named affected
  rcases faithful_effect faithful shifts affected with
    ⟨snapshot, fit, rfl⟩ | ⟨source, single, multi, rfl, performs⟩
  · obtain ⟨current, owner, single, multi, adopted, same, accepts, singles, multis⟩ :=
      Node.apply_asks (Settings.positive faithful.sound.valid).1 asked
    exact ⟨node, snapshot, current, owner, single, multi, here, fit, affected, adopted, same,
      accepts, singles, multis⟩
  · have unbeaten := (accept_here faithful here performs).1
    simp [Node.undergo, Node.accept, unbeaten, Order.group] at asked

theorem act_faithful (faithful : world.Faithful) (shifts : action.Shifts allowed) :
    (world.act action).Faithful := by
  have named := faithful.sound.named
  refine ⟨act_sound faithful.sound action, fun silo hosted hosts =>
    faithful.atHome silo hosted ((act_hosts faithful shifts).mp hosts), ?_, ?_, ?_⟩
  · rw [act_runs faithful shifts]
    exact faithful.alone
  · intro silo after found
    rw [act_runs faithful shifts]
    obtain ⟨node, here, rfl⟩ := act_came named shifts found
    exact act_welcomes faithful shifts here
  · intro key errand pending
    rcases of_act_pending named shifts pending with earlier | asked
    · obtain ⟨source, target, single, multi, node, same, accepts, here, running, singles, multis⟩ :=
        faithful.errands key errand earlier
      refine ⟨source, target, single, multi, _, same, accepts, act_becomes named shifts here,
        becomes_frame.2.trans running, ?_⟩
      rw [faithful_becomes faithful shifts node]
      exact ⟨singles, multis⟩
    · obtain ⟨node, snapshot, current, owner, single, multi, here, _, affected, adopted, same,
        accepts, singles, multis⟩ := act_asked faithful shifts asked
      have running := (Node.installs_eq_some.mp (Node.adopts_eq_some.mp adopted).1).1
      refine ⟨node.silo, owner, single, multi, _, same, accepts, act_becomes named shifts here,
        becomes_frame.2.trans running, ?_⟩
      rw [faithful_becomes faithful shifts node]
      exact ⟨fun address present => (singles address present).1,
        fun address present => (multis address present).1⟩

-- An invariant of every action holds after every run. What the actions keep along with it holds
-- too, if it holds of the empty run.
theorem run_induction (invariant : World → Prop) {motive : List Action → Prop}
    (kept : ∀ world action, invariant world → action.Shifts allowed →
      invariant (world.act action))
    (begins : invariant world) {run : List Action} (shifts : ∀ action ∈ run, action.Shifts allowed)
    (start : motive [])
    (next : ∀ run action, (∀ action ∈ run, action.Shifts allowed) → action.Shifts allowed →
      invariant (world.play run) → motive run → motive (run ++ [action])) :
    invariant (world.play run) ∧ motive run := by
  induction run using List.reverseRecOn with
  | nil => exact ⟨begins, start⟩
  | append_singleton run action ih =>
    obtain ⟨earlier, shift⟩ := Action.shifts_concat.mp shifts
    obtain ⟨now, before⟩ := ih earlier
    rw [play_concat]
    exact ⟨kept _ action now shift, next run action earlier shift now before⟩

theorem play_faithful (faithful : world.Faithful) {run : List Action}
    (shifts : ∀ action ∈ run, action.Shifts allowed) : (world.play run).Faithful :=
  (run_induction Faithful (motive := fun _ => True) (fun _ _ => act_faithful) faithful shifts
    trivial fun _ _ _ _ _ => id).1

theorem play_induction {motive : List Action → Prop} (faithful : world.Faithful)
    {run : List Action} (shifts : ∀ action ∈ run, action.Shifts allowed) (start : motive [])
    (next : ∀ run action, (∀ action ∈ run, action.Shifts allowed) → action.Shifts allowed →
      (world.play run).Faithful → motive run → motive (run ++ [action])) : motive run :=
  (run_induction Faithful (fun _ _ => act_faithful) faithful shifts start next).2

end ActorDirectory.World
