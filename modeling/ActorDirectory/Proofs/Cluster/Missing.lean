import ActorDirectory.Proofs.Cluster.Settled

-- A host hands an activation over when its own view of the owner changes, and an owner drops it
-- when the owner's view changes. Where the two see different snapshots, a registration may get
-- lost; this is exactly when.
namespace ActorDirectory

namespace World

variable {world : World} {action : Action} {allowed : Snapshot → Prop}
  {first last snapshot : Snapshot} {silo source target owner : Silo} {node : Node} {grain : Grain}
  {address : Address} {hosted : Hosted} {key : Channel} {errand : Errand}

def Serves (world : World) (silo : Silo) : Prop :=
  ∃ node, world.cluster.reach silo = .ok node ∧ node.isRunning = true

-- The silos that the snapshot calls active are there, and none that runs is called dead.
structure Fits (world : World) (snapshot : Snapshot) : Prop where
  served : ∀ silo, snapshot.isActive silo = true → world.Serves silo
  spared : ∀ silo node, world.node? silo = some node → node.isRunning = true →
    snapshot.isDead silo = false

theorem fits_of_tables
    (served : ∀ silo ∈ snapshot.activeSilos, ∃ pair ∈ world.cluster.nodes.pairs, pair.1 = silo ∧
      pair.2.isRunning = true ∧ silo ∉ world.cluster.unreachable ∧ silo ∈ world.cluster.linked)
    (spared : ∀ pair ∈ world.cluster.nodes.pairs, pair.2.isRunning = true →
      snapshot.isDead pair.1 = false) : world.Fits snapshot := by
  refine ⟨fun silo active => ?_, fun silo node here => spared _ (Keyed.mem_of_get? here)⟩
  obtain ⟨pair, present, rfl, running, reachable, linked⟩ :=
    served silo (Snapshot.mem_activeSilos.mpr active)
  exact ⟨pair.2, Cluster.reach_of reachable linked (Keyed.get?_of_mem present), running⟩

def Sheds (world : World) (action : Action) (silo : Silo) (grain : Grain) : Prop :=
  ∃ node snapshot current, world.node? silo = some node ∧
    world.effect? action = some (node, .follow snapshot) ∧
    node.adopts? world.cluster.hash world.cluster.settings snapshot = some current ∧
    current.owner? world.cluster.hash grain ≠ some silo

-- The silo shed the grain, and the activation was not handed over to it since.
inductive Missing (start : World) (silo : Silo) (address : Address) : List Action → Prop where
  | shed {run : List Action} {action : Action} :
      (start.play run).Sheds action silo address.grain → Missing start silo address (run ++ [action])
  | still {run : List Action} {action : Action} : Missing start silo address run →
      ¬(start.play run).Delivers action silo address → Missing start silo address (run ++ [action])

theorem act_serves (named : world.cluster.Named) (shifts : action.Shifts allowed) :
    (world.act action).Serves silo ↔ world.Serves silo := by
  obtain ⟨_, _, sameLinks, sameGaps⟩ := act_network named shifts
  constructor
  · rintro ⟨after, reached, running⟩
    obtain ⟨reachable, linked, found⟩ := Cluster.reach_ok reached
    have found : (world.act action).node? silo = some after := found
    obtain ⟨node, here, rfl⟩ := act_came named shifts found
    exact ⟨node, Cluster.reach_of (sameGaps ▸ reachable) (sameLinks ▸ linked) here,
      becomes_frame.2.symm.trans running⟩
  · rintro ⟨node, reached, running⟩
    obtain ⟨reachable, linked, found⟩ := Cluster.reach_ok reached
    have after := act_becomes named shifts found
    exact ⟨_, Cluster.reach_of (sameGaps ▸ reachable) (sameLinks ▸ linked) after,
      becomes_frame.2.trans running⟩

theorem act_fits (named : world.cluster.Named) (shifts : action.Shifts allowed)
    (fits : world.Fits snapshot) : (world.act action).Fits snapshot := by
  refine ⟨fun silo active => (act_serves named shifts).mpr (fits.served silo active), ?_⟩
  intro silo after found running
  obtain ⟨node, here, rfl⟩ := act_came named shifts found
  exact fits.spared silo node here (becomes_frame.2.symm.trans running)

theorem sheds_not_delivers (sheds : world.Sheds action silo grain) :
    ¬world.Delivers action silo address := by
  obtain ⟨_, _, _, _, affected, _⟩ := sheds
  rintro ⟨_, _, _, _, other, _⟩
  rw [affected] at other
  cases other

theorem sheds_purges (sheds : world.Sheds action silo address.grain) :
    world.Purges action silo address := by
  obtain ⟨node, snapshot, current, here, affected, adopted, other⟩ := sheds
  exact ⟨node, snapshot, current, here, affected, adopted, fun both => other both.1⟩

theorem purges_sheds (faithful : world.Faithful) (shifts : action.Shifts allowed)
    (fits : ∀ snapshot, allowed snapshot → world.Fits snapshot)
    (here : world.node? address.silo = some node) (running : node.isRunning = true)
    (purges : world.Purges action silo address) : world.Sheds action silo address.grain := by
  obtain ⟨snapshots, snapshot, current, there, affected, adopted, lost⟩ := purges
  refine ⟨snapshots, snapshot, current, there, affected, adopted, fun owned => lost ⟨owned, ?_⟩⟩
  rcases faithful_effect faithful shifts affected with ⟨_, fit, same⟩ | ⟨_, _, _, same, _⟩
  · cases same
    obtain ⟨_, _, rfl⟩ := Node.installs_eq_some.mp (Node.adopts_eq_some.mp adopted).1
    exact (fits _ fit).spared _ node here running
  · cases same

theorem performs_effect (performs : world.Performs action key errand) :
    world.effect? action = world.cluster.effect? key errand := by
  obtain ⟨number, lane, rfl, next, rfl⟩ := performs
  simp [effect?, next]

theorem served_receives (here : world.node? source = some node)
    (active : node.membership.snapshot.isActive target = true) (serves : world.Serves target) :
    ∃ next, world.node? target = some next ∧
      world.cluster.receiver? source target = some next := by
  obtain ⟨next, reached, running⟩ := serves
  exact ⟨next, (Cluster.reach_ok reached).2.2,
    Cluster.receiver_of_active here active reached running⟩

theorem performs_delivers (faithful : world.Faithful) {single multi : List Address}
    (performs : world.Performs action (.handoff source target) (.accept single multi))
    (here : world.node? source = some node)
    (owned : node.owner? world.cluster.hash grain = some target) (serves : world.Serves target)
    (handed : address ∈ single ++ multi) : world.Delivers action target address := by
  have active := Membership.owner_active (faithful.sound.made source node here) owned
  obtain ⟨next, found, received⟩ := served_receives here active serves
  refine ⟨next, single, multi, found, ?_, handed⟩
  simp [performs_effect performs, Cluster.effect?, received]

theorem owner_adopted (faithful : world.Faithful) (shifts : action.Shifts allowed)
    (here : world.node? silo = some node)
    (owned : (world.becomes action node).owner? world.cluster.hash grain = some owner)
    (other : node.owner? world.cluster.hash grain ≠ some owner) :
    ∃ snapshot current, world.effect? action = some (node, .follow snapshot) ∧
      node.adopts? world.cluster.hash world.cluster.settings snapshot = some current ∧
      current.owner? world.cluster.hash grain = some owner := by
  rcases becomes_cases world action node with ⟨effect, affected, same⟩ | ⟨_, same⟩
  · rw [same] at owned
    rcases faithful_effect faithful shifts affected with ⟨snapshot, _, rfl⟩ | ⟨_, _, _, rfl, _⟩
    · cases adopted : node.adopts? world.cluster.hash world.cluster.settings snapshot with
      | none =>
        have unchanged := Node.apply_owner (faithful.sound.made silo node here) adopted grain
        exact absurd (unchanged.symm.trans owned) other
      | some current =>
        refine ⟨snapshot, current, affected, adopted, ?_⟩
        rw [Node.undergo, Node.owner?, Node.apply_membership,
          (Node.adopts_eq_some.mp adopted).1] at owned
        exact owned
    · exact absurd owned other
  · rw [same] at owned
    exact absurd owned other

-- For all that runs on a running silo, its owner as that silo sees it: a hand-over is on its way,
-- the owner holds it, or it is missing there.
def Accounted (world : World) (missing : Silo → Address → Prop) : Prop :=
  ∀ host node hosted owner, world.node? host = some node → node.isRunning = true →
    hosted ∈ node.catalog.hosted →
    node.owner? world.cluster.hash hosted.address.grain = some owner → world.Serves owner →
    (∃ single multi, world.dispatch.Pending (.handoff host owner) (.accept single multi) ∧
      hosted.address ∈ single ++ multi) ∨
    world.HoldsAt owner hosted.address ∨ missing owner hosted.address

theorem act_accounted (faithful : world.Faithful) (shifts : action.Shifts allowed)
    (fits : ∀ snapshot, allowed snapshot → world.Fits snapshot)
    {before after : Silo → Address → Prop}
    (sheds : ∀ silo (address : Address), world.Sheds action silo address.grain →
      after silo address)
    (still : ∀ silo address, before silo address → ¬world.Delivers action silo address →
      after silo address)
    (accounted : world.Accounted before) : (world.act action).Accounted after := by
  intro host _ hosted owner found running hosts owned serves
  have named := faithful.sound.named
  obtain ⟨hash, _⟩ := act_network named shifts
  obtain ⟨node, here, rfl⟩ := act_came named shifts found
  rw [faithful_becomes faithful shifts] at hosts
  rw [becomes_frame.2] at running
  rw [act_serves named shifts] at serves
  rw [hash] at owned
  have home : hosted.address.silo = host := faithful.atHome host hosted ⟨node, here, hosts⟩
  by_cases same : node.owner? world.cluster.hash hosted.address.grain = some owner
  · rcases accounted host node hosted owner here running hosts same serves with
      ⟨single, multi, pending, handed⟩ | holds | missing
    · rcases act_pending shifts pending with kept | performs
      · exact .inl ⟨single, multi, kept, handed⟩
      · have delivers := performs_delivers faithful performs here same serves handed
        exact .inr (.inl ((act_holds faithful shifts).mpr (.inl delivers)))
    · by_cases purges : world.Purges action owner hosted.address
      · refine .inr (.inr (sheds _ _ ?_))
        exact purges_sheds faithful shifts fits (home ▸ here) running purges
      · exact .inr (.inl ((act_holds faithful shifts).mpr (.inr ⟨holds, purges⟩)))
    · by_cases delivers : world.Delivers action owner hosted.address
      · exact .inr (.inl ((act_holds faithful shifts).mpr (.inl delivers)))
      · exact .inr (.inr (still _ _ missing delivers))
  · obtain ⟨snapshot, current, affected, adopted, assigned⟩ :=
      owner_adopted faithful shifts here owned same
    obtain ⟨single, multi, asked, handed⟩ := Node.asks_moved
      (Settings.positive faithful.sound.valid).1 adopted hosts assigned same
    have name : node.silo = host := named host node here
    rw [name] at asked
    refine .inl ⟨single, multi, act_asks named shifts
      (faithful.sound.accepting host node here running _ rfl) ?_, handed⟩
    rw [asks, affected]
    exact asked

theorem play_fits (faithful : world.Faithful) {actions : List Action}
    (shifts : ∀ action ∈ actions, action.Shifts allowed) (fits : world.Fits snapshot) :
    (world.play actions).Fits snapshot := by
  refine play_induction (motive := fun run => (world.play run).Fits snapshot) faithful shifts fits ?_
  intro run action _ shift now fits
  rw [play_concat]
  exact act_fits now.sound.named shift fits

theorem settled_accounted (settled : world.Settled first) :
    world.Accounted (Missing world · · []) := by
  intro host node hosted owner here running hosts owned _
  obtain ⟨known, assigned, holds⟩ := settled.registered hosted ⟨host, node, here, hosts⟩
  rcases settled.follows host node here running with follows | new
  · rw [Node.owner?, follows] at owned
    have same : owner = known := Option.some.inj (owned.symm.trans assigned)
    exact .inr (.inl (same ▸ holds))
  · rw [new] at hosts
    cases hosts

theorem play_accounted (settled : world.Settled first) {actions : List Action}
    (shifts : ∀ action ∈ actions, action.Shifts allowed)
    (fits : ∀ snapshot, allowed snapshot → world.Fits snapshot) :
    (world.play actions).Accounted (Missing world · · actions) := by
  have faithful := settled_faithful settled
  refine play_induction (motive := fun run => (world.play run).Accounted (Missing world · · run))
    faithful shifts (settled_accounted settled) ?_
  intro run action earlier shift now accounted
  rw [play_concat]
  exact act_accounted now shift
    (fun snapshot fit => play_fits faithful earlier (fits snapshot fit))
    (fun _ _ => .shed) (fun _ _ => .still) accounted

theorem missing_not_held (faithful : world.Faithful) {actions : List Action}
    (shifts : ∀ action ∈ actions, action.Shifts allowed)
    (missing : Missing world silo address actions) : ¬(world.play actions).HoldsAt silo address := by
  induction missing with
  | @shed run action sheds =>
    obtain ⟨earlier, shift⟩ := Action.shifts_concat.mp shifts
    rw [play_concat, act_holds (play_faithful faithful earlier) shift]
    rintro (delivers | ⟨_, kept⟩)
    · exact sheds_not_delivers sheds delivers
    · exact kept (sheds_purges sheds)
  | @still run action _ absent ih =>
    obtain ⟨earlier, shift⟩ := Action.shifts_concat.mp shifts
    rw [play_concat, act_holds (play_faithful faithful earlier) shift]
    rintro (delivers | ⟨held, _⟩)
    · exact absent delivers
    · exact ih earlier held

-- Once all silos know the last snapshot and nothing is on its way, exactly what is missing there
-- is not registered with the owner.
theorem registered_unless_missing (settled : world.Settled first) {sequence : List Snapshot}
    (fits : ∀ snapshot ∈ sequence, world.Fits snapshot) {actions : List Action}
    (shifts : ∀ action ∈ actions, action.Shifts (· ∈ sequence)) (member : last ∈ sequence)
    (agreed : (world.play actions).Agrees last)
    (drained : (world.play actions).dispatch.IsDrained)
    (here : (world.play actions).node? silo = some node) (running : node.isRunning = true)
    (hosts : hosted ∈ node.catalog.hosted)
    (owned : (world.play actions).ownerIn last hosted.address.grain = some owner) :
    (world.play actions).HoldsAt owner hosted.address ↔
      ¬Missing world owner hosted.address actions := by
  have faithful := settled_faithful settled
  constructor
  · exact fun holds missing => missing_not_held faithful shifts missing holds
  · intro unmissed
    have active := Cluster.ownerIn_active owned
    have serves := (play_fits faithful shifts (fits last member)).served owner active
    have assigned : node.owner? (world.play actions).cluster.hash hosted.address.grain =
        some owner := by
      rw [Node.owner?, agreed silo node here running]
      exact owned
    rcases play_accounted settled shifts fits silo node hosted owner here running hosts assigned
      serves with ⟨single, multi, pending, _⟩ | holds | missing
    · exact absurd pending (drained _ _)
    · exact holds
    · exact absurd missing unmissed

end World

namespace Duo

def skipping : List Action :=
  [.apply first (listed 2 .shuttingDown .active), .apply first (listed 3 .active .shuttingDown),
    .apply second (listed 3 .active .shuttingDown)]

def skipped : List Snapshot := [listed 2 .shuttingDown .active, listed 3 .active .shuttingDown]

def hosting : World := opened (listed 1 .active .joining) second

theorem hosting_settled : hosting.Settled (listed 1 .active .joining) := by
  refine World.settled_of_tables (World.play_sound (World.empty_sound _ (by decide)) _)
    ?_ ?_ ?_ ?_ ?_ ?_
  · decide +kernel
  · decide +kernel
  · decide +kernel
  · decide +kernel
  · decide +kernel
  · decide +kernel

theorem skipped_fits : ∀ snapshot ∈ skipped, hosting.Fits snapshot := by
  have served : ∀ snapshot ∈ skipped, ∀ silo ∈ snapshot.activeSilos,
      ∃ pair ∈ hosting.cluster.nodes.pairs, pair.1 = silo ∧ pair.2.isRunning = true ∧
        silo ∉ hosting.cluster.unreachable ∧ silo ∈ hosting.cluster.linked := by
    decide +kernel
  have spared : ∀ snapshot ∈ skipped, ∀ pair ∈ hosting.cluster.nodes.pairs,
      pair.2.isRunning = true → snapshot.isDead pair.1 = false := by
    decide +kernel
  exact fun snapshot member => World.fits_of_tables (served snapshot member) (spared snapshot member)

theorem skipping_missing : ¬(hosting.play skipping).HoldsAt first (runningOn second) ∧
    World.Missing hosting first (runningOn second) skipping := by
  have lost : ((hosting.play skipping).node? first).bind (·.partition.roster? grain) = none := by
    decide +kernel
  have unheld : ¬(hosting.play skipping).HoldsAt first (runningOn second) := by
    rintro ⟨node, here, roster, found, _⟩
    rw [here] at lost
    exact absurd (lost.symm.trans found) (by simp)
  refine ⟨unheld, Classical.not_not.mp fun unmissed => unheld ?_⟩
  have followed : ∀ pair ∈ (hosting.play skipping).cluster.nodes.pairs, pair.2.membership =
      .ofSnapshot (hosting.play skipping).cluster.hash
        (hosting.play skipping).cluster.settings.bucketsPerSilo
        (listed 3 .active .shuttingDown) := by
    decide +kernel
  have idle : ∀ lane ∈ (hosting.play skipping).dispatch.lanes, lane.waiting = [] := by
    decide +kernel
  have still : ∃ node ∈ (hosting.play skipping).node? second,
      node.isRunning = true ∧ ⟨runningOn second, true⟩ ∈ node.catalog.hosted := by
    decide +kernel
  have owned : (hosting.play skipping).ownerIn (listed 3 .active .shuttingDown) grain =
      some first := by
    decide +kernel
  obtain ⟨node, here, running, hosts⟩ := still
  refine (World.registered_unless_missing hosting_settled skipped_fits ?_ (by decide)
    (fun silo node here _ => followed _ (Keyed.mem_of_get? here))
    (Dispatch.drained_of_idle idle) here running hosts owned).mpr unmissed
  simp [skipping, skipped, Action.Shifts]

end Duo
end ActorDirectory
