import ActorDirectory.Proofs.Cluster.Missing

-- One change of the membership, taken in by the running silos in any order.
namespace ActorDirectory

namespace World

variable {world before : World} {action : Action} {former latter : Snapshot}
  {silo owner : Silo} {node : Node} {grain : Grain} {address : Address} {run actions : List Action}

-- What stays registered: what runs on running silos, and what ran on stopped ones if its owner
-- stays the same and has no reason to take the host for dead.
def Remains (world : World) (former latter : Snapshot) (address : Address) : Prop :=
  ∃ host node hosted, world.node? host = some node ∧ hosted ∈ node.catalog.hosted ∧
    hosted.address = address ∧ (node.isRunning = true ∨
      world.ownerIn former address.grain = world.ownerIn latter address.grain ∧
        ((latter.changesSince former).isEmpty ∨ latter.isDead host = false))

def RunsOn (world : World) (address : Address) : Prop :=
  ∃ host node, world.node? host = some node ∧ node.isRunning = true ∧
    ∃ hosted ∈ node.catalog.hosted, hosted.address = address

theorem act_runsOn (faithful : world.Faithful) (shifts : action.Shifts (· = latter)) :
    (world.act action).RunsOn address ↔ world.RunsOn address := by
  simp only [RunsOn, act_node? faithful.sound.named shifts, Option.map_eq_some_iff]
  constructor
  · rintro ⟨host, _, ⟨node, here, rfl⟩, running, hosts⟩
    rw [becomes_frame.2] at running
    rw [faithful_becomes faithful shifts] at hosts
    exact ⟨host, node, here, running, hosts⟩
  · rintro ⟨host, node, here, running, hosts⟩
    refine ⟨host, _, ⟨node, here, rfl⟩, becomes_frame.2.trans running, ?_⟩
    rw [faithful_becomes faithful shifts]
    exact hosts

theorem changes_self (snapshot : Snapshot) : (snapshot.changesSince snapshot).isEmpty :=
  Snapshot.changes_isEmpty.mpr ⟨fun _ => rfl, fun _ => id⟩

theorem follow_latter (faithful : world.Faithful) (shifts : action.Shifts (· = latter))
    {snapshot : Snapshot} {current : Membership}
    (affected : world.effect? action = some (node, .follow snapshot))
    (installed : node.installs? world.cluster.hash world.cluster.settings snapshot = some current) :
    snapshot = latter ∧ current = .ofSnapshot world.cluster.hash
      world.cluster.settings.bucketsPerSilo latter := by
  rcases faithful_effect faithful shifts affected with ⟨_, fit, same⟩ | ⟨_, _, _, same, _⟩
  · cases same
    subst fit
    exact ⟨rfl, (Node.installs_eq_some.mp installed).2.2⟩
  · cases same

theorem not_missing (faithful : before.Faithful) (shifts : ∀ action ∈ run, action.Shifts (· = latter))
    (owned : before.ownerIn latter address.grain = some owner) :
    ¬Missing before owner address run := by
  intro missing
  induction missing with
  | @shed run action sheds =>
    obtain ⟨earlier, shift⟩ := Action.shifts_concat.mp shifts
    obtain ⟨node, snapshot, current, _, affected, adopted, other⟩ := sheds
    obtain ⟨_, rfl⟩ := follow_latter (play_faithful faithful earlier) shift affected
      (Node.adopts_eq_some.mp adopted).1
    obtain ⟨hash, settings⟩ := play_settings faithful.sound run
    rw [hash, settings] at other
    exact other owned
  | @still run action _ _ ih => exact ih (Action.shifts_concat.mp shifts).1

-- A silo that knew the former snapshot and does not purge an activation still knows the former
-- one, or has no reason to act on the latter, or owns the grain there.
theorem act_stage (faithful : world.Faithful) (shifts : action.Shifts (· = latter))
    (here : world.node? silo = some node)
    (formerly : node.membership = .ofSnapshot world.cluster.hash
      world.cluster.settings.bucketsPerSilo former)
    (kept : ¬world.Purges action silo address) :
    (world.becomes action node).membership = node.membership ∨
      (latter.changesSince former).isEmpty ∨
      world.ownerIn latter address.grain = some silo ∧ latter.isDead address.silo = false := by
  rcases becomes_cases world action node with ⟨effect, affected, same⟩ | ⟨_, same⟩
  · rcases faithful_effect faithful shifts affected with ⟨snapshot, rfl, rfl⟩ | ⟨_, _, _, rfl, _⟩
    · cases installed : node.installs? world.cluster.hash world.cluster.settings snapshot with
      | none =>
        refine .inl ?_
        rw [same, Node.undergo, Node.apply_membership, installed]
        rfl
      | some current =>
        obtain ⟨_, rfl⟩ := follow_latter faithful shifts affected installed
        by_cases changed : (snapshot.changesSince former).isEmpty
        · exact .inr (.inl changed)
        · have adopted : node.adopts? world.cluster.hash world.cluster.settings snapshot =
              some (.ofSnapshot world.cluster.hash world.cluster.settings.bucketsPerSilo
                snapshot) :=
            Node.adopts_eq_some.mpr ⟨installed, by rw [formerly]; exact changed⟩
          refine .inr (.inr (Classical.not_not.mp fun lost => kept ?_))
          exact ⟨node, snapshot, _, here, affected, adopted, lost⟩
    · exact .inl ((congrArg Node.membership same).trans rfl)
  · exact .inl (congrArg Node.membership same)

theorem play_directed (settled : before.Settled former)
    (shifts : ∀ action ∈ run, action.Shifts (· = latter)) {source target : Silo}
    {single multi : List Address}
    (pending : (before.play run).dispatch.Pending (.handoff source target) (.accept single multi))
    (handed : address ∈ single ++ multi) :
    before.ownerIn latter address.grain = some target := by
  have faithful := settled_faithful settled
  revert pending
  refine play_induction (motive := fun run => (before.play run).dispatch.Pending
    (.handoff source target) (.accept single multi) →
      before.ownerIn latter address.grain = some target) faithful shifts
    (fun pending => absurd pending (settled.drained _ _)) ?_
  intro run action _ shift now directed pending
  rw [play_concat] at pending
  rcases of_act_pending now.sound.named shift pending with pending | asked
  · exact directed pending
  · obtain ⟨node, snapshot, current, owner, _, _, _, _, affected, adopted, same, accepts, singles,
      multis⟩ := act_asked now shift asked
    cases same
    cases accepts
    obtain ⟨_, rfl⟩ := follow_latter now shift affected (Node.adopts_eq_some.mp adopted).1
    obtain ⟨hash, settings⟩ := play_settings faithful.sound run
    rw [hash, settings] at singles multis
    rcases List.mem_append.mp handed with one | many
    · exact (singles address one).2
    · exact (multis address many).2

theorem play_runsOn (faithful : before.Faithful)
    (shifts : ∀ action ∈ run, action.Shifts (· = latter)) :
    (before.play run).RunsOn address ↔ before.RunsOn address := by
  refine play_induction (motive := fun run => (before.play run).RunsOn address ↔
    before.RunsOn address) faithful shifts Iff.rfl ?_
  intro run action _ shift now same
  rw [play_concat]
  exact (act_runsOn now shift).trans same

theorem play_delivers (settled : before.Settled former)
    (shifts : ∀ action ∈ run, action.Shifts (· = latter)) (shifting : action.Shifts (· = latter))
    (delivers : (before.play run).Delivers action silo address) :
    before.ownerIn latter address.grain = some silo ∧ before.RunsOn address := by
  have faithful := play_faithful (settled_faithful settled) shifts
  obtain ⟨node, single, multi, here, affected, handed⟩ := delivers
  rcases faithful_effect faithful shifting affected with
    ⟨_, _, same⟩ | ⟨source, _, _, same, performs⟩
  · cases same
  · cases same
    have name := faithful.sound.named silo node here
    have pending := performs_pending performs
    rw [name] at pending
    refine ⟨play_directed settled shifts pending handed, ?_⟩
    rw [← play_runsOn (settled_faithful settled) shifts]
    obtain ⟨source, _, _, _, host, same, accepts, there, running, singles, multis⟩ :=
      faithful.errands _ _ pending
    cases same
    cases accepts
    refine ⟨source, host, there, running, ?_⟩
    rcases List.mem_append.mp handed with one | many
    · exact ⟨_, singles address one, rfl⟩
    · exact ⟨_, multis address many, rfl⟩

def Formerly (world : World) (former : Snapshot) (silo : Silo) : Prop :=
  ∃ node, world.node? silo = some node ∧ node.membership =
    .ofSnapshot world.cluster.hash world.cluster.settings.bucketsPerSilo former

theorem act_formerly (faithful : world.Faithful) (shifts : action.Shifts (· = latter))
    (formerly : world.Formerly former silo) (kept : ¬world.Purges action silo address) :
    (world.act action).Formerly former silo ∨ (latter.changesSince former).isEmpty ∨
      world.ownerIn latter address.grain = some silo ∧ latter.isDead address.silo = false := by
  obtain ⟨node, here, formerly⟩ := formerly
  rcases act_stage faithful shifts here formerly kept with same | either
  · refine .inl ⟨_, act_becomes faithful.sound.named shifts here, ?_⟩
    obtain ⟨hash, settings, _⟩ := act_network faithful.sound.named shifts
    rw [hash, settings, same, formerly]
  · exact .inr either

def IsUp (world : World) (silo : Silo) : Prop :=
  ∃ node, world.node? silo = some node ∧ node.isRunning = true

-- Where an activation is registered during a run, and why.
structure Origin (before : World) (former latter : Snapshot) (silo : Silo) (address : Address)
    (run : List Action) : Prop where
  placed : before.ownerIn latter address.grain = some silo ∨
    (before.play run).Formerly former silo ∧ before.ownerIn former address.grain = some silo
  runs : before.RunsOn address ∨ before.HoldsAt silo address ∧
    ((before.play run).Formerly former silo ∨ (latter.changesSince former).isEmpty ∨
      latter.isDead address.silo = false)

theorem settled_origin (settled : before.Settled former) (up : before.IsUp silo)
    (holds : before.HoldsAt silo address) : before.Origin former latter silo address [] := by
  obtain ⟨owned, _⟩ := settled.nothingElse silo address holds
  obtain ⟨node, here, running⟩ := up
  rcases settled.follows silo node here running with follows | new
  · have formerly : before.Formerly former silo := ⟨node, here, follows⟩
    exact ⟨.inr ⟨formerly, owned⟩, .inr ⟨holds, .inl formerly⟩⟩
  · obtain ⟨_, holding, _, found, _⟩ := holds
    rw [here] at holding
    cases holding
    rw [new] at found
    cases found

theorem play_origin (settled : before.Settled former)
    (shifts : ∀ action ∈ run, action.Shifts (· = latter))
    (holds : (before.play run).HoldsAt silo address) (up : before.IsUp silo) :
    before.Origin former latter silo address run := by
  have faithful := settled_faithful settled
  revert holds
  refine play_induction (motive := fun run => (before.play run).HoldsAt silo address →
    before.Origin former latter silo address run) faithful shifts
    (settled_origin settled up) ?_
  intro run action earlier shift now origin holds
  rw [play_concat] at holds
  rcases (act_holds now shift).mp holds with delivers | ⟨holds, kept⟩
  · obtain ⟨owned, runs⟩ := play_delivers settled earlier shift delivers
    exact ⟨.inl owned, .inl runs⟩
  · obtain ⟨placed, runs⟩ := origin holds
    obtain ⟨hash, settings⟩ := play_settings faithful.sound run
    have staged : (before.play run).Formerly former silo →
        (before.play (run ++ [action])).Formerly former silo ∨
          (latter.changesSince former).isEmpty ∨
          before.ownerIn latter address.grain = some silo ∧
            latter.isDead address.silo = false := by
      intro formerly
      have next := act_formerly now shift formerly kept
      rwa [ownerIn, Cluster.ownerIn, hash, settings, ← play_concat] at next
    refine ⟨?_, ?_⟩
    · rcases placed with owned | ⟨formerly, owned⟩
      · exact .inl owned
      · rcases staged formerly with formerly | unchanged | ⟨assigned, _⟩
        · exact .inr ⟨formerly, owned⟩
        · exact .inl ((Membership.owner_of_unchanged unchanged address.grain).trans owned)
        · exact .inl assigned
    · rcases runs with runs | ⟨held, formerly | either⟩
      · exact .inl runs
      · rcases staged formerly with formerly | unchanged | ⟨_, alive⟩
        · exact .inr ⟨held, .inl formerly⟩
        · exact .inr ⟨held, .inr (.inl unchanged)⟩
        · exact .inr ⟨held, .inr (.inr alive)⟩
      · exact .inr ⟨held, .inr either⟩

inductive Knows (before : World) (former latter : Snapshot) (silo : Silo) (run : List Action)
    (membership : Membership) : Prop where
  | latter : membership = .ofSnapshot before.cluster.hash before.cluster.settings.bucketsPerSilo
      latter → Knows before former latter silo run membership
  | former : .apply silo latter ∉ run → membership = .ofSnapshot before.cluster.hash
      before.cluster.settings.bucketsPerSilo former → Knows before former latter silo run membership
  | nothing : .apply silo latter ∉ run → before.node? silo = some { silo } →
      membership = .empty → Knows before former latter silo run membership

theorem play_knows (settled : before.Settled former)
    (newer : former.epoch.number < latter.epoch.number)
    (shifts : ∀ action ∈ run, action.Shifts (· = latter))
    (here : (before.play run).node? silo = some node) (running : node.isRunning = true) :
    Knows before former latter silo run node.membership := by
  have faithful := settled_faithful settled
  revert node
  refine play_induction (motive := fun run => ∀ {node}, (before.play run).node? silo = some node →
    node.isRunning = true → Knows before former latter silo run node.membership) faithful shifts
    ?_ ?_
  · intro node here running
    rcases settled.follows silo node here running with follows | new
    · exact .former (by simp) follows
    · exact .nothing (by simp) (new ▸ here) (by rw [new])
  · intro run action _ shift now knew node here running
    rw [play_concat] at here
    obtain ⟨node, there, rfl⟩ := act_came now.sound.named shift here
    rw [becomes_frame.2] at running
    have knows := knew there running
    have unaffected : ((before.play run).becomes action node).membership = node.membership →
        (∀ snapshot, (before.play run).effect? action ≠ some (node, .follow snapshot)) →
        Knows before former latter silo (run ++ [action])
          ((before.play run).becomes action node).membership := by
      intro same clear
      have absent : .apply silo latter ≠ action := by
        rintro rfl
        exact clear latter (by simp [effect?, there])
      rw [same]
      cases knows with
      | latter known => exact .latter known
      | former unapplied known => exact .former (by simp [unapplied, absent]) known
      | nothing unapplied new known => exact .nothing (by simp [unapplied, absent]) new known
    rcases becomes_cases (before.play run) action node with ⟨effect, affected, same⟩ | ⟨clear, same⟩
    · rcases faithful_effect now shift affected with
        ⟨snapshot, rfl, rfl⟩ | ⟨source, single, multi, rfl, _⟩
      · have fresh : ¬snapshot.epoch.number < node.membership.snapshot.epoch.number := by
          cases knows with
          | latter known => rw [known]; exact UInt64.lt_irrefl _
          | former _ known => rw [known]; exact UInt64.lt_asymm newer
          | nothing _ _ known => rw [known]; exact UInt64.not_lt_zero
        obtain ⟨hash, settings⟩ := play_settings faithful.sound run
        refine .latter ?_
        rw [same, Node.undergo, Node.apply_membership,
          Node.installs_eq_some.mpr ⟨running, fresh, rfl⟩, hash, settings]
        rfl
      · refine unaffected (by rw [same]; rfl) fun snapshot other => ?_
        rw [affected] at other
        cases other
    · exact unaffected (by rw [same]) fun snapshot => clear _

theorem play_retained (settled : before.Settled former)
    (newer : former.epoch.number < latter.epoch.number)
    (shifts : ∀ action ∈ run, action.Shifts (· = latter))
    (owned : before.ownerIn latter address.grain = some silo) (holds : before.HoldsAt silo address)
    (spared : (latter.changesSince former).isEmpty ∨ latter.isDead address.silo = false) :
    (before.play run).HoldsAt silo address := by
  have faithful := settled_faithful settled
  refine play_induction (motive := fun run => (before.play run).HoldsAt silo address) faithful
    shifts holds ?_
  intro run action earlier shift now retained
  rw [play_concat]
  refine (act_holds now shift).mpr (.inr ⟨retained, ?_⟩)
  rintro ⟨node, snapshot, current, here, affected, adopted, lost⟩
  obtain ⟨installed, changed⟩ := Node.adopts_eq_some.mp adopted
  obtain ⟨_, rfl⟩ := follow_latter now shift affected installed
  obtain ⟨hash, settings⟩ := play_settings faithful.sound run
  rw [hash, settings] at lost
  have running := (Node.installs_eq_some.mp installed).1
  refine lost ⟨owned, spared.resolve_left fun unchanged => changed ?_⟩
  cases play_knows settled newer earlier here running with
  | latter known => rw [known]; exact changes_self latter
  | former _ known => rw [known]; exact unchanged
  | nothing _ new _ =>
    obtain ⟨_, there, _, found, _⟩ := holds
    rw [new] at there
    cases there
    cases found

theorem play_hosting (faithful : before.Faithful)
    (shifts : ∀ action ∈ run, action.Shifts (· = latter)) (silo : Silo) :
    ((before.play run).node? silo).map (fun node => (node.catalog, node.isRunning)) =
      (before.node? silo).map fun node => (node.catalog, node.isRunning) := by
  refine play_induction (motive := fun run => ((before.play run).node? silo).map
    (fun node => (node.catalog, node.isRunning)) =
      (before.node? silo).map fun node => (node.catalog, node.isRunning)) faithful shifts rfl ?_
  intro run action _ shift now same
  rw [play_concat, act_node? now.sound.named shift, ← same, Option.map_map]
  refine congrArg (Option.map · _) (funext fun node => ?_)
  simp only [Function.comp_apply, faithful_becomes now shift, becomes_frame.2]

theorem play_host (faithful : before.Faithful)
    (shifts : ∀ action ∈ run, action.Shifts (· = latter)) (here : before.node? silo = some node) :
    ∃ after, (before.play run).node? silo = some after ∧ after.catalog = node.catalog ∧
      after.isRunning = node.isRunning := by
  have same := play_hosting faithful shifts silo
  rw [here] at same
  obtain ⟨after, there, equal⟩ := Option.map_eq_some_iff.mp same
  exact ⟨after, there, (Prod.mk.injEq .. ▸ equal).1, (Prod.mk.injEq .. ▸ equal).2⟩

theorem play_latter (settled : before.Settled former)
    (newer : former.epoch.number < latter.epoch.number)
    (shifts : ∀ action ∈ actions, action.Shifts (· = latter))
    (everyone : ∀ silo, before.IsUp silo → .apply silo latter ∈ actions)
    (here : (before.play actions).node? silo = some node) (running : node.isRunning = true) :
    node.membership =
      .ofSnapshot before.cluster.hash before.cluster.settings.bucketsPerSilo latter := by
  have applied : .apply silo latter ∈ actions := by
    have same := play_hosting (settled_faithful settled) shifts silo
    rw [here] at same
    obtain ⟨earlier, there, equal⟩ := Option.map_eq_some_iff.mp same.symm
    exact everyone silo ⟨earlier, there, (Prod.mk.injEq .. ▸ equal).2.trans running⟩
  cases play_knows settled newer shifts here running with
  | latter known => exact known
  | former unapplied _ => exact absurd applied unapplied
  | nothing unapplied _ _ => exact absurd applied unapplied

theorem not_formerly (settled : before.Settled former)
    (newer : former.epoch.number < latter.epoch.number)
    (shifts : ∀ action ∈ actions, action.Shifts (· = latter))
    (everyone : ∀ silo, before.IsUp silo → .apply silo latter ∈ actions) (up : before.IsUp silo) :
    ¬(before.play actions).Formerly former silo := by
  rintro ⟨node, here, known⟩
  obtain ⟨first, there, running⟩ := up
  obtain ⟨after, afterwards, _, alike⟩ := play_host (settled_faithful settled) shifts there
  rw [here] at afterwards
  cases afterwards
  have latest := play_latter settled newer shifts everyone here (alike.trans running)
  have same : former = latter := congrArg Membership.snapshot (known.symm.trans latest)
  exact UInt64.lt_irrefl _ (same ▸ newer)

theorem remains_of_holds (settled : before.Settled former)
    (newer : former.epoch.number < latter.epoch.number)
    (shifts : ∀ action ∈ actions, action.Shifts (· = latter))
    (everyone : ∀ silo, before.IsUp silo → .apply silo latter ∈ actions) (up : before.IsUp silo)
    (holds : (before.play actions).HoldsAt silo address) :
    before.ownerIn latter address.grain = some silo ∧ before.Remains former latter address := by
  obtain ⟨placed, origin⟩ := play_origin settled shifts holds up
  have done := not_formerly settled newer shifts everyone up
  have owned := placed.resolve_right fun formerly => done formerly.1
  refine ⟨owned, ?_⟩
  rcases origin with ⟨host, node, here, running, hosted, hosts, same⟩ | ⟨held, spared⟩
  · exact ⟨host, node, hosted, here, hosts, same, .inl running⟩
  · obtain ⟨assigned, hosted, ⟨host, node, here, hosts⟩, rfl⟩ :=
      settled.nothingElse silo address held
    have home := settled.atHome host hosted ⟨node, here, hosts⟩
    refine ⟨host, node, hosted, here, hosts, rfl, .inr ⟨assigned.trans owned.symm, ?_⟩⟩
    exact home ▸ spared.resolve_left done

theorem holds_of_remains (settled : before.Settled former)
    (newer : former.epoch.number < latter.epoch.number) (fits : before.Fits latter)
    (shifts : ∀ action ∈ actions, action.Shifts (· = latter))
    (everyone : ∀ silo, before.IsUp silo → .apply silo latter ∈ actions)
    (drained : (before.play actions).dispatch.IsDrained)
    (owned : before.ownerIn latter address.grain = some owner)
    (remains : before.Remains former latter address) :
    (before.play actions).HoldsAt owner address := by
  have faithful := settled_faithful settled
  obtain ⟨hash, settings⟩ := play_settings faithful.sound actions
  obtain ⟨host, node, hosted, here, hosts, rfl, running | ⟨same, spared⟩⟩ := remains
  · obtain ⟨after, there, catalog, up⟩ := play_host faithful shifts here
    have latest := play_latter settled newer shifts everyone there (up.trans running)
    have active := Cluster.ownerIn_active owned
    have serves := (play_fits faithful shifts fits).served owner active
    have assigned : after.owner? (before.play actions).cluster.hash hosted.address.grain =
        some owner := by
      rw [Node.owner?, latest, hash]
      exact owned
    rcases play_accounted settled shifts (fun _ same => same ▸ fits) host after hosted owner there
      (up.trans running) (catalog ▸ hosts) assigned serves with
      ⟨single, multi, pending, _⟩ | holds | missing
    · exact absurd pending (drained _ _)
    · exact holds
    · exact absurd missing (not_missing faithful shifts owned)
  · obtain ⟨known, assigned, held⟩ := settled.registered hosted ⟨host, node, here, hosts⟩
    have equal : known = owner := Option.some.inj (assigned.symm.trans (same.trans owned))
    subst equal
    have home := settled.atHome host hosted ⟨node, here, hosts⟩
    exact play_retained settled newer shifts owned held (home.symm ▸ spared)

-- After every running silo took the snapshot in and all that was asked for is done, the owners
-- hold what remains, nobody else holds anything, and no activation was torn down.
theorem registrations_conserved (settled : before.Settled former)
    (newer : former.epoch.number < latter.epoch.number) (fits : before.Fits latter)
    (someone : ∃ silo, latter.isActive silo = true)
    (shifts : ∀ action ∈ actions, action.Shifts (· = latter))
    (everyone : ∀ silo, before.IsUp silo → .apply silo latter ∈ actions)
    (drained : (before.play actions).dispatch.IsDrained) :
    (∀ grain, ∃ owner, before.ownerIn latter grain = some owner ∧
      (∀ inst : Instance, (before.play actions).HoldsAt owner (inst.address grain) ↔
        before.Remains former latter (inst.address grain)) ∧
      ∀ silo, (before.play actions).Lists silo grain → silo = owner) ∧
    ∀ silo, ((before.play actions).node? silo).map Node.catalog =
      (before.node? silo).map Node.catalog := by
  have faithful := settled_faithful settled
  have catalogs : ∀ silo, ((before.play actions).node? silo).map Node.catalog =
      (before.node? silo).map Node.catalog := by
    intro silo
    simpa only [Option.map_map, Function.comp_def] using
      congrArg (Option.map Prod.fst) (play_hosting faithful shifts silo)
  refine ⟨fun grain => ?_, catalogs⟩
  obtain ⟨silo, active⟩ := someone
  obtain ⟨owner, owned⟩ := Cluster.ownerIn_exists faithful.sound.valid active grain
  have serves := fits.served owner (Cluster.ownerIn_active owned)
  have up : before.IsUp owner := by
    obtain ⟨node, reached, running⟩ := serves
    exact ⟨node, (Cluster.reach_ok reached).2.2, running⟩
  refine ⟨owner, owned, fun inst => ⟨fun holds => ?_, fun remains => ?_⟩, ?_⟩
  · exact (remains_of_holds settled newer shifts everyone up holds).2
  · exact holds_of_remains settled newer fits shifts everyone drained owned remains
  · rintro other ⟨node, here, running, present⟩
    obtain ⟨roster, found⟩ := Option.isSome_iff_exists.mp present
    obtain ⟨occupied, _⟩ :=
      (play_faithful faithful shifts).welcomes other node here grain roster found
    obtain ⟨inst, listed⟩ := List.exists_mem_of_ne_nil _ occupied
    have stood : before.IsUp other := by
      have same := play_hosting faithful shifts other
      rw [here] at same
      obtain ⟨first, there, equal⟩ := Option.map_eq_some_iff.mp same.symm
      exact ⟨first, there, (Prod.mk.injEq .. ▸ equal).2.trans running⟩
    have holds : (before.play actions).HoldsAt other (inst.address grain) :=
      ⟨node, here, roster, found, listed⟩
    have placed := (remains_of_holds settled newer shifts everyone stood holds).1
    exact Option.some.inj (placed.symm.trans owned)

end World

namespace Duo

def succeeding : List Action :=
  [.apply first (listed 2 .shuttingDown .active), .apply second (listed 2 .shuttingDown .active),
    .turn 0]

theorem succession_conserved : (hosting.play succeeding).HoldsAt second (runningOn second) ∧
    ¬(hosting.play succeeding).Lists first grain := by
  have served : ∀ silo ∈ (listed 2 .shuttingDown .active).activeSilos,
      ∃ pair ∈ hosting.cluster.nodes.pairs, pair.1 = silo ∧ pair.2.isRunning = true ∧
        silo ∉ hosting.cluster.unreachable ∧ silo ∈ hosting.cluster.linked := by
    decide +kernel
  have spared : ∀ pair ∈ hosting.cluster.nodes.pairs, pair.2.isRunning = true →
      (listed 2 .shuttingDown .active).isDead pair.1 = false := by
    decide +kernel
  have everyone : ∀ pair ∈ hosting.cluster.nodes.pairs,
      .apply pair.1 (listed 2 .shuttingDown .active) ∈ succeeding := by
    decide +kernel
  have idle : ∀ lane ∈ (hosting.play succeeding).dispatch.lanes, lane.waiting = [] := by
    decide +kernel
  have owned : hosting.ownerIn (listed 2 .shuttingDown .active) grain = some second := by
    decide +kernel
  have running : ∃ node ∈ hosting.node? second, node.isRunning = true ∧
      ⟨runningOn second, true⟩ ∈ node.catalog.hosted := by
    decide +kernel
  obtain ⟨node, here, up, hosts⟩ := running
  obtain ⟨owner, assigned, exactly, nobody⟩ := (World.registrations_conserved hosting_settled
    (by decide) (World.fits_of_tables served spared) ⟨second, by decide⟩
    (by simp [succeeding, Action.Shifts])
    (fun silo ⟨node, here, _⟩ => everyone _ (Keyed.mem_of_get? here))
    (Dispatch.drained_of_idle idle)).1 grain
  have same : owner = second := Option.some.inj (assigned.symm.trans owned)
  subst same
  refine ⟨(exactly (runningOn second).toInstance).mpr
    ⟨second, node, _, here, hosts, rfl, .inl up⟩, fun lists => ?_⟩
  exact absurd (nobody first lists) (by decide)

-- The host stops. It was called dead before, so that the next snapshot changes nothing.
def bereft : World := (opened (listed 1 .active .dead) second).act (.stop second)

def unnoticed : List Action := [.apply first (listed 2 .active .dead)]

theorem bereft_settled : bereft.Settled (listed 1 .active .dead) := by
  refine World.settled_of_tables
    (World.act_sound (World.play_sound (World.empty_sound _ (by decide)) _) _) ?_ ?_ ?_ ?_ ?_ ?_
  · decide +kernel
  · decide +kernel
  · decide +kernel
  · decide +kernel
  · decide +kernel
  · decide +kernel

-- It is not so that just what runs on running silos stays registered.
theorem stopped_stays_registered : ¬∀ (before : World) (former latter : Snapshot)
    (actions : List Action), before.Settled former →
    former.epoch.number < latter.epoch.number → before.Fits latter →
    (∃ silo, latter.isActive silo = true) → (∀ action ∈ actions, action.Shifts (· = latter)) →
    (∀ silo, before.IsUp silo → .apply silo latter ∈ actions) →
    (before.play actions).dispatch.IsDrained → ∀ owner address,
      before.ownerIn latter address.grain = some owner →
        ((before.play actions).HoldsAt owner address ↔ before.RunsOn address) := by
  intro claimed
  have served : ∀ silo ∈ (listed 2 .active .dead).activeSilos,
      ∃ pair ∈ bereft.cluster.nodes.pairs, pair.1 = silo ∧ pair.2.isRunning = true ∧
        silo ∉ bereft.cluster.unreachable ∧ silo ∈ bereft.cluster.linked := by
    decide +kernel
  have spared : ∀ pair ∈ bereft.cluster.nodes.pairs, pair.2.isRunning = true →
      (listed 2 .active .dead).isDead pair.1 = false := by
    decide +kernel
  have everyone : ∀ pair ∈ bereft.cluster.nodes.pairs, pair.2.isRunning = true →
      .apply pair.1 (listed 2 .active .dead) ∈ unnoticed := by
    decide +kernel
  have idle : ∀ lane ∈ (bereft.play unnoticed).dispatch.lanes, lane.waiting = [] := by
    decide +kernel
  have owned : bereft.ownerIn (listed 2 .active .dead) grain = some first := by
    decide +kernel
  have held : ∃ node ∈ (bereft.play unnoticed).node? first,
      ∃ roster ∈ node.partition.roster? grain,
        (runningOn second).toInstance ∈ roster.instances := by
    decide +kernel
  have stopped : ∀ pair ∈ bereft.cluster.nodes.pairs, pair.2.isRunning = true →
      ∀ hosted ∈ pair.2.catalog.hosted, hosted.address ≠ runningOn second := by
    decide +kernel
  have exactly := claimed bereft (listed 1 .active .dead) (listed 2 .active .dead) unnoticed
    bereft_settled (by decide) (World.fits_of_tables served spared) ⟨first, by decide⟩
    (by simp [unnoticed, Action.Shifts])
    (fun silo ⟨node, here, running⟩ => everyone _ (Keyed.mem_of_get? here) running)
    (Dispatch.drained_of_idle idle) first (runningOn second) owned
  obtain ⟨host, node, here, running, hosted, hosts, same⟩ := exactly.mp held
  exact stopped _ (Keyed.mem_of_get? here) running hosted hosts same

end Duo
end ActorDirectory
