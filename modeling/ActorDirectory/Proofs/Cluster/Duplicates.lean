import ActorDirectory.Proofs.Cluster.Contested

-- Where silos that saw different members come to see the same, one activation of a grain stays.
-- An instruction to tear another one down is passed over while the owner does not take the host
-- for active, and nothing asks for it again; this is what it takes for a duplicate to run on.
namespace ActorDirectory

namespace World

variable {start world : World} {action : Action} {latter : Snapshot} {owner silo : Silo}
  {node : Node} {grain : Grain} {address : Address} {hosted : Hosted} {run : List Action}

def Overlooks (world : World) (action : Action) (owner : Silo) (address : Address) : Prop :=
  ∃ node addresses, world.node? owner = some node ∧
    world.Performs action (.handoff owner address.silo) (.destroy addresses) ∧
    address ∈ addresses ∧ node.membership.snapshot.isActive address.silo = false

-- It was passed over so, and no such instruction reached the host since.
inductive Overlooked (start : World) (owner : Silo) (address : Address) : List Action → Prop where
  | skipped {run : List Action} {action : Action} :
      (start.play run).Overlooks action owner address →
      Overlooked start owner address (run ++ [action])
  | still {run : List Action} {action : Action} : Overlooked start owner address run →
      ¬(start.play run).Strikes action address.silo address →
      Overlooked start owner address (run ++ [action])

theorem play_contested (contested : start.Contested latter owner grain)
    (shifts : ∀ action ∈ run, action.Shifts (· = latter)) :
    (start.play run).Contested latter owner grain :=
  (run_induction (·.Contested latter owner grain) (motive := fun _ => True)
    (fun _ _ => act_contested) contested shifts trivial fun _ _ _ _ _ => id).1

theorem contested_induction {motive : List Action → Prop}
    (contested : start.Contested latter owner grain)
    (shifts : ∀ action ∈ run, action.Shifts (· = latter)) (initially : motive [])
    (next : ∀ run action, (∀ action ∈ run, action.Shifts (· = latter)) →
      action.Shifts (· = latter) → (start.play run).Contested latter owner grain →
      motive run → motive (run ++ [action])) : motive run :=
  (run_induction (·.Contested latter owner grain) (fun _ _ => act_contested) contested shifts
    initially next).2

theorem of_play_hosts (contested : start.Contested latter owner grain)
    (shifts : ∀ action ∈ run, action.Shifts (· = latter))
    (hosts : (start.play run).Hosts silo hosted) : start.Hosts silo hosted := by
  revert hosts
  refine contested_induction (motive := fun run => (start.play run).Hosts silo hosted →
    start.Hosts silo hosted) contested shifts id ?_
  intro run action _ shift now earlier hosts
  rw [play_concat] at hosts
  exact earlier ((act_hosting now.sound.named shift).mp hosts).1

theorem play_remains (contested : start.Contested latter owner grain)
    (shifts : ∀ action ∈ run, action.Shifts (· = latter)) (hosts : start.Hosts silo hosted)
    (same : hosted.address.grain = grain) : (start.play run).Hosts silo hosted ∨
      (start.play run).Buried silo hosted.address ∧
        (start.play run).Beaten owner hosted.address := by
  refine contested_induction (motive := fun run => (start.play run).Hosts silo hosted ∨
    (start.play run).Buried silo hosted.address ∧ (start.play run).Beaten owner hosted.address)
    contested shifts (.inl hosts) ?_
  intro run action _ shift now earlier
  rw [play_concat]
  have named := now.sound.named
  rcases earlier with hosts | ⟨buried, beaten⟩
  · by_cases strikes : (start.play run).Strikes action silo hosted.address
    · have beaten := (strikes_beaten now shift strikes same).1
      exact .inr ⟨strikes_buries named shift hosts strikes, act_beaten now shift same beaten⟩
    · exact .inl ((act_hosting named shift).mpr ⟨hosts, strikes⟩)
  · exact .inr ⟨act_buried named shift buried, act_beaten now shift same beaten⟩

-- As long as the owner does not take a host for active, nothing is torn down there.
theorem play_unlisted (contested : start.Contested latter owner grain)
    (shifts : ∀ action ∈ run, action.Shifts (· = latter)) (hosts : start.Hosts silo hosted)
    (same : hosted.address.grain = grain) (here : (start.play run).node? owner = some node)
    (unlisted : node.membership.snapshot.isActive silo = false) :
    (start.play run).Hosts silo hosted := by
  revert node
  refine contested_induction (motive := fun run => ∀ {node},
    (start.play run).node? owner = some node → node.membership.snapshot.isActive silo = false →
      (start.play run).Hosts silo hosted) contested shifts (fun _ _ => hosts) ?_
  intro run action _ shift now earlier after found unlisted
  have named := now.sound.named
  rw [play_concat] at found
  obtain ⟨node, here, rfl⟩ := act_came named shift found
  have before : node.membership.snapshot.isActive silo = false := by
    rcases becomes_sees now shift node with kept | latest
    · exact kept ▸ unlisted
    · obtain ⟨host, there, _⟩ := hosts
      rw [latest] at unlisted
      exact absurd (unlisted.symm.trans (contested.up silo host there).2) Bool.false_ne_true
  rw [play_concat]
  exact (act_hosting named shift).mpr
    ⟨earlier here before, unlisted_unstruck now shift here before same⟩

theorem overlooked_runs (contested : start.Contested latter owner grain)
    (shifts : ∀ action ∈ run, action.Shifts (· = latter))
    (hosts : start.Hosts silo hosted) (same : hosted.address.grain = grain)
    (overlooked : Overlooked start owner hosted.address run) :
    (start.play run).Hosts silo hosted ∧ (start.play run).Beaten owner hosted.address := by
  have home := (contested.lone silo hosted hosts same).2
  induction overlooked with
  | @skipped run action overlooks =>
    obtain ⟨earlier, shift⟩ := Action.shifts_concat.mp shifts
    have now := play_contested contested earlier
    obtain ⟨node, addresses, here, performs, doomed, unlisted⟩ := overlooks
    rw [home] at unlisted
    rw [play_concat]
    exact ⟨(act_hosting now.sound.named shift).mpr
      ⟨play_unlisted contested earlier hosts same here unlisted,
        unlisted_unstruck now shift here unlisted same⟩,
      act_beaten now shift same (due_destroy now performs _ doomed same).2.2⟩
  | @still run action _ unstruck ih =>
    obtain ⟨earlier, shift⟩ := Action.shifts_concat.mp shifts
    have now := play_contested contested earlier
    obtain ⟨hosts, beaten⟩ := ih earlier
    rw [play_concat]
    exact ⟨(act_hosting now.sound.named shift).mpr ⟨hosts, home ▸ unstruck⟩,
      act_beaten now shift same beaten⟩

-- How far an activation has come that runs: its host does not see the owner yet, or a hand-over
-- is on its way, and then it has won, is to be torn down, or was overlooked.
inductive Trace (world : World) (owner silo : Silo) (address : Address) (overlooked : Prop) :
    Prop where
  | ahead : ¬world.Sees silo owner address.grain → Trace world owner silo address overlooked
  | handed {single multi : List Address} :
      world.dispatch.Pending (.handoff silo owner) (.accept single multi) →
      address ∈ single ++ multi → Trace world owner silo address overlooked
  | won {winner : Instance} : world.Won owner address.grain winner →
      winner.activation = address.activation → Trace world owner silo address overlooked
  | condemned {addresses : List Address} :
      world.dispatch.Pending (.handoff owner silo) (.destroy addresses) →
      address ∈ addresses → Trace world owner silo address overlooked
  | overlooked : overlooked → Trace world owner silo address overlooked

section Step

variable (contested : world.Contested latter owner grain) (shifts : action.Shifts (· = latter))

include contested shifts

theorem sees_hands (hosts : world.Hosts silo hosted) (same : hosted.address.grain = grain)
    (ahead : ¬world.Sees silo owner grain) (sees : (world.act action).Sees silo owner grain) :
    ∃ single multi, (world.act action).dispatch.Pending (.handoff silo owner)
      (.accept single multi) ∧ hosted.address ∈ single ++ multi := by
  have named := contested.sound.named
  obtain ⟨node, here, present⟩ := hosts
  have unseen : node.owner? world.cluster.hash grain ≠ some owner :=
    fun owned => ahead ⟨node, here, owned⟩
  obtain ⟨_, found, owned⟩ := sees
  cases found.symm.trans (act_becomes named shifts here)
  rw [(act_network named shifts).1] at owned
  cases becomes_fares contested shifts node with
  | kept _ becomes =>
    rw [becomes] at owned
    exact absurd owned unseen
  | handed _ _ becomes =>
    rw [becomes] at owned
    exact absurd owned unseen
  | condemned _ _ _ becomes =>
    rw [becomes] at owned
    exact absurd owned unseen
  | told told becomes =>
    rw [becomes] at owned
    cases adopted : node.adopts? world.cluster.hash world.cluster.settings latter with
    | none =>
      rw [Node.apply_owner (contested.sound.made silo node here) adopted] at owned
      exact absurd owned unseen
    | some current =>
      obtain ⟨installed, _⟩ := Node.adopts_eq_some.mp adopted
      obtain ⟨running, _, rfl⟩ := Node.installs_eq_some.mp installed
      subst same
      obtain ⟨single, multi, asked, inside⟩ := Node.asks_moved
        (Settings.positive contested.sound.valid).1 adopted present contested.owned unseen
      rw [named silo node here] at asked
      refine ⟨single, multi, act_asks named shifts
        (contested.sound.accepting silo node here running _ rfl) ?_, inside⟩
      rw [asks, told]
      exact asked

theorem handed_settles {single multi : List Address}
    (performs : world.Performs action (.handoff silo owner) (.accept single multi))
    (handed : address ∈ single ++ multi) (same : address.grain = grain) :
    (∃ winner, (world.act action).Won owner grain winner ∧
      winner.activation = address.activation) ∨
    ∃ addresses, (world.act action).dispatch.Pending (.handoff owner address.silo)
      (.destroy addresses) ∧ address ∈ addresses := by
  have named := contested.sound.named
  obtain ⟨singles, multis⟩ := due_accept contested performs
  have present : address ∈ single :=
    (List.mem_append.mp handed).resolve_right fun many => multis address many same
  obtain ⟨_, _, ⟨sender, there, owned⟩, _⟩ := singles address present same
  have active := Membership.owner_active (contested.sound.made silo sender there) owned
  obtain ⟨node, here, received⟩ := served_receives there active contested.serves
  have affected : world.effect? action = some (node, .accept single multi) := by
    simp [performs_effect performs, Cluster.effect?, received]
  obtain ⟨winner, won, fares⟩ :=
    handed_fares contested shifts performs here affected present same
  by_cases alike : winner.activation = address.activation
  · exact .inl ⟨winner, won, alike⟩
  · obtain ⟨addresses, asked, doomed⟩ := Node.asks_loser (fares.mpr alike)
    rw [named owner node here] at asked
    obtain ⟨_, reached, running⟩ := contested.serves
    have found := (Cluster.reach_ok reached).2.2
    cases here.symm.trans found
    refine .inr ⟨addresses, act_asks named shifts
      (contested.sound.accepting owner node here running _ rfl) ?_, doomed⟩
    rw [asks, affected]
    exact asked

omit shifts in
theorem condemned_strikes {addresses : List Address} (hosts : world.Hosts silo hosted)
    (same : hosted.address.grain = grain) (doomed : hosted.address ∈ addresses)
    (performs : world.Performs action (.handoff owner silo) (.destroy addresses)) :
    world.Strikes action silo hosted.address ∨ world.Overlooks action owner hosted.address := by
  have home := (contested.lone silo hosted hosts same).2
  obtain ⟨host, there, _⟩ := hosts
  obtain ⟨node, reached, _⟩ := contested.serves
  have here : world.node? owner = some node := (Cluster.reach_ok reached).2.2
  cases listed : node.membership.snapshot.isActive silo with
  | true =>
    obtain ⟨target, found, received⟩ := served_receives here listed (contested.up silo host there).1
    refine .inl ⟨target, addresses, found, ?_, doomed⟩
    simp [performs_effect performs, Cluster.effect?, received]
  | false => exact .inr ⟨node, addresses, here, home.symm ▸ performs, doomed, home.symm ▸ listed⟩

theorem act_trace {before after : Prop} (hosts : (world.act action).Hosts silo hosted)
    (same : hosted.address.grain = grain)
    (skipped : world.Overlooks action owner hosted.address → after)
    (still : before → ¬world.Strikes action silo hosted.address → after)
    (trace : world.Trace owner silo hosted.address before) :
    (world.act action).Trace owner silo hosted.address after := by
  obtain ⟨hosts, unstruck⟩ := (act_hosting contested.sound.named shifts).mp hosts
  cases trace with
  | ahead ahead =>
    rw [same] at ahead
    by_cases sees : (world.act action).Sees silo owner grain
    · obtain ⟨single, multi, pending, handed⟩ :=
        sees_hands contested shifts hosts same ahead sees
      exact .handed pending handed
    · exact .ahead (same ▸ sees)
  | handed pending handed =>
    rcases act_pending shifts pending with kept | performs
    · exact .handed kept handed
    · rcases handed_settles contested shifts performs handed same with
        ⟨winner, won, alike⟩ | ⟨addresses, pending, doomed⟩
      · exact .won (same ▸ won) alike
      · exact .condemned ((contested.lone silo hosted hosts same).2 ▸ pending) doomed
  | won won alike => exact .won (same ▸ act_won contested shifts (same ▸ won)) alike
  | condemned pending doomed =>
    rcases act_pending shifts pending with kept | performs
    · exact .condemned kept doomed
    · rcases condemned_strikes contested hosts same doomed performs with strikes | overlooks
      · exact absurd strikes unstruck
      · exact .overlooked (skipped overlooks)
  | overlooked overlooked => exact .overlooked (still overlooked unstruck)

end Step

theorem play_trace (divided : start.Divided latter grain)
    (owned : start.ownerIn latter grain = some owner) (serves : start.Serves owner)
    (shifts : ∀ action ∈ run, action.Shifts (· = latter))
    (hosts : (start.play run).Hosts silo hosted) (same : hosted.address.grain = grain) :
    (start.play run).Trace owner silo hosted.address
      (Overlooked start owner hosted.address run) := by
  have contested := divided_contested divided owned serves
  revert hosts
  refine contested_induction (motive := fun run => (start.play run).Hosts silo hosted →
    (start.play run).Trace owner silo hosted.address (Overlooked start owner hosted.address run))
    contested shifts ?_ ?_
  · intro hosts
    obtain ⟨keeper, sees, won⟩ := divided.registered silo hosted hosts same
    by_cases mine : start.Sees silo owner grain
    · obtain ⟨node, here, owned⟩ := mine
      obtain ⟨_, again, kept⟩ := sees
      cases here.symm.trans again
      cases owned.symm.trans kept
      exact .won (same.symm ▸ won) rfl
    · exact .ahead (same.symm ▸ mine)
  · intro run action _ shift now earlier hosts
    rw [play_concat] at hosts ⊢
    have before := ((act_hosting now.sound.named shift).mp hosts).1
    have home := (now.lone silo hosted before same).2
    exact act_trace now shift hosts same .skipped (fun overlooked unstruck =>
      .still overlooked (home.symm ▸ unstruck)) (earlier before)

theorem play_applied (divided : start.Divided latter grain)
    (contested : start.Contested latter owner grain)
    (shifts : ∀ action ∈ run, action.Shifts (· = latter))
    (here : (start.play run).node? silo = some node) :
    node.membership = .ofSnapshot start.cluster.hash start.cluster.settings.bucketsPerSilo latter ∨
      .apply silo latter ∉ run ∧
        node.membership.snapshot.epoch.number < latter.epoch.number := by
  revert node
  refine contested_induction (motive := fun run => ∀ {node},
    (start.play run).node? silo = some node → node.membership = .ofSnapshot start.cluster.hash
      start.cluster.settings.bucketsPerSilo latter ∨ .apply silo latter ∉ run ∧
        node.membership.snapshot.epoch.number < latter.epoch.number)
    contested shifts (fun here => .inr ⟨by simp, divided.newer silo _ here⟩) ?_
  intro run action _ shift now earlier after found
  obtain ⟨hash, settings⟩ := play_settings contested.sound run
  rw [play_concat] at found
  obtain ⟨node, here, rfl⟩ := act_came now.sound.named shift found
  have unaffected : (∀ snapshot, (start.play run).effect? action ≠ some (node, .follow snapshot)) →
      .apply silo latter ≠ action := by
    rintro clear rfl
    exact clear latter (by simp [effect?, here])
  have unchanged : ((start.play run).becomes action node).membership = node.membership →
      (∀ snapshot, (start.play run).effect? action ≠ some (node, .follow snapshot)) →
      ((start.play run).becomes action node).membership =
        .ofSnapshot start.cluster.hash start.cluster.settings.bucketsPerSilo latter ∨
      .apply silo latter ∉ run ++ [action] ∧
        ((start.play run).becomes action node).membership.snapshot.epoch.number <
          latter.epoch.number := by
    intro same clear
    rw [same]
    refine (earlier here).imp_right (And.imp_left fun unapplied => ?_)
    simp [unapplied, unaffected clear]
  cases becomes_fares now shift node with
  | kept clear same => exact unchanged (by rw [same]) fun snapshot => clear _
  | handed _ affected same =>
    refine unchanged (by rw [same]; rfl) fun snapshot other => ?_
    cases affected.symm.trans other
  | condemned _ _ affected same =>
    refine unchanged (by rw [same]) fun snapshot other => ?_
    cases affected.symm.trans other
  | told _ same =>
    obtain ⟨next, reached, running⟩ := (now.up silo node here).1
    cases here.symm.trans (Cluster.reach_ok reached).2.2
    have fit : ¬latter.epoch.number < node.membership.snapshot.epoch.number := by
      rcases earlier here with latest | ⟨_, older⟩
      · rw [latest]
        exact UInt64.lt_irrefl _
      · exact UInt64.lt_asymm older
    refine .inl ?_
    rw [same, Node.apply_membership, Node.installs_eq_some.mpr ⟨running, fit, rfl⟩,
      Option.getD_some, hash, settings]

theorem settled_trace (divided : start.Divided latter grain)
    (owned : start.ownerIn latter grain = some owner) (serves : start.Serves owner)
    (shifts : ∀ action ∈ run, action.Shifts (· = latter))
    (everyone : ∀ silo node, start.node? silo = some node → .apply silo latter ∈ run)
    (drained : (start.play run).dispatch.IsDrained)
    (hosts : (start.play run).Hosts silo hosted) (same : hosted.address.grain = grain) :
    (∃ winner, (start.play run).Won owner grain winner ∧
      winner.activation = hosted.address.activation) ∨
    Overlooked start owner hosted.address run := by
  have contested := divided_contested divided owned serves
  cases play_trace divided owned serves shifts hosts same with
  | won won alike => exact .inl ⟨_, same ▸ won, alike⟩
  | overlooked overlooked => exact .inr overlooked
  | handed pending _ => exact absurd pending (drained _ _)
  | condemned pending _ => exact absurd pending (drained _ _)
  | ahead ahead =>
    obtain ⟨first, there, _⟩ := of_play_hosts contested shifts hosts
    obtain ⟨node, here, _⟩ := hosts
    have latest := (play_applied divided contested shifts here).resolve_right
      fun ⟨unapplied, _⟩ => unapplied (everyone silo first there)
    refine absurd ⟨node, here, ?_⟩ ahead
    rw [Node.owner?, latest, (play_settings contested.sound run).1, same]
    exact owned

theorem divided_of_tables (sound : start.Sound)
    (idle : ∀ lane ∈ start.dispatch.lanes, lane.waiting = [])
    (newer : ∀ pair ∈ start.cluster.nodes.pairs,
      pair.2.membership.snapshot.epoch.number < latter.epoch.number)
    (up : ∀ pair ∈ start.cluster.nodes.pairs, pair.2.isRunning = true ∧
      pair.1 ∉ start.cluster.unreachable ∧ pair.1 ∈ start.cluster.linked ∧
        latter.isActive pair.1 = true)
    (lone : ∀ pair ∈ start.cluster.nodes.pairs, ∀ hosted ∈ pair.2.catalog.hosted,
      hosted.address.grain = grain → hosted.single = true ∧ hosted.address.silo = pair.1)
    (registered : ∀ pair ∈ start.cluster.nodes.pairs, ∀ hosted ∈ pair.2.catalog.hosted,
      hosted.address.grain = grain → ∃ keeper ∈ start.cluster.nodes.pairs,
        pair.2.owner? start.cluster.hash grain = some keeper.1 ∧
          keeper.2.partition.roster? grain = some (.sole hosted.address.toInstance))
    (nothingElse : ∀ pair ∈ start.cluster.nodes.pairs, ∀ roster ∈ pair.2.partition.roster? grain,
      ∃ inst ∈ roster.instances, roster = .sole inst ∧ ∃ host ∈ start.cluster.nodes.pairs,
        host.1 = inst.silo ∧ ⟨inst.address grain, true⟩ ∈ host.2.catalog.hosted ∧
          host.2.owner? start.cluster.hash grain = some pair.1) :
    start.Divided latter grain := by
  refine ⟨sound, Dispatch.drained_of_idle idle, ?_, ?_, ?_, ?_, ?_⟩
  · exact fun silo node here => newer _ (Keyed.mem_of_get? here)
  · intro silo node here
    obtain ⟨running, reachable, linked, active⟩ := up _ (Keyed.mem_of_get? here)
    exact ⟨⟨node, Cluster.reach_of reachable linked here, running⟩, active⟩
  · rintro silo hosted ⟨node, here, hosts⟩
    exact lone _ (Keyed.mem_of_get? here) hosted hosts
  · rintro silo hosted ⟨node, here, hosts⟩ same
    obtain ⟨keeper, present, owned, held⟩ :=
      registered _ (Keyed.mem_of_get? here) hosted hosts same
    exact ⟨keeper.1, ⟨node, here, owned⟩, keeper.2, Keyed.get?_of_mem present, held⟩
  · intro silo node roster here found
    obtain ⟨inst, _, same, host, present, named, hosts, owned⟩ :=
      nothingElse _ (Keyed.mem_of_get? here) roster found
    have there : start.node? inst.silo = some host.2 := named ▸ Keyed.get?_of_mem present
    exact ⟨inst, same, ⟨host.2, there, hosts⟩, host.2, there, owned⟩

-- Once every silo has taken the snapshot in and all that was asked for is done, the owner's entry
-- for the grain is of an activation that runs. Another one either was torn down where it ran or
-- was overlooked.
theorem duplicates_destroyed_unless_overlooked (divided : start.Divided latter grain)
    (owned : start.ownerIn latter grain = some owner) (serves : start.Serves owner)
    (shifts : ∀ action ∈ run, action.Shifts (· = latter))
    (everyone : ∀ silo node, start.node? silo = some node → .apply silo latter ∈ run)
    (drained : (start.play run).dispatch.IsDrained)
    (someone : ∃ silo hosted, start.Hosts silo hosted ∧ hosted.address.grain = grain) :
    ∃ winner, (start.play run).Won owner grain winner ∧
      (start.play run).Hosts winner.silo ⟨winner.address grain, true⟩ ∧
      (∀ silo hosted, (start.play run).Hosts silo hosted → start.Hosts silo hosted) ∧
      ∀ silo hosted, start.Hosts silo hosted → hosted.address.grain = grain →
        ((start.play run).Hosts silo hosted ↔
          hosted.address.activation = winner.activation ∨
            Overlooked start owner hosted.address run) ∧
        ((start.play run).Hosts silo hosted ∨
          (start.play run).Buried silo hosted.address) := by
  have contested := divided_contested divided owned serves
  have afterwards := play_contested contested shifts
  have entered : ∃ winner, (start.play run).Won owner grain winner := by
    obtain ⟨silo, hosted, hosts, same⟩ := someone
    have beaten : (start.play run).Beaten owner hosted.address →
        ∃ winner, (start.play run).Won owner grain winner :=
      fun ⟨winner, won, _⟩ => ⟨winner, same ▸ won⟩
    rcases play_remains contested shifts hosts same with still | ⟨_, lost⟩
    · rcases settled_trace divided owned serves shifts everyone drained still same with
        ⟨winner, won, _⟩ | overlooked
      · exact ⟨winner, won⟩
      · exact beaten (overlooked_runs contested shifts hosts same overlooked).2
    · exact beaten lost
  obtain ⟨winner, won⟩ := entered
  have runs : (start.play run).Hosts winner.silo ⟨winner.address grain, true⟩ := by
    obtain ⟨node, here, held⟩ := won
    obtain ⟨_, same, hosts⟩ := afterwards.won node _ here held
    exact Roster.sole_injective same ▸ hosts
  refine ⟨winner, won, runs, fun _ _ => of_play_hosts contested shifts,
    fun silo hosted hosts same => ?_⟩
  have remains := play_remains contested shifts hosts same
  refine ⟨⟨fun still => ?_, fun either => ?_⟩, remains.imp_right And.left⟩
  · refine (settled_trace divided owned serves shifts everyone drained still same).imp_left ?_
    exact fun ⟨other, rival, alike⟩ => won_unique rival won ▸ alike.symm
  · rcases either with alike | overlooked
    · refine remains.resolve_right fun ⟨_, other, rival, lost⟩ => lost ?_
      rw [same] at rival
      exact won_unique rival won ▸ alike.symm
    · exact (overlooked_runs contested shifts hosts same overlooked).1

end World

namespace Duo

def rival : Address := ⟨grain, first, .ofNat 11⟩

def parting : List Action :=
  [.start first, .start second, .apply first (listed 1 .active .joining),
    .apply second (listed 1 .joining .active), .register first rival true 0,
    .host first rival true, .register second (runningOn second) true 0,
    .host second (runningOn second) true]

def parted : World := (World.empty Xxh3.hashText settings).play parting

def rejoined : Snapshot := listed 2 .active .active

theorem parted_divided : parted.Divided rejoined grain := by
  refine World.divided_of_tables (World.play_sound (World.empty_sound _ (by decide)) _)
    ?_ ?_ ?_ ?_ ?_ ?_
  · decide +kernel
  · decide +kernel
  · decide +kernel
  · decide +kernel
  · decide +kernel
  · decide +kernel

theorem parted_owned : parted.ownerIn rejoined grain = some second := by decide +kernel

theorem parted_serves : parted.Serves second := by
  have there : ∃ node, parted.node? second = some node := by
    refine Option.isSome_iff_exists.mp ?_
    decide +kernel
  obtain ⟨node, here⟩ := there
  exact (parted_divided.up second node here).1

def reuniting : List Action :=
  [.apply second rejoined, .apply first rejoined, .turn 0, .turn 1]

theorem reunited_destroyed : (parted.play reuniting).Buried first rival := by
  have everyone : ∀ pair ∈ parted.cluster.nodes.pairs, .apply pair.1 rejoined ∈ reuniting := by
    decide +kernel
  have idle : ∀ lane ∈ (parted.play reuniting).dispatch.lanes, lane.waiting = [] := by
    decide +kernel
  have ran : ∃ node ∈ parted.node? first, ⟨rival, true⟩ ∈ node.catalog.hosted := by
    decide +kernel
  have gone : ∀ node ∈ (parted.play reuniting).node? first,
      ⟨rival, true⟩ ∉ node.catalog.hosted := by
    decide +kernel
  obtain ⟨winner, _, _, _, each⟩ := World.duplicates_destroyed_unless_overlooked parted_divided
    parted_owned parted_serves (by simp [reuniting, Action.Shifts])
    (fun silo node here => everyone _ (Keyed.mem_of_get? here))
    (Dispatch.drained_of_idle idle) ⟨first, ⟨rival, true⟩, ran, rfl⟩
  refine (each first ⟨rival, true⟩ ran rfl).2.resolve_left ?_
  rintro ⟨node, here, hosts⟩
  exact gone node here hosts

def overlooking : List Action :=
  [.apply first rejoined, .turn 0, .turn 1, .apply second rejoined]

-- It is not so that only the activation in the owner's entry is left.
theorem overlooked_runs_on : ¬∀ (start : World) (latter : Snapshot) (grain : Grain) (owner : Silo)
    (run : List Action), start.Divided latter grain → start.ownerIn latter grain = some owner →
    start.Serves owner → (∀ action ∈ run, action.Shifts (· = latter)) →
    (∀ silo node, start.node? silo = some node → .apply silo latter ∈ run) →
    (start.play run).dispatch.IsDrained → ∀ silo hosted, (start.play run).Hosts silo hosted →
      hosted.address.grain = grain →
        (start.play run).Won owner grain hosted.address.toInstance := by
  intro claimed
  have everyone : ∀ pair ∈ parted.cluster.nodes.pairs, .apply pair.1 rejoined ∈ overlooking := by
    decide +kernel
  have idle : ∀ lane ∈ (parted.play overlooking).dispatch.lanes, lane.waiting = [] := by
    decide +kernel
  have still : ∃ node ∈ (parted.play overlooking).node? first,
      ⟨rival, true⟩ ∈ node.catalog.hosted := by
    decide +kernel
  have other : ∀ node ∈ (parted.play overlooking).node? second,
      node.partition.roster? grain ≠ some (.sole rival.toInstance) := by
    decide +kernel
  obtain ⟨node, here, held⟩ := claimed parted rejoined grain second overlooking parted_divided
    parted_owned parted_serves (by simp [overlooking, Action.Shifts])
    (fun silo node here => everyone _ (Keyed.mem_of_get? here))
    (Dispatch.drained_of_idle idle) first ⟨rival, true⟩ still rfl
  exact other node here held

end Duo
end ActorDirectory
