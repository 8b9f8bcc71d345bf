import ActorDirectory.Proofs.Cluster.Losers
import ActorDirectory.Proofs.Cluster.Missing

-- Silos that see different members may each run a grain that is to run at most once. While all
-- take in one snapshot, its owner there keeps the first registration that it gets and has the
-- other activations torn down.
namespace ActorDirectory

namespace World

variable {start world : World} {action : Action} {allowed : Snapshot → Prop} {latter : Snapshot}
  {silo owner source target : Silo} {node : Node} {effect : Effect} {grain : Grain}
  {address : Address} {hosted : Hosted} {winner other : Instance} {key : Channel} {errand : Errand}
  {run : List Action}

def Strikes (world : World) (action : Action) (silo : Silo) (address : Address) : Prop :=
  ∃ node addresses, world.node? silo = some node ∧
    world.effect? action = some (node, .destroy addresses) ∧ address ∈ addresses

def Buried (world : World) (silo : Silo) (address : Address) : Prop :=
  ∃ node, world.node? silo = some node ∧ address ∈ node.catalog.destroyed

theorem act_hosting (named : world.cluster.Named) (shifts : action.Shifts allowed) :
    (world.act action).Hosts silo hosted ↔
      world.Hosts silo hosted ∧ ¬world.Strikes action silo hosted.address := by
  simp only [Hosts, Strikes, act_node? named shifts]
  cases here : world.node? silo with
  | none => simp
  | some node =>
    simp only [Option.map_some, Option.some.injEq, exists_eq_left', ↓existsAndEq, true_and]
    rcases becomes_cases world action node with ⟨effect, affected, same⟩ | ⟨clear, same⟩
    · rw [same, Node.undergo_catalog]
      cases effect with
      | follow snapshot => simp [affected]
      | accept single multi => simp [affected]
      | destroy addresses => simp [affected, Catalog.mem_destroy]
    · rw [same]
      simp [clear]

theorem act_buried (named : world.cluster.Named) (shifts : action.Shifts allowed)
    (buried : world.Buried silo address) : (world.act action).Buried silo address := by
  obtain ⟨node, here, torn⟩ := buried
  refine ⟨_, act_becomes named shifts here, ?_⟩
  rcases becomes_cases world action node with ⟨effect, affected, same⟩ | ⟨_, same⟩
  · rw [same, Node.undergo_catalog]
    cases effect with
    | follow snapshot => exact torn
    | accept single multi => exact torn
    | destroy addresses => exact Catalog.destroy_remembers addresses torn
  · rw [same]
    exact torn

theorem strikes_buries (named : world.cluster.Named) (shifts : action.Shifts allowed)
    (hosts : world.Hosts silo hosted) (strikes : world.Strikes action silo hosted.address) :
    (world.act action).Buried silo hosted.address := by
  obtain ⟨node, here, present⟩ := hosts
  obtain ⟨_, addresses, struck, affected, doomed⟩ := strikes
  cases here.symm.trans struck
  refine ⟨_, act_becomes named shifts here, ?_⟩
  simp only [becomes, affected, ↓reduceIte]
  exact Catalog.destroy_records (Catalog.hosts_iff.mpr ⟨hosted, present, rfl⟩) doomed

def Won (world : World) (silo : Silo) (grain : Grain) (winner : Instance) : Prop :=
  ∃ node, world.node? silo = some node ∧ node.partition.roster? grain = some (.sole winner)

def Beaten (world : World) (owner : Silo) (address : Address) : Prop :=
  ∃ winner, world.Won owner address.grain winner ∧ winner.activation ≠ address.activation

def Sees (world : World) (silo owner : Silo) (grain : Grain) : Prop :=
  ∃ node, world.node? silo = some node ∧ node.owner? world.cluster.hash grain = some owner

theorem won_unique (one : world.Won silo grain winner) (two : world.Won silo grain other) :
    winner = other := by
  obtain ⟨node, here, held⟩ := one
  obtain ⟨_, again, rival⟩ := two
  cases here.symm.trans again
  exact Roster.sole_injective (Option.some.inj (held.symm.trans rival))

-- Silos that need not agree on the members. What runs of the grain is registered, each with the
-- owner that its host sees, and nothing else is. The snapshot is new to all and lists all.
structure Divided (start : World) (latter : Snapshot) (grain : Grain) : Prop where
  sound : start.Sound
  drained : start.dispatch.IsDrained
  newer : ∀ silo node, start.node? silo = some node →
    node.membership.snapshot.epoch.number < latter.epoch.number
  up : ∀ silo node, start.node? silo = some node →
    start.Serves silo ∧ latter.isActive silo = true
  lone : ∀ silo hosted, start.Hosts silo hosted → hosted.address.grain = grain →
    hosted.single = true ∧ hosted.address.silo = silo
  registered : ∀ silo hosted, start.Hosts silo hosted → hosted.address.grain = grain →
    ∃ keeper, start.Sees silo keeper grain ∧ start.Won keeper grain hosted.address.toInstance
  nothingElse : ∀ silo node roster, start.node? silo = some node →
    node.partition.roster? grain = some roster → ∃ inst, roster = .sole inst ∧
      start.Hosts inst.silo ⟨inst.address grain, true⟩ ∧ start.Sees inst.silo silo grain

-- Work that may be pending: of the grain, hosts hand over to the owner what they host or what
-- has lost already, and the owner has torn down what lost.
inductive Due (world : World) (owner : Silo) (grain : Grain) : Channel → Errand → Prop where
  | accept {source target : Silo} {single multi : List Address} :
      (∀ address ∈ single, address.grain = grain → target = owner ∧ address.silo = source ∧
        world.Sees source owner grain ∧
        (world.Hosts source ⟨address, true⟩ ∨ world.Beaten owner address)) →
      (∀ address ∈ multi, address.grain ≠ grain) →
      Due world owner grain (.handoff source target) (.accept single multi)
  | destroy {source target : Silo} {addresses : List Address} :
      (∀ address ∈ addresses, address.grain = grain → source = owner ∧ address.silo = target ∧
        world.Beaten owner address) →
      Due world owner grain (.handoff source target) (.destroy addresses)

-- What holds while the silos take in the snapshot.
structure Contested (world : World) (latter : Snapshot) (owner : Silo) (grain : Grain) :
    Prop where
  sound : world.Sound
  owned : world.ownerIn latter grain = some owner
  serves : world.Serves owner
  up : ∀ silo node, world.node? silo = some node →
    world.Serves silo ∧ latter.isActive silo = true
  lone : ∀ silo hosted, world.Hosts silo hosted → hosted.address.grain = grain →
    hosted.single = true ∧ hosted.address.silo = silo
  won : ∀ node roster, world.node? owner = some node →
    node.partition.roster? grain = some roster → ∃ winner, roster = .sole winner ∧
      world.Hosts winner.silo ⟨winner.address grain, true⟩
  due : ∀ key errand, world.dispatch.Pending key errand → world.Due owner grain key errand

theorem divided_contested (divided : start.Divided latter grain)
    (owned : start.ownerIn latter grain = some owner) (serves : start.Serves owner) :
    start.Contested latter owner grain := by
  refine ⟨divided.sound, owned, serves, divided.up, divided.lone, ?_,
    fun key errand pending => absurd pending (divided.drained key errand)⟩
  intro node roster here found
  obtain ⟨inst, same, hosts, _⟩ := divided.nothingElse owner node roster here found
  exact ⟨inst, same, hosts⟩

inductive Fares (world : World) (latter : Snapshot) (action : Action) (node : Node) : Prop where
  | kept : (∀ effect, world.effect? action ≠ some (node, effect)) →
      world.becomes action node = node → Fares world latter action node
  | told : world.effect? action = some (node, .follow latter) →
      world.becomes action node =
        (node.apply world.cluster.hash world.cluster.settings latter).1 →
      Fares world latter action node
  | handed {source : Silo} {single multi : List Address} :
      world.Performs action (.handoff source node.silo) (.accept single multi) →
      world.effect? action = some (node, .accept single multi) →
      world.becomes action node = (node.accept single multi).2.1 →
      Fares world latter action node
  | condemned {source : Silo} {addresses : List Address} :
      world.Performs action (.handoff source node.silo) (.destroy addresses) →
      world.cluster.receiver? source node.silo = some node →
      world.effect? action = some (node, .destroy addresses) →
      world.becomes action node = { node with catalog := node.catalog.destroy addresses } →
      Fares world latter action node

section Step

variable (contested : world.Contested latter owner grain) (shifts : action.Shifts (· = latter))

include contested

theorem due_accept {single multi : List Address}
    (performs : world.Performs action (.handoff source target) (.accept single multi)) :
    (∀ address ∈ single, address.grain = grain → target = owner ∧ address.silo = source ∧
      world.Sees source owner grain ∧
      (world.Hosts source ⟨address, true⟩ ∨ world.Beaten owner address)) ∧
    ∀ address ∈ multi, address.grain ≠ grain := by
  cases contested.due _ _ (performs_pending performs) with
  | accept singles multis => exact ⟨singles, multis⟩

theorem due_destroy {addresses : List Address}
    (performs : world.Performs action (.handoff source target) (.destroy addresses)) :
    ∀ address ∈ addresses, address.grain = grain →
      source = owner ∧ address.silo = target ∧ world.Beaten owner address := by
  cases contested.due _ _ (performs_pending performs) with
  | destroy each => exact each

theorem solitary (here : world.node? owner = some node) : node.partition.Solitary grain := by
  intro roster found
  obtain ⟨inst, same, _⟩ := contested.won node roster here found
  exact ⟨inst, same⟩

include shifts

theorem becomes_fares (node : Node) : world.Fares latter action node := by
  rcases becomes_cases world action node with ⟨effect, affected, same⟩ | ⟨clear, same⟩
  · cases effect_reaches affected with
    | told applied _ =>
      subst applied
      have fit : _ = latter := shifts
      subst fit
      exact .told affected same
    | followed performs _ => cases contested.due _ _ (performs_pending performs)
    | handed performs received =>
      have name := contested.sound.named _ _ (Cluster.receiver_found received)
      exact .handed (name ▸ performs) affected same
    | condemned performs received =>
      have name := contested.sound.named _ _ (Cluster.receiver_found received)
      exact .condemned (name ▸ performs) (name ▸ received) affected same
  · exact .kept clear same

theorem act_won (won : world.Won owner grain winner) :
    (world.act action).Won owner grain winner := by
  obtain ⟨node, here, held⟩ := won
  refine ⟨_, act_becomes contested.sound.named shifts here, ?_⟩
  cases becomes_fares contested shifts node with
  | kept _ same =>
    rw [same]
    exact held
  | told _ same =>
    rw [same]
    refine Node.apply_sole held fun current adopted => ?_
    obtain ⟨_, _, rfl⟩ := Node.installs_eq_some.mp (Node.adopts_eq_some.mp adopted).1
    obtain ⟨_, same, host, there, _⟩ := contested.won node _ here held
    cases Roster.sole_injective same
    rw [contested.sound.named owner node here]
    exact ⟨contested.owned, Snapshot.alive_of_active (contested.up _ host there).2⟩
  | handed _ _ same =>
    rw [same]
    exact Partition.accept_sole held _ _
  | condemned _ _ _ same =>
    rw [same]
    exact held

theorem act_beaten (same : address.grain = grain) (beaten : world.Beaten owner address) :
    (world.act action).Beaten owner address := by
  subst same
  obtain ⟨winner, won, lost⟩ := beaten
  exact ⟨winner, act_won contested shifts won, lost⟩

theorem strikes_beaten (strikes : world.Strikes action silo address)
    (same : address.grain = grain) : world.Beaten owner address ∧
      ∃ node, world.node? owner = some node ∧
        node.membership.snapshot.isActive silo = true := by
  obtain ⟨node, addresses, here, affected, doomed⟩ := strikes
  cases becomes_fares contested shifts node with
  | kept clear _ => exact absurd affected (clear _)
  | told other _ => cases affected.symm.trans other
  | handed _ other _ => cases affected.symm.trans other
  | condemned performs received other _ =>
    cases affected.symm.trans other
    obtain ⟨rfl, _, beaten⟩ := due_destroy contested performs address doomed same
    refine ⟨beaten, ?_⟩
    rw [← contested.sound.named silo node here]
    exact Cluster.receiver_sees received

theorem unlisted_unstruck (here : world.node? owner = some node)
    (unlisted : node.membership.snapshot.isActive silo = false) (same : address.grain = grain) :
    ¬world.Strikes action silo address := by
  intro strikes
  obtain ⟨_, _, struck, listed⟩ := strikes_beaten contested shifts strikes same
  cases here.symm.trans struck
  exact absurd (unlisted.symm.trans listed) Bool.false_ne_true

theorem winner_unstruck (won : (world.act action).Won owner grain winner) :
    ¬world.Strikes action silo (winner.address grain) := by
  intro strikes
  obtain ⟨⟨other, before, lost⟩, _⟩ := strikes_beaten contested shifts strikes rfl
  exact lost (congrArg Instance.activation (won_unique (act_won contested shifts before) won))

theorem becomes_sees (node : Node) :
    (world.becomes action node).membership = node.membership ∨
      (world.becomes action node).membership =
        .ofSnapshot world.cluster.hash world.cluster.settings.bucketsPerSilo latter := by
  cases becomes_fares contested shifts node with
  | kept _ same => exact .inl (by rw [same])
  | told _ same =>
    rw [same, Node.apply_membership]
    cases installed : node.installs? world.cluster.hash world.cluster.settings latter with
    | none => exact .inl rfl
    | some current => exact .inr (Node.installs_eq_some.mp installed).2.2
  | handed _ _ same => exact .inl (by rw [same]; rfl)
  | condemned _ _ _ same => exact .inl (by rw [same])

theorem act_sees (sees : world.Sees silo owner grain) :
    (world.act action).Sees silo owner grain := by
  obtain ⟨node, here, owned⟩ := sees
  refine ⟨_, act_becomes contested.sound.named shifts here, ?_⟩
  rw [(act_network contested.sound.named shifts).1, Node.owner?]
  rcases becomes_sees contested shifts node with kept | latest
  · rw [kept]
    exact owned
  · rw [latest]
    exact contested.owned

theorem act_enters {roster : Roster} (here : world.node? owner = some node)
    (found : (world.becomes action node).partition.roster? grain = some roster) :
    ∃ winner, roster = .sole winner ∧ world.Hosts winner.silo ⟨winner.address grain, true⟩ := by
  have known := fun roster => contested.won node roster here
  cases becomes_fares contested shifts node with
  | kept _ same => exact known roster (same ▸ found)
  | told _ same =>
    rw [same] at found
    exact known roster (Node.of_apply_roster (solitary contested here) found)
  | @handed source single multi performs _ same =>
    rw [same] at found
    obtain ⟨singles, multis⟩ := due_accept contested performs
    have taken := (Partition.accept_roster (solitary contested here) multis).symm.trans found
    cases before : node.partition.roster? grain with
    | some earlier =>
      rw [before, Option.some_or] at taken
      exact known roster (before.trans taken)
    | none =>
      rw [before, Option.none_or] at taken
      obtain ⟨address, first, rfl⟩ := Option.map_eq_some_iff.mp taken
      have same : address.grain = grain := by simpa using List.find?_some first
      obtain ⟨_, rfl, _, hosts | ⟨_, ⟨_, again, held⟩, _⟩⟩ :=
        singles address (List.mem_of_find?_eq_some first) same
      · subst same
        exact ⟨address.toInstance, rfl, hosts⟩
      · cases here.symm.trans again
        rw [same, before] at held
        cases held
  | condemned _ _ _ same =>
    rw [same] at found
    exact known roster found

theorem told_sees {current : Membership} (here : world.node? silo = some node)
    (told : world.effect? action = some (node, .follow latter))
    (installed : node.installs? world.cluster.hash world.cluster.settings latter = some current) :
    (world.act action).Sees silo owner grain := by
  obtain ⟨_, _, rfl⟩ := Node.installs_eq_some.mp installed
  refine ⟨_, act_becomes contested.sound.named shifts here, ?_⟩
  rw [(act_network contested.sound.named shifts).1]
  simp only [becomes, told, ↓reduceIte, Node.undergo, Node.owner?, Node.apply_membership,
    installed, Option.getD_some]
  exact contested.owned

-- Whoever is handed over to the owner has won or is to be torn down.
theorem handed_fares {single multi : List Address}
    (performs : world.Performs action (.handoff source owner) (.accept single multi))
    (here : world.node? owner = some node)
    (handed : world.effect? action = some (node, .accept single multi))
    (present : address ∈ single) (same : address.grain = grain) :
    ∃ winner, (world.act action).Won owner grain winner ∧
      (address ∈ (node.partition.accept single multi).1 ↔
        winner.activation ≠ address.activation) := by
  subst same
  obtain ⟨_, multis⟩ := due_accept contested performs
  have alone := solitary contested here
  have after : (world.act action).node? owner = some (node.accept single multi).2.1 := by
    rw [act_becomes contested.sound.named shifts here]
    simp [becomes, handed, Node.undergo]
  have entered : ∃ winner, (node.accept single multi).2.1.partition.roster? address.grain =
      some (.sole winner) := by
    rw [Node.accept_frame, Partition.accept_roster alone multis]
    cases known : node.partition.roster? address.grain with
    | some roster =>
      obtain ⟨winner, rfl⟩ := alone roster known
      exact ⟨winner, rfl⟩
    | none =>
      have found : (single.find? (·.grain = address.grain)).isSome = true :=
        List.find?_isSome.mpr ⟨address, present, by simp⟩
      obtain ⟨first, found⟩ := Option.isSome_iff_exists.mp found
      exact ⟨first.toInstance, by rw [found]; rfl⟩
  obtain ⟨winner, held⟩ := entered
  refine ⟨winner, ⟨_, after, held⟩, ?_⟩
  rw [Partition.mem_losers alone multis, and_iff_right present]
  refine ⟨?_, fun lost => ⟨winner, held, lost⟩⟩
  rintro ⟨other, same, lost⟩
  cases Roster.sole_injective (Option.some.inj (held.symm.trans same))
  exact lost

theorem told_due (here : world.node? node.silo = some node)
    (told : world.effect? action = some (node, .follow latter))
    (asked : .enqueue key errand ∈
      (node.apply world.cluster.hash world.cluster.settings latter).2) :
    (world.act action).Due owner grain key errand := by
  obtain ⟨current, target, single, multi, adopted, rfl, rfl, singles, multis⟩ :=
    Node.apply_asks (Settings.positive contested.sound.valid).1 asked
  obtain ⟨installed, _⟩ := Node.adopts_eq_some.mp adopted
  have sees := told_sees contested shifts here told installed
  obtain ⟨_, _, rfl⟩ := Node.installs_eq_some.mp installed
  have unstruck : ∀ address, ¬world.Strikes action node.silo address := by
    rintro address ⟨_, _, _, struck, _⟩
    cases told.symm.trans struck
  refine .accept (fun address present same => ?_) fun address present same => ?_
  · obtain ⟨hosts, aimed⟩ := singles address present
    have hosts : world.Hosts node.silo ⟨address, true⟩ := ⟨node, here, hosts⟩
    rw [same] at aimed
    exact ⟨Option.some.inj (aimed.symm.trans contested.owned),
      (contested.lone _ _ hosts same).2, sees,
      .inl ((act_hosting contested.sound.named shifts).mpr ⟨hosts, unstruck address⟩)⟩
  · have hosts : world.Hosts node.silo ⟨address, false⟩ :=
      ⟨node, here, (multis address present).1⟩
    exact Bool.false_ne_true (contested.lone _ _ hosts same).1

theorem handed_due {single multi : List Address} (here : world.node? node.silo = some node)
    (performs : world.Performs action (.handoff source node.silo) (.accept single multi))
    (handed : world.effect? action = some (node, .accept single multi))
    (asked : .enqueue key errand ∈ (node.accept single multi).2.2) :
    (world.act action).Due owner grain key errand := by
  obtain ⟨host, addresses, rfl, rfl, losers⟩ := Node.accept_asks asked
  refine .destroy fun address present same => ?_
  obtain ⟨lost, home⟩ := losers address present
  have present := Partition.loser_handed lost
  have mine := ((due_accept contested performs).1 address present same).1
  rw [mine] at performs here
  obtain ⟨winner, won, fares⟩ :=
    handed_fares contested shifts performs here handed present same
  exact ⟨mine, home, winner, same ▸ won, fares.mp lost⟩

theorem asked_due (asked : .enqueue key errand ∈ world.asks action) :
    (world.act action).Due owner grain key errand := by
  obtain ⟨node, effect, affected, asked⟩ := asks_effect asked
  have here := effect_found contested.sound.named affected
  cases becomes_fares contested shifts node with
  | kept clear _ => exact absurd affected (clear _)
  | told told _ =>
    cases affected.symm.trans told
    exact told_due contested shifts here told asked
  | handed performs handed _ =>
    cases affected.symm.trans handed
    exact handed_due contested shifts here performs handed asked
  | condemned _ _ other _ =>
    cases affected.symm.trans other
    cases asked

theorem act_due (due : world.Due owner grain key errand) :
    (world.act action).Due owner grain key errand := by
  cases due with
  | @accept source target single multi singles multis =>
    refine .accept (fun address present same => ?_) multis
    obtain ⟨aimed, home, sees, runs⟩ := singles address present same
    refine ⟨aimed, home, act_sees contested shifts sees, ?_⟩
    rcases runs with hosts | beaten
    · by_cases strikes : world.Strikes action source address
      · have beaten := (strikes_beaten contested shifts strikes same).1
        exact .inr (act_beaten contested shifts same beaten)
      · exact .inl ((act_hosting contested.sound.named shifts).mpr ⟨hosts, strikes⟩)
    · exact .inr (act_beaten contested shifts same beaten)
  | destroy each =>
    refine .destroy fun address present same => ?_
    obtain ⟨mine, home, beaten⟩ := each address present same
    exact ⟨mine, home, act_beaten contested shifts same beaten⟩

theorem act_contested : (world.act action).Contested latter owner grain := by
  have named := contested.sound.named
  obtain ⟨hash, settings, _⟩ := act_network named shifts
  refine ⟨act_sound contested.sound action, ?_, (act_serves named shifts).mpr contested.serves,
    ?_, ?_, ?_, ?_⟩
  · rw [ownerIn, Cluster.ownerIn, hash, settings]
    exact contested.owned
  · intro silo after found
    obtain ⟨node, here, _⟩ := act_came named shifts found
    obtain ⟨serves, active⟩ := contested.up silo node here
    exact ⟨(act_serves named shifts).mpr serves, active⟩
  · intro silo hosted hosts
    exact contested.lone silo hosted ((act_hosting named shifts).mp hosts).1
  · intro after roster found held
    have there := found
    obtain ⟨node, here, rfl⟩ := act_came named shifts found
    obtain ⟨winner, rfl, hosts⟩ := act_enters contested shifts here held
    have won : (world.act action).Won owner grain winner := ⟨_, there, held⟩
    exact ⟨winner, rfl, (act_hosting named shifts).mpr
      ⟨hosts, winner_unstruck contested shifts won⟩⟩
  · intro key errand pending
    rcases of_act_pending named shifts pending with earlier | asked
    · exact act_due contested shifts (contested.due key errand earlier)
    · exact asked_due contested shifts asked

end Step

end World
end ActorDirectory
