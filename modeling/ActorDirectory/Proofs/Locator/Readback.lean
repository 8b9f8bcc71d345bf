import ActorDirectory.Proofs.Locator.Forgetting
import ActorDirectory.Proofs.Store.Truth

-- What a locator registered it finds again, wherever it is kept.
namespace ActorDirectory

namespace Partition

theorem register_found (partition : Partition) (address : Address) : ∃ found,
    (partition.register address true).2.lookup address.grain = some found ∧
      found.primary? = some (partition.register address true).1.address ∧
      found.version = (partition.register address true).1.version := by
  have put : ∀ holding : Holding,
      (partition.held.put address.grain holding).get? address.grain = some holding :=
    fun holding => by rw [Keyed.get?_put, if_pos rfl]
  cases known : partition.held.get? address.grain with
  | none =>
    rw [register_absent true known]
    exact ⟨_, lookup_held (put _) (List.cons_ne_nil _ _), rfl, rfl⟩
  | some holding =>
    obtain ⟨instances, single, version⟩ := holding
    rw [register_held true known]
    cases instances with
    | nil =>
      simp only [List.isEmpty_nil, Bool.not_true, Bool.and_false, Bool.false_eq_true, ↓reduceIte,
        List.not_mem_nil, List.nil_append]
      exact ⟨_, lookup_held (put _) (List.cons_ne_nil _ _), rfl, rfl⟩
    | cons first rest =>
      simp only [Bool.or_true, List.isEmpty_cons, Bool.not_false, Bool.and_self, ↓reduceIte]
      exact ⟨_, lookup_held known (List.cons_ne_nil _ _), rfl, rfl⟩

end Partition

namespace Cluster

variable {cluster after : Cluster} {silo : Silo} {grain : Grain} {address : Address}
  {tagged : Tagged}

theorem serves_travel (serves : cluster.Serves silo grain) :
    cluster.travelFrom silo grain 0 = ([], .ok silo) := by
  obtain ⟨node, here, rfl, running, owns⟩ := serves
  have zero : hopsAt 255 = 0 := rfl
  have room : roomAt 0 = 255 := rfl
  simp only [travelFrom, here, room]
  rw [travel, zero, Node.route_own _ running owns]

theorem serves_lookup (serves : cluster.Serves silo grain) :
    cluster.lookup silo grain 0 = (.ok (cluster.localLookup silo grain), cluster) := by
  have travels := serves_travel serves
  obtain ⟨node, here, _, running, owns⟩ := serves
  simp [lookup, travels, localLookup, here, Node.localLookup, running, owns, sendAlong]

theorem registered_serves (named : cluster.Named) (owns : cluster.owns silo address.grain = true)
    (registered : (cluster.register silo address true 0).1 = .ok tagged) :
    cluster.Serves silo address.grain := by
  simp only [register, travelFrom] at registered
  cases here : cluster.nodes.get? silo with
  | none => simp [here] at registered
  | some node =>
    cases running : node.isRunning with
    | true => exact owns_serves named here running owns
    | false =>
      have room : roomAt 0 = 254 + 1 := rfl
      simp [here, room, travel, Node.route, running] at registered

theorem register_answered (named : cluster.Named)
    (registered : cluster.register silo address true 0 = (.ok tagged, after))
    (owns : after.owns silo address.grain = true) :
    after.Serves silo address.grain ∧ ∃ found,
      after.localLookup silo address.grain = some found ∧
        found.primary? = some tagged.address ∧ found.version = tagged.version := by
  have tended := register_tended named silo address true 0
  rw [registered] at tended
  rw [Cluster.owns, tended_owner tended] at owns
  have serves := registered_serves named owns (congrArg Prod.fst registered)
  obtain ⟨node, here, _, _, _⟩ := id serves
  simp only [register, serves_travel serves, sendAlong, List.foldl_nil, here] at registered
  cases registered
  have serves := modify_serves (fun _ => (node.partition.register address true).2) serves
  refine ⟨serves, ?_⟩
  obtain ⟨found, looked, primary, version⟩ := Partition.register_found node.partition address
  refine ⟨found, ?_, primary, version⟩
  obtain ⟨changed, there, _, running, owns⟩ := serves
  have same : changed.partition = (node.partition.register address true).2 := by
    simp only [modifyPartition, modifyNode, here, Keyed.get?_put, ↓reduceIte] at there
    cases there
    rfl
  simp [localLookup, there, Node.localLookup, running, owns, same, looked]

end Cluster

theorem World.withCluster_self (world : World) : world.withCluster world.cluster = world := rfl

def World.Unshared (world : World) : Prop :=
  ∀ name store, world.stores.get? name = some store → store.Used

namespace External

variable {external : External}

theorem use_used {α : Type} {act : {σ : Type} → Directory σ → α × Directory σ}
    (used : external.Used) (usage : Usage)
    (undergoes : ∀ {σ : Type} (directory : Directory σ),
      (act directory).2 = directory.undergo usage) : (external.use act).2.Used := by
  have asked := used.asked usage
  cases external with
  | keyValue directory =>
    simp only [undergo, ← undergoes] at asked
    exact asked
  | table directory =>
    simp only [undergo, ← undergoes] at asked
    exact asked

theorem register_used (used : external.Used) (entry : Entry) :
    (external.register entry).2.Used := use_used used (.one (.register entry)) fun _ => rfl

theorem unregister_used (used : external.Used) (entry : Entry) :
    (external.unregister entry).2.Used := use_used used (.one (.unregister entry)) fun _ => rfl

theorem lookup_used (used : external.Used) (grain : String) :
    (external.lookup grain).2.Used := use_used used (.one (.lookup grain)) fun _ => rfl

theorem unregisterMany_used (used : external.Used) (entries : List Entry) :
    (external.unregisterMany entries).2.Used := use_used used (.unregisterMany entries) fun _ => rfl

end External

namespace Locators

variable {locators : Locators} {world : World}

theorem ask_unshared {α : Type} {use : External → Timed α × External} (unshared : world.Unshared)
    (keeps : ∀ store, store.Used → (use store).2.Used) (locators : Locators) (kind : String) :
    (locators.ask world kind use).2.2.Unshared := by
  have asked := ask_asked locators world kind use
  generalize locators.ask world kind use = called at asked ⊢
  cases asked with
  | refused => exact unshared
  | @answered name store after _ opened same =>
    intro other kept there
    rw [same, World.wait, Keyed.get?_put] at there
    split at there
    · cases there
      exact keeps store (unshared name store opened)
    · exact unshared other kept there

theorem lookupExternal_unshared (unshared : world.Unshared) (grain : Grain) :
    (locators.lookupExternal world grain).2.2.Unshared := by
  obtain ⟨external, same | ⟨_, same⟩⟩ := lookupExternal_learns locators world grain
  · rw [same]
    exact unshared
  · rw [same]
    exact ask_unshared unshared (fun _ used => External.lookup_used used grain.toText) _ grain.kind

theorem unregisterBatches_used {stores : Keyed String External}
    (used : ∀ name store, stores.get? name = some store → store.Used)
    (batches : List (String × List (String × Address × Nat))) {name : String} {store : External}
    (there : (unregisterBatches stores batches).2.2.get? name = some store) : store.Used := by
  induction batches generalizing stores with
  | nil => exact used name store there
  | cons batch rest ih =>
    rw [unregisterBatches] at there
    split at there
    · exact ih used there
    · rename_i asked opened
      refine ih (fun other kept found => ?_) there
      rw [Keyed.get?_put] at found
      split at found
      · cases found
        exact External.unregisterMany_used (used _ asked opened) _
      · exact used other kept found

theorem manyOutside_unshared (unshared : world.Unshared) (cause : Cause)
    (addresses : List Address) :
    (locators.unregisterManyExternal world cause addresses).2.2.Unshared := by
  rw [unregisterManyExternal]
  dsimp only
  split <;> exact fun _ _ there => unregisterBatches_used unshared _ there

end Locators

namespace Cache

variable {cache : Cache} {now : Nat} {grain : Grain} {known : Recollection}

theorem touch_ttl (cache : Cache) (grain : Grain) : (cache.touch grain).ttl = cache.ttl := by
  rw [touch]
  split <;> rfl

theorem lookup_young (there : cache.recalls? grain = some known)
    (young : now - known.since < cache.ttl) :
    cache.lookup now grain = (some known.found, cache.touch grain) := by
  have looks := lookup_looks cache now grain
  generalize cache.lookup now grain = looked at looks ⊢
  cases looks with
  | unknown absent => cases absent.symm.trans there
  | stale again old =>
    cases again.symm.trans there
    exact absurd young (Nat.not_lt.mpr old)
  | hit again =>
    cases again.symm.trans there
    rfl

end Cache

namespace Family

variable {settings : Settings} {family : Family} {locators after : Locators} {world later : World}
  {grain : Grain} {found : Found} {address : Address} {tagged : Tagged}

-- The locator answers for the grain without asking anyone: from its own silo's partition or from
-- what it learnt.
inductive Knows (family : Family) (grain : Grain) (found : Found) (locators : Locators)
    (world : World) : Prop where
  | own : family.isOwn locators world grain = true →
      world.cluster.Serves locators.silo grain →
      world.cluster.localLookup locators.silo grain = some found →
      Knows family grain found locators world
  | learnt {since : Nat} : family.isOwn locators world grain = false →
      (family.cache locators).recalls? grain = some ⟨found, since⟩ →
      world.now - since < (family.cache locators).ttl → Knows family grain found locators world

theorem knows_noting (knows : family.Knows grain found locators world) (way : Way)
    (kind : String) : family.Knows grain found (way.noting locators kind) world := by
  cases way with
  | direct => exact knows
  | selector =>
    cases family with
    | inCluster =>
      cases knows with
      | own owns serves answers => exact .own owns serves answers
      | learnt elsewhere there young => exact .learnt elsewhere there young
    | external =>
      cases knows with
      | own owns => cases owns
      | learnt elsewhere there young => exact .learnt elsewhere there young

theorem knows_told (knows : family.Knows grain found locators world) :
    ∃ after, locators.Alike after ∧ family.Knows grain found after world ∧
      family.finder.lookup locators world grain = (.ok (some found), after, world) ∧
      family.finder.tryLocal locators world grain = (some found, after) := by
  cases knows with
  | own owns serves answers =>
    refine ⟨locators, Locators.alike_refl locators, .own owns serves answers, ?_⟩
    cases family with
    | external => cases owns
    | inCluster =>
      have owns : world.cluster.owns locators.silo grain = true := owns
      have looked := Cluster.serves_lookup serves
      rw [answers] at looked
      simp [finder, Finder.inCluster, Locators.lookupInCluster, Locators.tryInCluster, looked,
        owns, answers, World.withCluster_self]
  | @learnt since elsewhere there young =>
    have looked := Cache.lookup_young there young
    have kept := (Cache.touch_recalls (family.cache locators) grain).symm ▸ there
    have lasting := (Cache.touch_ttl (family.cache locators) grain).symm ▸ young
    cases family with
    | inCluster =>
      have abroad : world.cluster.owns locators.silo grain = false := elsewhere
      have looked : locators.foreign.lookup world.now grain =
        (some found, locators.foreign.touch grain) := looked
      refine ⟨{ locators with foreign := locators.foreign.touch grain }, ⟨rfl, fun _ => rfl⟩,
        .learnt elsewhere kept lasting, ?_⟩
      simp [finder, Finder.inCluster, Locators.lookupInCluster, Locators.tryInCluster, looked,
        abroad]
    | external =>
      have looked : locators.external.lookup world.now grain =
        (some found, locators.external.touch grain) := looked
      refine ⟨{ locators with external := locators.external.touch grain }, ⟨rfl, fun _ => rfl⟩,
        .learnt elsewhere kept lasting, ?_⟩
      simp [finder, Finder.external, Locators.lookupExternal, Locators.tryExternal, looked]

theorem learn_knows (elsewhere : family.isOwn after later grain = false)
    (about : found.About grain) {cache : Cache}
    (tidy : cache.Tidy settings.cacheSize settings.cacheTtl) (valid : settings.problems = [])
    (learnt : family.cache after = cache.learn later.now grain found) :
    family.Knows grain found after later := by
  obtain ⟨room, lasting⟩ := Settings.cache_positive valid
  have there : (family.cache after).recalls? grain = some ⟨found, later.now⟩ := by
    rw [learnt]
    exact Cache.learn_recalls about tidy room later.now
  refine .learnt elsewhere there ?_
  rw [learnt, Nat.sub_self, Cache.learn, (Cache.add_tidy tidy ..).ttl]
  exact lasting

theorem register_knows (ready : locators.Ready settings world) (valid : settings.problems = [])
    (unshared : world.Unshared)
    (whole : family = .external → '/' ∉ address.grain.kind.toList)
    (registered : family.finder.register locators world address = (.ok tagged, after, later)) :
    tagged.address.grain = address.grain ∧ ∃ found, found.primary? = some tagged.address ∧
      found.version = tagged.version ∧ family.Knows address.grain found after later := by
  cases family with
  | inCluster =>
    have made := Locators.registerInCluster_made locators world address
    rw [show locators.registerInCluster world address = _ from registered] at made
    cases made with
    | own called owns =>
      obtain ⟨serves, found, answers, primary, version⟩ :=
        Cluster.register_answered ready.named called owns
      exact ⟨Locators.registered_grain ready.named called, found, primary, version,
        .own owns serves answers⟩
    | foreign called elsewhere =>
      have same := Locators.registered_grain ready.named called
      exact ⟨same, ⟨[tagged.address], tagged.version⟩, rfl, rfl,
        learn_knows elsewhere (Found.about_tagged same) ready.foreign valid
          (Cache.addTagged_learn ..)⟩
  | external =>
    have made := Locators.registerExternal_made ready.named locators address
    rw [show locators.registerExternal world address = _ from registered] at made
    cases made with
    | @made name store _ _ _ _ opened told read =>
      have same := External.registered_grain (unshared name store opened) (whole rfl) told read
      refine ⟨same, ⟨[tagged.address], tagged.version⟩, rfl, rfl, ?_⟩
      exact learn_knows rfl (Found.about_tagged same) ready.external valid
        (congrArg (locators.external.addTagged later.now · tagged) same)

theorem serve_unshared (unshared : world.Unshared) (family : Family) (ask : Ask) :
    (family.finder.serve locators world ask).2.Unshared := by
  cases ask with
  | registerMulti | tryLocal | invalidate | clear => exact unshared
  | register address =>
    cases family with
    | inCluster =>
      have made := Locators.registerInCluster_made locators world address
      change (locators.registerInCluster world address).2.2.Unshared
      generalize locators.registerInCluster world address = result at made ⊢
      cases made <;> exact unshared
    | external =>
      obtain ⟨_, ended⟩ := Locators.registerExternal_learns locators world address
      change (locators.registerExternal world address).2.2.Unshared
      rw [ended]
      exact Locators.ask_unshared unshared (fun _ used => External.register_used used _) _ _
  | unregister cause address =>
    cases family with
    | inCluster => exact unshared
    | external =>
      obtain ⟨_, ended⟩ := Locators.unregisterExternal_learns locators world cause address
      change (locators.unregisterExternal world cause address).2.2.Unshared
      rw [ended]
      exact Locators.ask_unshared unshared (fun _ used => External.unregister_used used _) _ _
  | unregisterMany cause addresses =>
    cases family with
    | inCluster =>
      rw [Finder.serve, finder, Finder.inCluster, Locators.unregisterManyInCluster_eq]
      exact unshared
    | external => exact Locators.manyOutside_unshared unshared cause addresses
  | lookup grain =>
    cases family with
    | inCluster =>
      have found := Locators.lookupInCluster_found locators world grain
      change (locators.lookupInCluster world grain).2.2.Unshared
      generalize locators.lookupInCluster world grain = result at found ⊢
      cases found <;> exact unshared
    | external => exact Locators.lookupExternal_unshared unshared grain

end Family

namespace Finder

def serveAll (finder : Finder) (state : Locators × World) (asks : List Ask) : Locators × World :=
  asks.foldl (fun state ask => finder.serve state.1 state.2 ask) state

end Finder

namespace Way

variable {settings : Settings} {way : Way} {locators after : Locators} {world later : World}
  {grain : Grain} {found : Found} {address : Address} {tagged : Tagged}

structure Finds (way : Way) (grain : Grain) (found : Found) (state : Locators × World) : Prop where
  lookup : (way.finder.lookup state.1 state.2 grain).1 = .ok (some found)
  tryLocal : (way.finder.tryLocal state.1 state.2 grain).1 = some found

theorem knows_told (knows : (way.family locators grain.kind).Knows grain found locators world) :
    ∃ after, (way.family after grain.kind).Knows grain found after world ∧
      way.finder.lookup locators world grain = (.ok (some found), after, world) ∧
      way.finder.tryLocal locators world grain = (some found, after) := by
  have noted := noting_alike way locators grain.kind
  obtain ⟨after, alike, knows, looked, tried⟩ :=
    Family.knows_told (Family.knows_noting knows way grain.kind)
  refine ⟨after, ?_, ?_, ?_⟩
  · rw [family_alike (Locators.alike_trans noted alike)]
    exact knows
  · rw [lookup_selected, looked]
  · rw [tryLocal_selected, tried]

theorem knows_finds (knows : (way.family locators grain.kind).Knows grain found locators world)
    {asks : List Ask} (about : ∀ ask ∈ asks, ask = .lookup grain ∨ ask = .tryLocal grain) :
    way.Finds grain found (way.finder.serveAll (locators, world) asks) := by
  induction asks generalizing locators with
  | nil =>
    obtain ⟨after, _, looked, tried⟩ := knows_told knows
    exact ⟨congrArg Prod.fst looked, congrArg Prod.fst tried⟩
  | cons ask rest ih =>
    obtain ⟨after, knows, looked, tried⟩ := knows_told knows
    obtain ⟨first, others⟩ := List.forall_mem_cons.mp about
    have served : way.finder.serve locators world ask = (after, world) := by
      rcases first with rfl | rfl
      · exact congrArg Prod.snd looked
      · exact congrArg (fun result => (result.2, world)) tried
    rw [Finder.serveAll, List.foldl_cons, served]
    exact ih knows others

theorem serve_unshared (unshared : world.Unshared) (way : Way) (ask : Ask) :
    (way.finder.serve locators world ask).2.Unshared := by
  cases about : ask.kind? with
  | some kind =>
    rw [serve_selected about]
    exact Family.serve_unshared unshared _ ask
  | none =>
    cases ask with
    | register | unregister | lookup | tryLocal | invalidate => cases about
    | registerMulti | clear => exact unshared
    | unregisterMany cause addresses =>
      cases way with
      | direct family =>
        exact Family.serve_unshared unshared family (.unregisterMany cause addresses)
      | selector =>
        obtain ⟨resolver, ended, _⟩ := selectorMany_eq locators world cause addresses
        rw [Finder.serve, finder, Finder.selector, ended]
        refine Locators.manyOutside_unshared ?_ cause _
        rw [Locators.unregisterManyInCluster_eq]
        exact unshared

-- Whoever was registered for the grain, the address or one before it, is found at once and
-- as often as it is asked for: in the own partition, or in what was learnt from another silo or
-- from an external directory. An external directory keeps grains by their texts, which tell the
-- kind from the key only if the kind has no slash.
theorem registered_is_found (reached : locators.Reached settings world)
    (valid : settings.problems = [])
    (unshared : world.Unshared)
    (whole : way.family locators address.grain.kind = .external →
      '/' ∉ address.grain.kind.toList)
    (registered : way.finder.register locators world address = (.ok tagged, after, later)) :
    tagged.address.grain = address.grain ∧ ∃ found, found.primary? = some tagged.address ∧
      found.version = tagged.version ∧
      ∀ asks, (∀ ask ∈ asks, ask = .lookup address.grain ∨ ask = .tryLocal address.grain) →
        way.Finds address.grain found (way.finder.serveAll (after, later) asks) := by
  have noted := noting_ready (Locators.reached_ready reached) way address.grain.kind
  have continues := Family.serve_continues noted (way.family locators address.grain.kind)
    (.register address)
  rw [register_selected] at registered
  rw [Finder.serve, registered] at continues
  have alike := Locators.alike_trans (noting_alike way locators _) continues.alike
  obtain ⟨same, found, primary, version, knows⟩ :=
    Family.register_knows noted valid unshared whole registered
  rw [← family_alike alike] at knows
  exact ⟨same, found, primary, version, fun asks about => knows_finds knows about⟩

-- No grain with a slash in its kind is told of by an external directory.
theorem registered_elsewhere (reached : locators.Reached settings world)
    (outside : way.family locators address.grain.kind = .external)
    (slash : '/' ∈ address.grain.kind.toList)
    (registered : way.finder.register locators world address = (.ok tagged, after, later)) :
    tagged.address.grain ≠ address.grain := by
  have noted := noting_ready (Locators.reached_ready reached) way address.grain.kind
  have made := Locators.registerExternal_made noted.named
    (way.noting locators address.grain.kind) address
  rw [register_selected, outside] at registered
  rw [show Locators.registerExternal _ world address = _ from registered] at made
  cases made with
  | made _ _ _ read =>
    intro same
    have fits := (Entry.toAddress_fits (Entry.toTagged_address read)).1
    exact fits.2.1 (same ▸ slash)

end Way

namespace Duo

def tabled : World :=
  { World.empty Xxh3.hashText settings with
    stores := Keyed.empty.put "orders" (External.openTable "main" ⟨3, 100⟩) }

def ordered : Locators × World := Way.selector.finder.serve finders tabled (.register order)

def latecomer : Address := ⟨⟨"order", "1"⟩, second, .ofNat 12⟩

theorem tabled_named : tabled.cluster.Named :=
  (World.empty_sound Xxh3.hashText (by decide)).named

theorem tabled_reached : finders.Reached settings tabled := finders_reached tabled_named rfl

theorem tabled_unshared : tabled.Unshared := by
  intro name store there
  rw [tabled, Keyed.get?_put] at there
  split at there
  · cases there
    exact .openedTable "main" ⟨3, 100⟩
  · cases there

theorem ordered_reached : ordered.1.Reached settings ordered.2 := by
  rw [ordered]
  exact .served .selector (.register order) tabled_reached

theorem ordered_unshared : ordered.2.Unshared := by
  rw [ordered]
  exact Way.serve_unshared tabled_unshared .selector (.register order)

theorem latecomer_finds_order : ∃ after later found,
    Way.selector.finder.register ordered.1 ordered.2 latecomer =
      (.ok ⟨order, ⟨1⟩⟩, after, later) ∧
    found.primary? = some order ∧ found.version = ⟨1⟩ ∧
      ∀ asks, (∀ ask ∈ asks, ask = .lookup latecomer.grain ∨ ask = .tryLocal latecomer.grain) →
        Way.selector.Finds latecomer.grain found
          (Way.selector.finder.serveAll (after, later) asks) := by
  have told : (Way.selector.finder.register ordered.1 ordered.2 latecomer).1 =
      .ok ⟨order, ⟨1⟩⟩ := by decide +kernel
  generalize registered : Way.selector.finder.register ordered.1 ordered.2 latecomer = result
    at told ⊢
  obtain ⟨answer, after, later⟩ := result
  cases (told : answer = _)
  obtain ⟨_, found, finds⟩ := Way.registered_is_found ordered_reached (by decide) ordered_unshared
    (fun _ => by decide) registered
  exact ⟨after, later, found, rfl, finds⟩

-- Where the grains of every kind are kept in the table, the text of this one is read as kind "a"
-- and key "b/c", and under these it is learnt.
def keepers : Locators :=
  .ofSettings settings first ⟨.ofList [("orders", "orders")], .empty, some "orders", .empty⟩

def blurred : Address := ⟨⟨"a/b", "c"⟩, first, .ofNat 13⟩

def blurring : Except Fault Tagged × Locators × World :=
  Way.selector.finder.register keepers tabled blurred

theorem blurred_is_lost : keepers.Reached settings tabled ∧ settings.problems = [] ∧
    tabled.Unshared ∧ blurring.1 = .ok ⟨⟨⟨"a", "b/c"⟩, first, .ofNat 13⟩, ⟨1⟩⟩ ∧
    (Way.selector.finder.tryLocal blurring.2.1 blurring.2.2 blurred.grain).1 = none :=
  ⟨ordering_reached _ _ tabled_named rfl, by decide, tabled_unshared, by decide +kernel,
    by decide +kernel⟩

end Duo
end ActorDirectory
