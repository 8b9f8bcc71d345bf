import ActorDirectory.Proofs.Cluster.Removal
import ActorDirectory.Proofs.Locator.Reach

-- A silo does not go on finding an activation that it gave up, unless the activation is brought
-- back to it meanwhile.
namespace ActorDirectory

namespace Cache

variable {cause : Cause} {address : Address} {addresses : List Address} {found : Found}

theorem forgetAll_found {cache : Cache} (listed : address ∈ addresses) {now : Nat}
    (answered : ((cache.forgetAll cause addresses).lookup now address.grain).1 = some found) :
    cause = .nonexistent ∧ ∀ other ∈ found.addresses, other.activation ≠ address.activation := by
  have looks := lookup_looks (cache.forgetAll cause addresses) now address.grain
  generalize (cache.forgetAll cause addresses).lookup now address.grain = looked at looks answered
  cases looks with
  | unknown => cases answered
  | stale => cases answered
  | @hit known there =>
    cases answered
    rw [forgetAll_recalls] at there
    obtain ⟨recalled, stands⟩ := Option.filter_eq_some_iff.mp there
    have stands : ∀ other ∈ addresses, cause.ends other address.grain known.found = false := by
      simpa using stands
    have stands := stands address listed
    cases cause with
    | force => simp [Cause.ends] at stands
    | nonexistent =>
      obtain ⟨item, _, rfl⟩ := Option.map_eq_some_iff.mp recalled
      refine ⟨rfl, fun other present same => ?_⟩
      obtain ⟨inst, there, rfl⟩ := List.mem_map.mp present
      rw [recollection_ends] at stands
      simp only [decide_true, Bool.true_and, List.any_eq_false, decide_eq_true_eq] at stands
      exact stands inst there same

end Cache

namespace Family

def answer (family : Family) (locators : Locators) (world : World) (grain : Grain) :
    Option Found :=
  if family.isOwn locators world grain then world.cluster.localLookup locators.silo grain
  else ((family.cache locators).lookup world.now grain).1

theorem tryLocal_answer (family : Family) (locators : Locators) (world : World) (grain : Grain) :
    (family.finder.tryLocal locators world grain).1 = family.answer locators world grain := by
  cases family with
  | inCluster => exact apply_ite Prod.fst (world.cluster.owns locators.silo grain = true) ..
  | external => rfl

end Family

namespace Way

variable {way : Way} {cause : Cause} {address : Address} {locators after : Locators}
  {world later : World} {readmitted : Prop}

theorem tryLocal_answer (way : Way) (locators : Locators) (world : World) (grain : Grain) :
    (way.finder.tryLocal locators world grain).1 =
      (way.family locators grain.kind).answer locators world grain := by
  rw [tryLocal_selected, Family.tryLocal_answer]
  cases way with
  | direct => rfl
  | selector => cases family .selector locators grain.kind <;> rfl

-- What holds for whoever is asked next for the grain, without asking anyone else.
structure Forgets (way : Way) (cause : Cause) (address : Address) (readmitted : Prop)
    (after : Locators × World) : Prop where
  unnamed : ∀ found, (way.finder.tryLocal after.1 after.2 address.grain).1 = some found →
    (∀ other ∈ found.addresses, other.activation ≠ address.activation) ∨ readmitted
  gone : cause = .force →
    (way.family after.1 address.grain.kind).isOwn after.1 after.2 address.grain = false →
    (way.finder.tryLocal after.1 after.2 address.grain).1 = none

theorem forgets_of (family : Family) {addresses : List Address} (listed : address ∈ addresses)
    {cache : Cache} (selected : way.family after address.grain.kind = family)
    (forgot : family.cache after = cache.forgetAll cause addresses)
    (own : family.isOwn after later address.grain = true →
      ∀ found, later.cluster.localLookup after.silo address.grain = some found →
        (∀ other ∈ found.addresses, other.activation ≠ address.activation) ∨ readmitted) :
    way.Forgets cause address readmitted (after, later) := by
  refine ⟨fun found answered => ?_, fun forced elsewhere => ?_⟩
  · rw [tryLocal_answer, selected, Family.answer] at answered
    split at answered
    · rename_i owns
      exact own owns found answered
    · rw [forgot] at answered
      exact .inl (Cache.forgetAll_found listed answered).2
  · rw [selected] at elsewhere
    rw [tryLocal_answer, selected, Family.answer, elsewhere]
    refine Option.eq_none_iff_forall_ne_some.mpr fun found answered => ?_
    rw [if_neg Bool.false_ne_true, forgot] at answered
    exact absurd ((Cache.forgetAll_found listed answered).1.symm.trans forced) nofun

end Way

namespace Family

structure GivesUp (family : Family) (cause : Cause) (addresses : List Address)
    (locators : Locators) (world : World) (after : Locators × World) : Prop where
  alike : locators.Alike after.1
  forgot : family.cache after.1 = (family.cache locators).forgetAll cause addresses
  struck : family = .inCluster →
    after.2.cluster = (world.cluster.unregisterMany locators.silo addresses 0).2

variable {settings : Settings} {locators : Locators} {world : World}

theorem unregister_givesUp (ready : locators.Ready settings world) (family : Family)
    (cause : Cause) {address : Address}
    (served : family = .external →
      (locators.resolver.resolve address.grain.kind).1.isSome = true) :
    family.GivesUp cause [address] locators world
      (family.finder.unregister locators world cause address).2 := by
  cases family with
  | inCluster => exact ⟨Locators.alike_refl locators, rfl, fun _ => rfl⟩
  | external =>
    have givenUp := Locators.unregisterExternal_givenUp ready.named locators cause address
    have result : external.finder.unregister locators world cause address =
      locators.unregisterExternal world cause address := rfl
    rw [result]
    generalize locators.unregisterExternal world cause address = ended at givenUp ⊢
    cases givenUp with
    | refused absent =>
      obtain ⟨name, resolved⟩ := Option.isSome_iff_exists.mp (served rfl)
      have known := ready.known _ name resolved
      rw [absent name resolved] at known
      cases known
    | attempted elapses =>
      exact ⟨Locators.noting_alike locators address.grain.kind, rfl,
        fun other => absurd other (by decide)⟩

def entrusted (family : Family) (locators : Locators) (addresses : List Address) : List Address :=
  match family with
  | inCluster => addresses
  | external => locators.outside addresses

theorem unregisterMany_givesUp (ready : locators.Ready settings world) (family : Family)
    (cause : Cause) (addresses : List Address) :
    family.GivesUp cause (family.entrusted locators addresses) locators world
      (family.finder.unregisterMany locators world cause addresses).2 := by
  cases family with
  | inCluster =>
    have ended := Locators.unregisterManyInCluster_eq locators world cause addresses
    rw [finder, Finder.inCluster, ended]
    exact ⟨Locators.alike_refl locators, rfl, fun _ => rfl⟩
  | external =>
    obtain ⟨resolver, stores, waited, ended, alike, _⟩ :=
      Locators.unregisterManyExternal_eq ready.named locators cause addresses
    rw [finder, Finder.external, ended]
    exact ⟨alike, rfl, fun other => absurd other (by decide)⟩

end Family

namespace Way

variable {settings : Settings} {way : Way} {cause : Cause} {address : Address}
  {locators noted : Locators} {world : World} {readmitted : Prop}

theorem forgets_givenUp (named : world.cluster.Named) {family : Family}
    (selected : way.family locators address.grain.kind = family) (alike : locators.Alike noted)
    {addresses : List Address} (listed : address ∈ addresses) {after : Locators × World}
    (givesUp : family.GivesUp cause addresses noted world after) :
    way.Forgets cause address readmitted after := by
  have alike := Locators.alike_trans alike givesUp.alike
  refine forgets_of family listed ((family_alike alike way _).trans selected) givesUp.forgot ?_
  intro owns found answered
  cases family with
  | external => cases owns
  | inCluster =>
    rw [givesUp.struck rfl, givesUp.alike.1] at answered
    exact .inl (World.unregistered_unnamed named listed answered)

-- While the selector waits for external directories, the activation may be brought back to the
-- silo, whose own part was done first.
def BroughtBack (way : Way) (address : Address) (addresses : List Address)
    (locators : Locators) (world : World) (after : World) : Prop :=
  way = .selector ∧ world.now < after.now ∧ ∃ stores, World.Readmits
    { world.withCluster (world.cluster.unregisterMany locators.silo (locators.inside addresses)
      0).2 with stores } locators.silo address after

theorem selectorMany_forgets (ready : locators.Ready settings world) (cause : Cause)
    {addresses : List Address} (listed : address ∈ addresses) :
    let after := (locators.unregisterMany world cause addresses).2
    selector.Forgets cause address
      (selector.BroughtBack address addresses locators world after.2) after := by
  obtain ⟨resolver, ended, alike⟩ := selectorMany_eq locators world cause addresses
  have named := Cluster.unregisterMany_named ready.named locators.silo (locators.inside addresses) 0
  have near := Locators.unregisterManyInCluster_eq { locators with resolver } world cause
    (locators.inside addresses)
  simp only [near] at ended
  have named : (world.withCluster (world.cluster.unregisterMany locators.silo
    (locators.inside addresses) 0).2).cluster.Named := named
  obtain ⟨later, stores, waited, far, laterAlike, _⟩ := Locators.unregisterManyExternal_eq named
    { locators with
      resolver
      foreign := locators.foreign.forgetAll cause (locators.inside addresses) }
    cause (locators.outside addresses)
  rw [far] at ended
  rw [ended]
  have selected := family_alike (Locators.alike_trans alike laterAlike) .selector address.grain.kind
  cases known : (locators.resolver.resolve address.grain.kind).1 with
  | none =>
    have inside : address ∈ locators.inside addresses :=
      List.mem_filter.mpr ⟨listed, by rw [known]; rfl⟩
    refine forgets_of .inCluster inside ?_ rfl fun _ found answered => ?_
    · refine selected.trans ?_
      rw [family, Locators.familyOf, known]
      rfl
    · refine (World.wait_unnamed ready.named inside rfl waited answered).imp_right ?_
      rintro ⟨positive, back⟩
      refine ⟨rfl, ?_, stores, back⟩
      rw [World.wait_now]
      exact Nat.lt_add_of_pos_right positive
  | some name =>
    have outside : address ∈ locators.outside addresses :=
      List.mem_filter.mpr ⟨listed, by rw [known]; rfl⟩
    refine forgets_of .external (List.mem_filter.mpr ⟨outside, ?_⟩) ?_ rfl
      fun owns => absurd owns Bool.false_ne_true
    · dsimp only
      rw [alike.2, known]
      rfl
    · refine selected.trans ?_
      rw [family, Locators.familyOf, known]
      rfl

-- What was given up is not found any more at once. Only the selector may have to wait when it is
-- told of several addresses, and meanwhile others may bring one of them back.
theorem unregistered_is_forgotten (reached : locators.Reached settings world) (way : Way)
    (cause : Cause) (address : Address)
    (served : way = .direct .external →
      (locators.resolver.resolve address.grain.kind).1.isSome = true) :
    way.Forgets cause address False (way.finder.unregister locators world cause address).2 ∧
    ∀ addresses, address ∈ addresses →
      let after := (way.finder.unregisterMany locators world cause addresses).2
      way.Forgets cause address (way.BroughtBack address addresses locators world after.2)
        after := by
  have ready := Locators.reached_ready reached
  refine ⟨?_, fun addresses listed => ?_⟩
  · have alike := noting_alike way locators address.grain.kind
    have noted := noting_ready ready way address.grain.kind
    rw [unregister_selected]
    refine forgets_givenUp ready.named rfl alike (List.mem_singleton_self address)
      (Family.unregister_givesUp noted _ cause fun selected => ?_)
    rw [alike.2]
    cases way with
    | direct family => exact served (congrArg Way.direct selected)
    | selector =>
      simp only [family, Locators.familyOf] at selected
      split at selected
      · cases selected
      · rename_i known
        exact Option.isSome_iff_ne_none.mpr fun absent => known (absent ▸ rfl)
  · cases way with
    | selector => exact selectorMany_forgets ready cause listed
    | direct family =>
      refine forgets_givenUp ready.named rfl (Locators.alike_refl locators) ?_
        (Family.unregisterMany_givesUp ready family cause addresses)
      cases family with
      | inCluster => exact listed
      | external => exact List.mem_filter.mpr ⟨listed, served rfl⟩

end Way

namespace Duo

def finders : Locators :=
  .ofSettings settings first
    ⟨.ofList [("orders", "orders")], .ofList [("order", "orders")], none, .empty⟩

def slow (world : World) : World :=
  { world with
    stores := Keyed.empty.put "orders" ((External.openKeyValue "main" ⟨3, 100⟩).arm 1) }

def retiring : Snapshot := listed 2 .active .shuttingDown

def order : Address := ⟨⟨"order", "1"⟩, first, .ofNat 11⟩

def outrun : World :=
  slow ((opened (listed 1 .joining .active) second).play
    [.apply first retiring, .apply second retiring])

def forestalled : World :=
  slow ((opened (listed 1 .joining .active) second).play [.apply second retiring, .turn 0])

def surprised : World := forestalled.request [.enqueue (.watch first) (.follow retiring)]

def givenUp (world : World) : Locators × World :=
  (Way.selector.finder.unregisterMany finders world .force [runningOn second, order]).2

theorem ordering_reached (declared : Keyed String String) (fallback : Option String)
    {world : World} (named : world.cluster.Named)
    (opened : (world.stores.get? "orders").isSome) :
    (Locators.ofSettings settings first
      ⟨.ofList [("orders", "orders")], declared, fallback, .empty⟩).Reached settings world := by
  refine .opened first _ named rfl fun key name found => ?_
  have known : key = "orders" ∧ name = "orders" := by
    simpa [Keyed.ofList, eq_comm] using found
  rw [known.2]
  exact opened

theorem finders_reached {world : World} (named : world.cluster.Named)
    (opened : (world.stores.get? "orders").isSome) : finders.Reached settings world :=
  ordering_reached _ _ named opened

theorem slow_named (snapshot : Snapshot) (host : Silo) (run : List Action) :
    (slow ((opened snapshot host).play run)).cluster.Named := by
  rw [slow, opened]
  exact World.play_named (World.play_named (World.empty_sound Xxh3.hashText (by decide)).named _) _

theorem outrun_reached : finders.Reached settings outrun :=
  finders_reached (slow_named _ _ _) rfl

theorem surprised_reached : finders.Reached settings surprised := by
  have same : surprised.cluster = forestalled.cluster := Dispatch.requestAll_world ..
  refine finders_reached ?_ rfl
  rw [same]
  exact slow_named _ _ _

def answered (world : World) : Option Found :=
  (Way.selector.finder.tryLocal (givenUp world).1 (givenUp world).2 grain).1

theorem outrun_answered : (answered outrun).map Found.addresses = some [runningOn second] := by
  decide +kernel

theorem surprised_answered :
    (answered surprised).map Found.addresses = some [runningOn second] := by
  decide +kernel

theorem forgets_readmitted {world : World} {readmitted : Prop}
    (named : (answered world).map Found.addresses = some [runningOn second])
    (forgets : Way.selector.Forgets .force (runningOn second) readmitted (givenUp world)) :
    readmitted := by
  obtain ⟨found, answers, names⟩ := Option.map_eq_some_iff.mp named
  refine (forgets.unnamed found answers).resolve_left fun unnamed => ?_
  exact unnamed (runningOn second) (names ▸ List.mem_singleton_self _) rfl

-- The answer names the activation that was just given up, whether the silo is handed it or comes
-- to own its grain.
theorem given_up_yet_found :
    (finders.Reached settings outrun ∧
      ¬Way.selector.Forgets .force (runningOn second) False (givenUp outrun)) ∧
    (finders.Reached settings surprised ∧
      ¬Way.selector.Forgets .force (runningOn second) False (givenUp surprised)) :=
  ⟨⟨outrun_reached, forgets_readmitted outrun_answered⟩,
    ⟨surprised_reached, forgets_readmitted surprised_answered⟩⟩

theorem outrun_brought_back :
    (Way.direct .external).Forgets .force order False
      ((Way.direct .external).finder.unregister finders outrun .force order).2 ∧
    Way.selector.BroughtBack (runningOn second) [runningOn second, order] finders outrun
      (givenUp outrun).2 := by
  constructor
  · exact (Way.unregistered_is_forgotten outrun_reached (.direct .external) .force order
      fun _ => by decide +kernel).1
  · refine forgets_readmitted outrun_answered ?_
    rw [givenUp]
    exact (Way.unregistered_is_forgotten outrun_reached .selector .force (runningOn second)
      nofun).2 [runningOn second, order] (List.mem_cons_self ..)

end Duo
end ActorDirectory
