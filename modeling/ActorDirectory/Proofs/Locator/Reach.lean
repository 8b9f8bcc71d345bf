import ActorDirectory.Proofs.Locator.Requests

-- What becomes of the locators of a silo: they are asked one thing after the other, and in
-- between the world goes its way.
namespace ActorDirectory

inductive Family where
  | inCluster
  | external
  deriving DecidableEq

inductive Way where
  | direct (family : Family)
  | selector
  deriving DecidableEq

inductive Ask where
  | register (address : Address)
  | registerMulti (address : Address)
  | unregister (cause : Cause) (address : Address)
  | unregisterMany (cause : Cause) (addresses : List Address)
  | lookup (grain : Grain)
  | tryLocal (grain : Grain)
  | invalidate (address : Address)
  | clear
  deriving DecidableEq

namespace Ask

def kind? : Ask → Option String
  | register address | unregister _ address | invalidate address => some address.grain.kind
  | lookup grain | tryLocal grain => some grain.kind
  | registerMulti _ | unregisterMany _ _ | clear => none

end Ask

namespace Finder

def serve (finder : Finder) (locators : Locators) (world : World) : Ask → Locators × World
  | .register address => (finder.register locators world address).2
  | .registerMulti address => (locators, (locators.registerMulti world address).2)
  | .unregister cause address => (finder.unregister locators world cause address).2
  | .unregisterMany cause addresses => (finder.unregisterMany locators world cause addresses).2
  | .lookup grain => (finder.lookup locators world grain).2
  | .tryLocal grain => ((finder.tryLocal locators world grain).2, world)
  | .invalidate address => (finder.invalidate locators address, world)
  | .clear =>
    ({ locators with foreign := locators.foreign.clear, external := locators.external.clear },
      world)

end Finder

namespace Family

def finder : Family → Finder
  | inCluster => .inCluster
  | external => .external

def cache : Family → Locators → Cache
  | inCluster, locators => locators.foreign
  | external, locators => locators.external

def isOwn : Family → Locators → World → Grain → Bool
  | inCluster, locators, world, grain => world.cluster.owns locators.silo grain
  | external, _, _, _ => false

end Family

namespace Locators

def familyOf (locators : Locators) (kind : String) : Family :=
  if (locators.resolver.resolve kind).1.isNone then .inCluster else .external

end Locators

namespace Way

def finder : Way → Finder
  | direct family => family.finder
  | selector => .selector

def family : Way → Locators → String → Family
  | direct family, _, _ => family
  | selector, locators, kind => locators.familyOf kind

def noting : Way → Locators → String → Locators
  | direct _, locators, _ => locators
  | selector, locators, kind => locators.noting kind

variable {way : Way} {locators after : Locators} {world : World}

theorem noting_alike (way : Way) (locators : Locators) (kind : String) :
    locators.Alike (way.noting locators kind) := by
  cases way with
  | direct => exact Locators.alike_refl locators
  | selector => exact Locators.noting_alike locators kind

theorem family_alike (alike : locators.Alike after) (way : Way) (kind : String) :
    way.family after kind = way.family locators kind := by
  cases way with
  | direct => rfl
  | selector => simp only [family, Locators.familyOf, alike.2 kind]

theorem request_selected {α : Type} (request : Finder → Locators → α) {kind : String}
    (selects : ∀ locators, request .selector locators = match locators.isInCluster kind with
      | (true, locators) => request .inCluster locators
      | (false, locators) => request .external locators)
    (way : Way) (locators : Locators) : request way.finder locators =
      request (way.family locators kind).finder (way.noting locators kind) := by
  cases way with
  | direct => rfl
  | selector =>
    rw [finder, selects, Locators.isInCluster_eq, family, noting, Locators.familyOf]
    cases (locators.resolver.resolve kind).1 <;> rfl

theorem register_selected (way : Way) (locators : Locators) (world : World) (address : Address) :
    way.finder.register locators world address =
      (way.family locators address.grain.kind).finder.register
        (way.noting locators address.grain.kind) world address :=
  request_selected (·.register · world address) (fun _ => rfl) way locators

theorem unregister_selected (way : Way) (locators : Locators) (world : World) (cause : Cause)
    (address : Address) : way.finder.unregister locators world cause address =
      (way.family locators address.grain.kind).finder.unregister
        (way.noting locators address.grain.kind) world cause address :=
  request_selected (·.unregister · world cause address) (fun _ => rfl) way locators

theorem lookup_selected (way : Way) (locators : Locators) (world : World) (grain : Grain) :
    way.finder.lookup locators world grain =
      (way.family locators grain.kind).finder.lookup (way.noting locators grain.kind) world
        grain :=
  request_selected (·.lookup · world grain) (fun _ => rfl) way locators

theorem tryLocal_selected (way : Way) (locators : Locators) (world : World) (grain : Grain) :
    way.finder.tryLocal locators world grain =
      (way.family locators grain.kind).finder.tryLocal (way.noting locators grain.kind) world
        grain :=
  request_selected (·.tryLocal · world grain) (fun _ => rfl) way locators

theorem serve_selected {ask : Ask} {kind : String} (about : ask.kind? = some kind) (way : Way)
    (locators : Locators) (world : World) : way.finder.serve locators world ask =
      (way.family locators kind).finder.serve (way.noting locators kind) world ask := by
  cases ask with
  | registerMulti | unregisterMany | clear => cases about
  | register address =>
    cases about
    exact congrArg Prod.snd (register_selected way locators world address)
  | unregister cause address =>
    cases about
    exact congrArg Prod.snd (unregister_selected way locators world cause address)
  | lookup grain =>
    cases about
    exact congrArg Prod.snd (lookup_selected way locators world grain)
  | tryLocal grain =>
    cases about
    exact congrArg (fun result => (result.2, world)) (tryLocal_selected way locators world grain)
  | invalidate address =>
    cases about
    exact congrArg (·, world)
      (request_selected (·.invalidate · address) (fun _ => rfl) way locators)

end Way

structure Locators.Ready (settings : Settings) (locators : Locators) (world : World) : Prop where
  named : world.cluster.Named
  known : ∀ kind name, (locators.resolver.resolve kind).1 = some name →
    (world.stores.get? name).isSome
  foreign : locators.foreign.Tidy settings.cacheSize settings.cacheTtl
  external : locators.external.Tidy settings.cacheSize settings.cacheTtl

namespace Locators

variable {settings : Settings} {locators after : Locators} {world later : World}

-- What every request leaves as it is, and what it keeps to.
structure Continues (settings : Settings) (before : Locators) (world : World) (after : Locators)
    (later : World) : Prop where
  alike : before.Alike after
  elapses : world.Elapses later
  foreign : after.foreign.Tidy settings.cacheSize settings.cacheTtl
  external : after.external.Tidy settings.cacheSize settings.cacheTtl

theorem ready_continues (ready : locators.Ready settings world)
    (continues : locators.Continues settings world after later) : after.Ready settings later where
  named := continues.elapses.named
  known := fun kind name found =>
    continues.elapses.kept name (ready.known kind name ((continues.alike.2 kind).symm.trans found))
  foreign := continues.foreign
  external := continues.external

theorem continues_elapses (ready : locators.Ready settings world) (elapses : world.Elapses later) :
    locators.Continues settings world locators later :=
  ⟨alike_refl locators, elapses, ready.foreign, ready.external⟩

theorem ready_elapses (ready : locators.Ready settings world) (elapses : world.Elapses later) :
    locators.Ready settings later :=
  ready_continues ready (continues_elapses ready elapses)

section Answers

variable {address : Address} {grain : Grain} {cause : Cause}

theorem madeInside_continues {result : Except Fault Tagged × Locators × World}
    (ready : locators.Ready settings world) (made : locators.MadeInside world address result) :
    locators.Continues settings world result.2.1 result.2.2 := by
  cases made with
  | failed called => exact continues_elapses ready (registered_elapses ready.named called)
  | own called => exact continues_elapses ready (registered_elapses ready.named called)
  | foreign called =>
    exact ⟨alike_refl locators, registered_elapses ready.named called,
      Cache.add_tidy ready.foreign .., ready.external⟩

theorem madeOutside_continues {result : Except Fault Tagged × Locators × World}
    (ready : locators.Ready settings world) (made : locators.MadeOutside world address result) :
    locators.Continues settings world result.2.1 result.2.2 := by
  have noted := noting_alike locators address.grain.kind
  cases made with
  | failed elapses => exact ⟨noted, elapses, ready.foreign, ready.external⟩
  | made _ _ _ _ elapses =>
    exact ⟨noted, elapses, ready.foreign, Cache.add_tidy ready.external ..⟩

theorem givenUpOutside_continues {result : Except Fault Unit × Locators × World}
    (ready : locators.Ready settings world)
    (givenUp : locators.GivenUpOutside world cause address result) :
    locators.Continues settings world result.2.1 result.2.2 := by
  have noted := noting_alike locators address.grain.kind
  cases givenUp with
  | refused =>
    exact ⟨noted, World.elapses_refl ready.named, ready.foreign, ready.external⟩
  | attempted elapses =>
    exact ⟨noted, elapses, ready.foreign, Cache.forget_tidy ready.external cause address⟩

theorem foundInside_continues {result : Except Fault (Option Found) × Locators × World}
    (ready : locators.Ready settings world) (found : locators.FoundInside world grain result) :
    locators.Continues settings world result.2.1 result.2.2 := by
  have looked := Cache.lookup_tidy ready.foreign world.now grain
  cases found with
  | own _ called => exact continues_elapses ready (lookedUp_elapses ready.named called)
  | recalled _ recalled =>
    rw [recalled] at looked
    exact ⟨alike_refl locators, World.elapses_refl ready.named, looked, ready.external⟩
  | missed _ missed called =>
    rw [missed] at looked
    exact ⟨alike_refl locators, lookedUp_elapses ready.named called, looked, ready.external⟩
  | found _ missed called =>
    rw [missed] at looked
    exact ⟨alike_refl locators, lookedUp_elapses ready.named called,
      Cache.addFound_tidy looked .., ready.external⟩

theorem foundOutside_continues {result : Except Fault (Option Found) × Locators × World}
    (ready : locators.Ready settings world) (found : locators.FoundOutside world grain result) :
    locators.Continues settings world result.2.1 result.2.2 := by
  have noted := noting_alike locators grain.kind
  have looked := Cache.lookup_tidy ready.external world.now grain
  cases found with
  | recalled recalled =>
    rw [recalled] at looked
    exact ⟨alike_refl locators, World.elapses_refl ready.named, ready.foreign, looked⟩
  | missed missed _ elapses =>
    rw [missed] at looked
    exact ⟨noted, elapses, ready.foreign, looked⟩
  | found missed _ _ elapses =>
    rw [missed] at looked
    exact ⟨noted, elapses, ready.foreign, Cache.addFound_tidy looked ..⟩

end Answers

theorem manyInside_continues (ready : locators.Ready settings world) (cause : Cause)
    (addresses : List Address) :
    locators.Continues settings world (locators.unregisterManyInCluster world cause addresses).2.1
      (locators.unregisterManyInCluster world cause addresses).2.2 := by
  rw [unregisterManyInCluster_eq]
  exact ⟨alike_refl locators, unregistered_elapses ready.named _ _,
    Cache.forgetAll_tidy ready.foreign cause addresses, ready.external⟩

theorem manyOutside_continues (ready : locators.Ready settings world) (cause : Cause)
    (addresses : List Address) :
    locators.Continues settings world (locators.unregisterManyExternal world cause addresses).2.1
      (locators.unregisterManyExternal world cause addresses).2.2 := by
  obtain ⟨resolver, stores, waited, ended, alike, elapses⟩ :=
    unregisterManyExternal_eq ready.named locators cause addresses
  rw [ended]
  exact ⟨alike, elapses, ready.foreign, Cache.forgetAll_tidy ready.external cause _⟩

end Locators

namespace Family

variable {settings : Settings} {locators : Locators} {world : World}

theorem serve_continues (ready : locators.Ready settings world) (family : Family) (ask : Ask) :
    locators.Continues settings world (family.finder.serve locators world ask).1
      (family.finder.serve locators world ask).2 := by
  have still := World.elapses_refl ready.named
  have looked := Cache.lookup_tidy ready.foreign world.now
  cases ask with
  | registerMulti address =>
    exact Locators.continues_elapses ready (World.tended_elapses ready.named
      (Cluster.register_tended ready.named locators.silo address false 0))
  | clear =>
    exact ⟨Locators.alike_refl locators, still, Cache.clear_tidy ready.foreign,
      Cache.clear_tidy ready.external⟩
  | register address =>
    cases family with
    | inCluster =>
      exact Locators.madeInside_continues ready
        (Locators.registerInCluster_made locators world address)
    | external =>
      exact Locators.madeOutside_continues ready
        (Locators.registerExternal_made ready.named locators address)
  | unregister cause address =>
    cases family with
    | inCluster =>
      exact ⟨Locators.alike_refl locators,
        Locators.unregistered_elapses ready.named locators.silo [address],
        Cache.forget_tidy ready.foreign cause address, ready.external⟩
    | external =>
      exact Locators.givenUpOutside_continues ready
        (Locators.unregisterExternal_givenUp ready.named locators cause address)
  | unregisterMany cause addresses =>
    cases family with
    | inCluster => exact Locators.manyInside_continues ready cause addresses
    | external => exact Locators.manyOutside_continues ready cause addresses
  | lookup grain =>
    cases family with
    | inCluster =>
      exact Locators.foundInside_continues ready
        (Locators.lookupInCluster_found locators world grain)
    | external =>
      exact Locators.foundOutside_continues ready
        (Locators.lookupExternal_found ready.named locators grain)
  | tryLocal grain =>
    cases family with
    | inCluster =>
      simp only [finder, Finder.serve, Finder.inCluster, Locators.tryInCluster]
      split
      · exact Locators.continues_elapses ready still
      · exact ⟨Locators.alike_refl locators, still, looked grain, ready.external⟩
    | external =>
      exact ⟨Locators.alike_refl locators, still, ready.foreign,
        Cache.lookup_tidy ready.external world.now grain⟩
  | invalidate address =>
    cases family with
    | inCluster =>
      exact ⟨Locators.alike_refl locators, still,
        Cache.forget_tidy ready.foreign .nonexistent address, ready.external⟩
    | external =>
      exact ⟨Locators.alike_refl locators, still, ready.foreign,
        Cache.forget_tidy ready.external .nonexistent address⟩

theorem serve_ready (ready : locators.Ready settings world) (family : Family) (ask : Ask) :
    (family.finder.serve locators world ask).1.Ready settings
      (family.finder.serve locators world ask).2 :=
  Locators.ready_continues ready (serve_continues ready family ask)

end Family

namespace Way

variable {settings : Settings} {locators : Locators} {world : World}

theorem noting_ready (ready : locators.Ready settings world) (way : Way) (kind : String) :
    (way.noting locators kind).Ready settings world := by
  have still := World.elapses_refl ready.named
  cases way with
  | direct => exact ready
  | selector =>
    exact Locators.ready_continues ready
      ⟨Locators.noting_alike locators kind, still, ready.foreign, ready.external⟩

theorem selectorMany_eq (locators : Locators) (world : World) (cause : Cause)
    (addresses : List Address) : ∃ resolver,
    let divided : Locators := { locators with resolver }
    let near := (divided.unregisterManyInCluster world cause (locators.inside addresses)).2
    (locators.unregisterMany world cause addresses).2 =
        (near.1.unregisterManyExternal near.2 cause (locators.outside addresses)).2 ∧
      locators.Alike divided := by
  obtain ⟨resolver, divided, alike⟩ := Locators.divide_eq locators addresses
  refine ⟨resolver, ?_, alike⟩
  simp only [Locators.unregisterMany, divided]

theorem serve_ready (ready : locators.Ready settings world) (way : Way) (ask : Ask) :
    (way.finder.serve locators world ask).1.Ready settings
      (way.finder.serve locators world ask).2 := by
  cases about : ask.kind? with
  | some kind =>
    rw [serve_selected about]
    exact Family.serve_ready (noting_ready ready way kind) _ ask
  | none =>
    cases ask with
    | register | unregister | lookup | tryLocal | invalidate => cases about
    | registerMulti address => exact Family.serve_ready ready .inCluster (.registerMulti address)
    | clear => exact Family.serve_ready ready .inCluster .clear
    | unregisterMany cause addresses =>
      cases way with
      | direct family => exact Family.serve_ready ready family (.unregisterMany cause addresses)
      | selector =>
        obtain ⟨resolver, ended, alike⟩ := selectorMany_eq locators world cause addresses
        have divided := Locators.ready_continues ready
          ⟨alike, World.elapses_refl ready.named, ready.foreign, ready.external⟩
        have near := Locators.ready_continues divided
          (Locators.manyInside_continues divided cause (locators.inside addresses))
        rw [Finder.serve, finder, Finder.selector, ended]
        exact Locators.ready_continues near
          (Locators.manyOutside_continues near cause (locators.outside addresses))

end Way

-- What the locators and the world around them can come to, whatever the locators are asked and
-- whatever others do in between.
inductive Locators.Reached (settings : Settings) : Locators → World → Prop where
  | opened {world : World} (silo : Silo) (resolver : Resolver String) : world.cluster.Named →
      resolver.remembered = .empty →
      (∀ key name, resolver.directories.get? key = some name → (world.stores.get? name).isSome) →
      Reached settings (.ofSettings settings silo resolver) world
  | served {locators : Locators} {world : World} (way : Way) (ask : Ask) :
      Reached settings locators world →
      Reached settings (way.finder.serve locators world ask).1
        (way.finder.serve locators world ask).2
  | elapsed {locators : Locators} {world after : World} : Reached settings locators world →
      world.Elapses after → Reached settings locators after

theorem Locators.reached_ready {settings : Settings} {locators : Locators} {world : World}
    (reached : locators.Reached settings world) : locators.Ready settings world := by
  induction reached with
  | opened silo resolver named fresh stored =>
    refine ⟨named, fun kind name found => ?_, Cache.empty_tidy _ _, Cache.empty_tidy _ _⟩
    have decided : resolver.decide kind = some name := by
      simpa [Locators.ofSettings, Resolver.resolve, fresh] using found
    obtain ⟨key, _, there⟩ := Option.bind_eq_some_iff.mp decided
    exact stored key name there
  | served way ask _ ready => exact Way.serve_ready ready way ask
  | elapsed _ elapses ready => exact Locators.ready_elapses ready elapses

end ActorDirectory
