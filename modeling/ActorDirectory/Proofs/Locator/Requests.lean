import ActorDirectory.Locator.Selector
import ActorDirectory.Proofs.Cluster.Confinement
import ActorDirectory.Proofs.Locator.Recall
import ActorDirectory.Proofs.Locator.Resolution

namespace ActorDirectory

namespace World

variable {world middle after : World} {name : String}

-- Time has passed and anything may have been done, but no external directory is gone.
structure Elapses (before after : World) : Prop where
  later : before.now ≤ after.now
  named : after.cluster.Named
  kept : ∀ name, (before.stores.get? name).isSome → (after.stores.get? name).isSome

theorem elapses_refl (named : world.cluster.Named) : world.Elapses world :=
  ⟨Nat.le_refl _, named, fun _ => id⟩

theorem elapses_trans (one : world.Elapses middle) (two : middle.Elapses after) :
    world.Elapses after :=
  ⟨Nat.le_trans one.later two.later, two.named,
    fun name opened => two.kept name (one.kept name opened)⟩

theorem act_stores (world : World) (action : Action) :
    (world.act action).stores = world.stores := by
  cases action <;> rfl

theorem act_elapses (named : world.cluster.Named) {action : Action}
    (forwards : ∀ time, action = .pass time → world.now ≤ time) :
    world.Elapses (world.act action) := by
  refine ⟨?_, act_named named action, fun name opened => by rwa [act_stores]⟩
  cases action with
  | pass time => exact forwards time rfl
  | start silo => exact Nat.le_refl _
  | stop silo => exact Nat.le_refl _
  | apply silo snapshot =>
    have same : (world.act (.apply silo snapshot)).now = world.now := Dispatch.requestAll_now ..
    exact Nat.le_of_eq same.symm
  | turn number => exact Nat.le_of_eq (Dispatch.turn_now ..).symm
  | register silo address single hops => exact Nat.le_refl _
  | unregister silo addresses hops => exact Nat.le_refl _
  | lookup silo grain hops => exact Nat.le_refl _
  | host silo address single => exact Nat.le_refl _
  | unhost silo address => exact Nat.le_refl _

theorem tended_elapses (named : world.cluster.Named) {cluster : Cluster}
    (tended : world.cluster.Tended cluster) : world.Elapses (world.withCluster cluster) :=
  ⟨Nat.le_refl _, Cluster.tended_named named tended, fun _ => id⟩

theorem wait_now (world : World) (duration : Nat) :
    (world.wait duration).now = world.now + duration := by
  simp only [wait, now, Dispatch.wait]
  split
  · rename_i nothing
    rw [nothing, Nat.add_zero]
  · rfl

theorem works_named (named : world.cluster.Named) (works : world.Works after) :
    after.cluster.Named := by
  obtain ⟨run, _, rfl⟩ := works
  exact play_named named run

theorem wait_elapses (named : world.cluster.Named) (duration : Nat) :
    world.Elapses (world.wait duration) :=
  ⟨by rw [wait_now]; exact Nat.le_add_right .., works_named named (wait_works named duration),
    fun _ => id⟩

-- An external directory has answered, and time has passed until it did.
theorem put_elapses (named : world.cluster.Named) (name : String) (store : External)
    (duration : Nat) :
    world.Elapses ({ world with stores := world.stores.put name store }.wait duration) := by
  have put : world.Elapses { world with stores := world.stores.put name store } := by
    refine ⟨Nat.le_refl _, named, fun other opened => ?_⟩
    simp only [Keyed.get?_put]
    split
    · rfl
    · exact opened
  exact elapses_trans put (wait_elapses put.named duration)

end World

theorem Entry.toFound_ok {entry : Entry} {found : Found} (read : entry.toFound = .ok found) :
    ∃ address, entry.toAddress = .ok address ∧ found = ⟨[address], entry.version⟩ := by
  rw [toFound] at read
  cases parsed : entry.toAddress with
  | error fault =>
    rw [parsed] at read
    cases read
  | ok address =>
    rw [parsed] at read
    cases read
    exact ⟨address, rfl, rfl⟩

-- What a directory told, and when: as it left the cluster or the store, whatever a locator
-- made of it.
structure Told where
  time : Nat
  found : Found
  deriving DecidableEq

namespace Locators

variable {locators middle after : Locators} {world : World}

def Alike (before after : Locators) : Prop :=
  after.silo = before.silo ∧
    ∀ kind, (after.resolver.resolve kind).1 = (before.resolver.resolve kind).1

theorem alike_refl (locators : Locators) : locators.Alike locators := ⟨rfl, fun _ => rfl⟩

theorem alike_trans (one : locators.Alike middle) (two : middle.Alike after) :
    locators.Alike after :=
  ⟨two.1.trans one.1, fun kind => (two.2 kind).trans (one.2 kind)⟩

def noting (locators : Locators) (kind : String) : Locators :=
  { locators with resolver := (locators.resolver.resolve kind).2 }

theorem noting_alike (locators : Locators) (kind : String) :
    locators.Alike (locators.noting kind) :=
  ⟨rfl, locators.resolver.resolve_resolve kind⟩

def nameOf (locators : Locators) (kind : String) : Except Fault String :=
  match (locators.resolver.resolve kind).1 with
  | some name => .ok name
  | none => .error (.noDirectory kind)

theorem directoryOf_eq (locators : Locators) (kind : String) :
    locators.directoryOf kind = (locators.nameOf kind, locators.noting kind) := by
  simp only [directoryOf, nameOf, noting]
  split <;> simp [*]

theorem isInCluster_eq (locators : Locators) (kind : String) :
    locators.isInCluster kind = ((locators.resolver.resolve kind).1.isNone, locators.noting kind) :=
  rfl

theorem nameOf_alike (alike : locators.Alike after) (kind : String) :
    after.nameOf kind = locators.nameOf kind := by
  rw [nameOf, nameOf, alike.2 kind]

section Outside

variable {α : Type} {kind : String} {use : External → Timed α × External} {address : Address}
  {grain : Grain} {cause : Cause}

inductive Asked (locators : Locators) (world : World) (kind : String)
    (use : External → Timed α × External) : Except Fault α × Locators × World → Prop where
  | refused {fault : Fault} :
      (∀ name, (locators.resolver.resolve kind).1 = some name → world.stores.get? name = none) →
      Asked locators world kind use (.error fault, locators.noting kind, world)
  | answered {name : String} {store : External} {after : World} :
      (locators.resolver.resolve kind).1 = some name → world.stores.get? name = some store →
      after = { world with stores := world.stores.put name (use store).2 }.wait
        (use store).1.waited →
      Asked locators world kind use (.ok (use store).1.result, locators.noting kind, after)

theorem ask_asked (locators : Locators) (world : World) (kind : String)
    (use : External → Timed α × External) :
    locators.Asked world kind use (locators.ask world kind use) := by
  rw [ask, directoryOf_eq, nameOf]
  cases known : (locators.resolver.resolve kind).1 with
  | none => exact .refused fun name found => nomatch known.symm.trans found
  | some name =>
    simp only [World.ask]
    cases opened : world.stores.get? name with
    | none =>
      refine .refused fun other found => ?_
      cases known.symm.trans found
      exact opened
    | some store => exact .answered known opened rfl

-- Whatever is made of the answer, nothing more is changed than what was learnt.
theorem registerExternal_learns (locators : Locators) (world : World) (address : Address) :
    let asked := (locators.ask world address.grain.kind
      (·.register (.ofAddress address .unknown))).2
    ∃ external, (locators.registerExternal world address).2 =
      ({ asked.1 with external }, asked.2) := by
  unfold registerExternal
  dsimp only
  generalize locators.ask world address.grain.kind
    (·.register (.ofAddress address .unknown)) = called
  obtain ⟨result, after, later⟩ := called
  cases result with
  | error fault => exact ⟨after.external, rfl⟩
  | ok outcome =>
    dsimp only
    split
    · exact ⟨after.external, rfl⟩
    · split
      · exact ⟨after.external, rfl⟩
      · exact ⟨_, rfl⟩

theorem unregisterExternal_learns (locators : Locators) (world : World) (cause : Cause)
    (address : Address) :
    let asked := (locators.ask world address.grain.kind
      (·.unregister (.ofAddress address .unknown))).2
    ∃ external, (locators.unregisterExternal world cause address).2 =
      ({ asked.1 with external }, asked.2) := by
  unfold unregisterExternal
  dsimp only
  generalize locators.ask world address.grain.kind
    (·.unregister (.ofAddress address .unknown)) = called
  obtain ⟨result, after, later⟩ := called
  cases result with
  | error fault => exact ⟨after.external, rfl⟩
  | ok outcome => exact ⟨_, rfl⟩

theorem lookupExternal_learns (locators : Locators) (world : World) (grain : Grain) :
    ∃ external, (locators.lookupExternal world grain).2 = ({ locators with external }, world) ∨
      ∃ learnt, (locators.lookupExternal world grain).2 =
        let asked := ({ locators with external }.ask world grain.kind (·.lookup grain.toText)).2
        ({ asked.1 with external := learnt }, asked.2) := by
  unfold lookupExternal
  split
  · rename_i external _
    exact ⟨external, .inl rfl⟩
  · rename_i external _
    refine ⟨external, .inr ?_⟩
    generalize ask _ world grain.kind _ = called
    obtain ⟨result, after, later⟩ := called
    rcases result with fault | fault | _ | entry
    · exact ⟨after.external, rfl⟩
    · exact ⟨after.external, rfl⟩
    · exact ⟨after.external, rfl⟩
    · dsimp only
      split
      · exact ⟨after.external, rfl⟩
      · exact ⟨_, rfl⟩

def storeOf? (locators : Locators) (world : World) (kind : String) : Option External :=
  (locators.resolver.resolve kind).1.bind world.stores.get?

theorem storeOf_refused
    (absent : ∀ name, (locators.resolver.resolve kind).1 = some name →
      world.stores.get? name = none) : locators.storeOf? world kind = none :=
  Option.bind_eq_none_iff.mpr absent

theorem storeOf_answered {name : String} {store : External}
    (known : (locators.resolver.resolve kind).1 = some name)
    (opened : world.stores.get? name = some store) :
    locators.storeOf? world kind = some store :=
  Option.bind_eq_some_iff.mpr ⟨name, known, opened⟩

theorem answered_now {name : String} {store : External} {duration : Nat} {after : World}
    (same : after = { world with stores := world.stores.put name store }.wait duration) :
    after.now = world.now + duration := by
  rw [same, World.wait_now]
  rfl

def registeredOutside (locators : Locators) (world : World) (address : Address) :
    Option Told := do
  let store ← locators.storeOf? world address.grain.kind
  let timed := (store.register (.ofAddress address .unknown)).1
  let entry ← timed.result.authoritative.toOption
  let tagged ← entry.toTagged.toOption
  return ⟨world.now + timed.waited, [tagged.address], tagged.version⟩

def locatedOutside (locators : Locators) (world : World) (grain : Grain) : Option Told := do
  let store ← locators.storeOf? world grain.kind
  let timed := (store.lookup grain.toText).1
  let entry ← timed.result.toOption.join
  let found ← entry.toFound.toOption
  return ⟨world.now + timed.waited, found⟩

inductive MadeOutside (locators : Locators) (world : World) (address : Address) :
    Except Fault Tagged × Locators × World → Prop where
  | failed {fault : Fault} {after : World} : world.Elapses after →
      locators.registeredOutside world address = none →
      MadeOutside locators world address
        (.error fault, locators.noting address.grain.kind, after)
  | made {name : String} {store : External} {entry : Entry} {tagged : Tagged} {after : World} :
      (locators.resolver.resolve address.grain.kind).1 = some name →
      world.stores.get? name = some store →
      (store.register (.ofAddress address .unknown)).1.result.authoritative = .ok entry →
      entry.toTagged = .ok tagged → world.Elapses after →
      locators.registeredOutside world address =
        some ⟨after.now, [tagged.address], tagged.version⟩ →
      MadeOutside locators world address (.ok tagged, { locators.noting address.grain.kind with
        external := locators.external.addTagged after.now tagged.address.grain tagged }, after)

theorem registerExternal_made (named : world.cluster.Named) (locators : Locators)
    (address : Address) :
    locators.MadeOutside world address (locators.registerExternal world address) := by
  have asked := ask_asked locators world address.grain.kind
    (·.register (.ofAddress address .unknown))
  rw [registerExternal]
  dsimp only
  generalize locators.ask world address.grain.kind
    (·.register (.ofAddress address .unknown)) = called at asked ⊢
  cases asked with
  | refused absent =>
    refine .failed (World.elapses_refl named) ?_
    rw [registeredOutside, storeOf_refused absent]
    rfl
  | @answered name store after known opened same =>
    have elapses : world.Elapses after := same ▸ World.put_elapses named ..
    have answers := storeOf_answered known opened
    dsimp only
    split
    · rename_i refused
      refine .failed elapses ?_
      simp [registeredOutside, answers, refused, Except.toOption]
    · rename_i entry told
      split
      · rename_i unread
        refine .failed elapses ?_
        simp [registeredOutside, answers, told, unread, Except.toOption]
      · rename_i tagged read
        refine .made known opened told read elapses ?_
        simp [registeredOutside, answers, told, read, Except.toOption, answered_now same]

inductive GivenUpOutside (locators : Locators) (world : World) (cause : Cause)
    (address : Address) : Except Fault Unit × Locators × World → Prop where
  | refused {fault : Fault} :
      (∀ name, (locators.resolver.resolve address.grain.kind).1 = some name →
        world.stores.get? name = none) →
      GivenUpOutside locators world cause address
        (.error fault, locators.noting address.grain.kind, world)
  | attempted {result : Except Fault Unit} {after : World} : world.Elapses after →
      GivenUpOutside locators world cause address (result,
        { locators.noting address.grain.kind with
          external := locators.external.forget cause address }, after)

theorem unregisterExternal_givenUp (named : world.cluster.Named) (locators : Locators)
    (cause : Cause) (address : Address) :
    locators.GivenUpOutside world cause address
      (locators.unregisterExternal world cause address) := by
  have asked := ask_asked locators world address.grain.kind
    (·.unregister (.ofAddress address .unknown))
  rw [unregisterExternal]
  generalize locators.ask world address.grain.kind
    (·.unregister (.ofAddress address .unknown)) = called at asked ⊢
  cases asked with
  | refused absent => exact .refused absent
  | answered known opened same => exact .attempted (same ▸ World.put_elapses named ..)

inductive FoundOutside (locators : Locators) (world : World) (grain : Grain) :
    Except Fault (Option Found) × Locators × World → Prop where
  | recalled {found : Found} {external : Cache} :
      locators.external.lookup world.now grain = (some found, external) →
      FoundOutside locators world grain (.ok (some found), { locators with external }, world)
  | missed {result : Except Fault (Option Found)} {external : Cache} {after : World} :
      locators.external.lookup world.now grain = (none, external) →
      (∀ found, result ≠ .ok (some found)) → world.Elapses after →
      locators.locatedOutside world grain = none →
      FoundOutside locators world grain
        (result, { locators.noting grain.kind with external }, after)
  | found {name : String} {found : Found} {external : Cache} {after : World} :
      locators.external.lookup world.now grain = (none, external) →
      (locators.resolver.resolve grain.kind).1 = some name → found.addresses ≠ [] →
      world.Elapses after → locators.locatedOutside world grain = some ⟨after.now, found⟩ →
      FoundOutside locators world grain (.ok (some found),
        { locators.noting grain.kind with external := external.addFound after.now found }, after)

theorem lookupExternal_found (named : world.cluster.Named) (locators : Locators)
    (grain : Grain) :
    locators.FoundOutside world grain (locators.lookupExternal world grain) := by
  rw [lookupExternal]
  cases looked : locators.external.lookup world.now grain with
  | mk answer external =>
    cases answer with
    | some answer => exact .recalled looked
    | none =>
      have asked := ask_asked { locators with external } world grain.kind (·.lookup grain.toText)
      dsimp only
      generalize ask _ world grain.kind _ = called at asked ⊢
      cases asked with
      | refused absent =>
        have nobody : locators.storeOf? world grain.kind = none := storeOf_refused absent
        refine .missed looked (by simp) (World.elapses_refl named) ?_
        rw [locatedOutside, nobody]
        rfl
      | @answered name store after known opened same =>
        have elapses : world.Elapses after := same ▸ World.put_elapses named ..
        have answers : locators.storeOf? world grain.kind = some store :=
          storeOf_answered known opened
        rcases told : (store.lookup grain.toText).1.result with fault | ⟨⟩ | entry
        · refine .missed looked (by simp) elapses ?_
          simp [locatedOutside, answers, told, Except.toOption]
        · refine .missed looked (by simp) elapses ?_
          simp [locatedOutside, answers, told, Except.toOption]
        · dsimp only
          split
          · rename_i unread
            refine .missed looked (by simp) elapses ?_
            simp [locatedOutside, answers, told, unread, Except.toOption]
          · rename_i read
            obtain ⟨address, _, rfl⟩ := Entry.toFound_ok read
            refine .found looked known (List.cons_ne_nil _ _) elapses ?_
            simp [locatedOutside, answers, told, read, Except.toOption, answered_now same]

end Outside

section Many

variable {cause : Cause}

def outside (locators : Locators) (addresses : List Address) : List Address :=
  addresses.filter fun address => (locators.resolver.resolve address.grain.kind).1.isSome

def inside (locators : Locators) (addresses : List Address) : List Address :=
  addresses.filter fun address => (locators.resolver.resolve address.grain.kind).1.isNone

theorem outside_alike (alike : locators.Alike after) (addresses : List Address) :
    after.outside addresses = locators.outside addresses := by
  simp only [outside, alike.2]

theorem inside_alike (alike : locators.Alike after) (addresses : List Address) :
    after.inside addresses = locators.inside addresses := by
  simp only [inside, alike.2]

theorem directoriesOf_eq (locators : Locators) (addresses : List Address) :
    ∃ resolver, locators.directoriesOf addresses =
        (addresses.map fun address => (address, locators.nameOf address.grain.kind),
          { locators with resolver }) ∧ locators.Alike { locators with resolver } := by
  induction addresses generalizing locators with
  | nil => exact ⟨_, rfl, alike_refl locators⟩
  | cons address rest ih =>
    have noted := noting_alike locators address.grain.kind
    obtain ⟨resolver, named, alike⟩ := ih (locators.noting address.grain.kind)
    refine ⟨resolver, ?_, alike_trans noted alike⟩
    simp only [directoriesOf, directoryOf_eq, named, nameOf_alike noted, List.map_cons]
    rfl

theorem divide_eq (locators : Locators) (addresses : List Address) :
    ∃ resolver, locators.divide addresses =
        ((locators.inside addresses, locators.outside addresses), { locators with resolver }) ∧
      locators.Alike { locators with resolver } := by
  induction addresses generalizing locators with
  | nil => exact ⟨_, rfl, alike_refl locators⟩
  | cons address rest ih =>
    have noted := noting_alike locators address.grain.kind
    obtain ⟨resolver, divided, alike⟩ := ih (locators.noting address.grain.kind)
    refine ⟨resolver, ?_, alike_trans noted alike⟩
    rw [inside_alike noted, outside_alike noted] at divided
    simp only [divide, isInCluster_eq, divided, inside, outside, List.filter_cons]
    cases (locators.resolver.resolve address.grain.kind).1 <;> rfl

theorem forgets_outside (locators before : Locators) (cause : Cause) (addresses : List Address) :
    (addresses.map fun address => (address, before.nameOf address.grain.kind)).foldl
        (fun locators named =>
          match named.2 with
          | .ok _ => locators.forgetExternal cause named.1
          | .error _ => locators) locators =
      { locators with
        external := locators.external.forgetAll cause (before.outside addresses) } := by
  induction addresses generalizing locators with
  | nil => rfl
  | cons address rest ih =>
    refine (ih _).trans ?_
    simp only [outside, List.filter_cons, nameOf]
    cases (before.resolver.resolve address.grain.kind).1 <;> rfl

theorem unregisterBatches_kept (stores : Keyed String External)
    (batches : List (String × List (String × Address × Nat))) (name : String)
    (opened : (stores.get? name).isSome) :
    ((unregisterBatches stores batches).2.2.get? name).isSome := by
  induction batches generalizing stores with
  | nil => exact opened
  | cons batch rest ih =>
    rw [unregisterBatches]
    split
    · exact ih stores opened
    · refine ih _ ?_
      rw [Keyed.get?_put]
      split
      · rfl
      · exact opened

def firstOf : List (Fault × Nat) → Except Fault Unit
  | [] => .ok ()
  | (fault, _) :: _ => .error fault

def attemptOutside (locators : Locators) (stores : Keyed String External)
    (addresses : List Address) : Except Fault Unit × Nat × Keyed String External :=
  let named := addresses.map fun address => (address, locators.nameOf address.grain.kind)
  let ended := unregisterBatches stores (batches named)
  let unnamed := named.zipIdx.filterMap fun ((_, name), place) =>
    match name with
    | .ok _ => none
    | .error fault => some (fault, place)
  (firstOf (Order.sortOn Prod.snd (unnamed ++ ended.1)), ended.2)

theorem attemptOutside_alike (alike : locators.Alike after) (stores : Keyed String External)
    (addresses : List Address) :
    after.attemptOutside stores addresses = locators.attemptOutside stores addresses := by
  unfold attemptOutside
  simp only [nameOf_alike alike]

theorem attemptOutside_kept (locators : Locators) (stores : Keyed String External)
    (addresses : List Address) {name : String} (opened : (stores.get? name).isSome) :
    ((locators.attemptOutside stores addresses).2.2.get? name).isSome :=
  unregisterBatches_kept stores _ name opened

theorem unregisterManyExternal_exact (locators : Locators) (world : World) (cause : Cause)
    (addresses : List Address) : ∃ resolver,
      let ends := locators.attemptOutside world.stores addresses
      locators.unregisterManyExternal world cause addresses = (ends.1,
        { locators with
          resolver
          external := locators.external.forgetAll cause (locators.outside addresses) },
        { world with stores := ends.2.2 }.wait ends.2.1) ∧
      locators.Alike { locators with resolver } := by
  obtain ⟨resolver, found, alike⟩ := directoriesOf_eq locators addresses
  have forgets := forgets_outside { locators with resolver } locators cause addresses
  refine ⟨resolver, ?_, alike⟩
  unfold unregisterManyExternal attemptOutside
  simp only [found]
  split
  · rename_i nothing
    exact Prod.ext (congrArg firstOf nothing).symm (Prod.ext forgets rfl)
  · rename_i faulty
    exact Prod.ext (congrArg firstOf faulty).symm (Prod.ext forgets rfl)

theorem unregisterManyExternal_eq (named : world.cluster.Named) (locators : Locators)
    (cause : Cause) (addresses : List Address) : ∃ resolver stores waited,
      (locators.unregisterManyExternal world cause addresses).2 =
        ({ locators with
          resolver
          external := locators.external.forgetAll cause (locators.outside addresses) },
          { world with stores }.wait waited) ∧
      locators.Alike { locators with resolver } ∧
      world.Elapses ({ world with stores }.wait waited) := by
  obtain ⟨resolver, ended, alike⟩ := unregisterManyExternal_exact locators world cause addresses
  have changed : world.Elapses
      { world with stores := (locators.attemptOutside world.stores addresses).2.2 } :=
    ⟨Nat.le_refl _, named, fun _ => attemptOutside_kept locators world.stores addresses⟩
  exact ⟨resolver, _, _, congrArg Prod.snd ended, alike,
    World.elapses_trans changed (World.wait_elapses changed.named _)⟩

theorem forgets_inside (locators : Locators) (cause : Cause) (addresses : List Address) :
    addresses.foldl (·.forgetForeign cause ·) locators =
      { locators with foreign := locators.foreign.forgetAll cause addresses } := by
  induction addresses generalizing locators with
  | nil => rfl
  | cons address rest ih => exact ih _

theorem unregisterManyInCluster_exact (locators : Locators) (world : World) (cause : Cause)
    (addresses : List Address) :
    let ends := world.cluster.unregisterMany locators.silo addresses 0
    locators.unregisterManyInCluster world cause addresses =
      (ends.1, { locators with foreign := locators.foreign.forgetAll cause addresses },
        world.withCluster ends.2) := by
  rw [unregisterManyInCluster]
  split
  · rename_i nothing
    rw [List.isEmpty_iff.mp nothing]
    rfl
  · rw [forgets_inside]

theorem unregisterManyInCluster_eq (locators : Locators) (world : World) (cause : Cause)
    (addresses : List Address) :
    (locators.unregisterManyInCluster world cause addresses).2 =
      ({ locators with foreign := locators.foreign.forgetAll cause addresses },
        world.withCluster (world.cluster.unregisterMany locators.silo addresses 0).2) :=
  congrArg Prod.snd (unregisterManyInCluster_exact locators world cause addresses)

end Many

section Inside

variable {address : Address} {grain : Grain} {result : Except Fault Tagged} {tagged : Tagged}
  {cluster : Cluster}

theorem registered_elapses (named : world.cluster.Named) {silo : Silo} {single : Bool}
    (called : world.cluster.register silo address single 0 = (result, cluster)) :
    world.Elapses (world.withCluster cluster) := by
  have tended := Cluster.register_tended named silo address single 0
  rw [called] at tended
  exact World.tended_elapses named tended

theorem lookedUp_elapses (named : world.cluster.Named) {silo : Silo}
    {result : Except Fault (Option Found)}
    (called : world.cluster.lookup silo grain 0 = (result, cluster)) :
    world.Elapses (world.withCluster cluster) := by
  have tended : world.cluster.Tended (world.cluster.lookup silo grain 0).2 :=
    Cluster.lookup_tended silo grain 0
  rw [called] at tended
  exact World.tended_elapses named tended

theorem unregistered_elapses (named : world.cluster.Named) (silo : Silo)
    (addresses : List Address) :
    world.Elapses (world.withCluster (world.cluster.unregisterMany silo addresses 0).2) :=
  World.tended_elapses named (Cluster.unregisterAll_tended _ world.cluster silo addresses)

theorem registered_grain (named : world.cluster.Named) {silo : Silo}
    (called : world.cluster.register silo address true 0 = (.ok tagged, cluster)) :
    tagged.address.grain = address.grain := by
  have made := Cluster.register_ends named silo address true 0
  rw [called] at made
  cases made with
  | made =>
    rw [Partition.register_answer]
    rfl

def registeredInside (locators : Locators) (world : World) (address : Address) : Option Told :=
  (world.cluster.register locators.silo address true 0).1.toOption.map fun tagged =>
    ⟨world.now, [tagged.address], tagged.version⟩

def locatedInside (locators : Locators) (world : World) (grain : Grain) : Option Told :=
  (world.cluster.lookup locators.silo grain 0).1.toOption.join.map (⟨world.now, ·⟩)

inductive MadeInside (locators : Locators) (world : World) (address : Address) :
    Except Fault Tagged × Locators × World → Prop where
  | failed {fault : Fault} {cluster : Cluster} :
      world.cluster.register locators.silo address true 0 = (.error fault, cluster) →
      MadeInside locators world address (.error fault, locators, world.withCluster cluster)
  | own {tagged : Tagged} {cluster : Cluster} :
      world.cluster.register locators.silo address true 0 = (.ok tagged, cluster) →
      cluster.owns locators.silo address.grain = true →
      MadeInside locators world address (.ok tagged, locators, world.withCluster cluster)
  | foreign {tagged : Tagged} {cluster : Cluster} :
      world.cluster.register locators.silo address true 0 = (.ok tagged, cluster) →
      cluster.owns locators.silo address.grain = false →
      MadeInside locators world address (.ok tagged,
        { locators with foreign := locators.foreign.addTagged world.now address.grain tagged },
        world.withCluster cluster)

theorem registerInCluster_made (locators : Locators) (world : World) (address : Address) :
    locators.MadeInside world address (locators.registerInCluster world address) := by
  rw [registerInCluster]
  cases called : world.cluster.register locators.silo address true 0 with
  | mk result cluster =>
    cases result with
    | error fault => exact .failed called
    | ok tagged =>
      dsimp only
      split
      · rename_i owns
        exact .own called owns
      · rename_i foreign
        exact .foreign called (Bool.not_eq_true _ ▸ foreign)

inductive FoundInside (locators : Locators) (world : World) (grain : Grain) :
    Except Fault (Option Found) × Locators × World → Prop where
  | own {result : Except Fault (Option Found)} {cluster : Cluster} :
      world.cluster.owns locators.silo grain = true →
      world.cluster.lookup locators.silo grain 0 = (result, cluster) →
      FoundInside locators world grain (result, locators, world.withCluster cluster)
  | recalled {found : Found} {foreign : Cache} :
      world.cluster.owns locators.silo grain = false →
      locators.foreign.lookup world.now grain = (some found, foreign) →
      FoundInside locators world grain (.ok (some found), { locators with foreign }, world)
  | missed {result : Except Fault (Option Found)} {foreign : Cache} {cluster : Cluster} :
      world.cluster.owns locators.silo grain = false →
      locators.foreign.lookup world.now grain = (none, foreign) →
      world.cluster.lookup locators.silo grain 0 = (result, cluster) →
      (∀ found, result ≠ .ok (some found)) →
      FoundInside locators world grain
        (result, { locators with foreign }, world.withCluster cluster)
  | found {found : Found} {foreign : Cache} {cluster : Cluster} :
      world.cluster.owns locators.silo grain = false →
      locators.foreign.lookup world.now grain = (none, foreign) →
      world.cluster.lookup locators.silo grain 0 = (.ok (some found), cluster) →
      FoundInside locators world grain (.ok (some found),
        { locators with foreign := foreign.addFound world.now found }, world.withCluster cluster)

theorem lookupInCluster_found (locators : Locators) (world : World) (grain : Grain) :
    locators.FoundInside world grain (locators.lookupInCluster world grain) := by
  rw [lookupInCluster]
  cases called : world.cluster.lookup locators.silo grain 0 with
  | mk result cluster =>
    dsimp only
    split
    · rename_i owns
      exact .own owns called
    · rename_i foreign
      have foreign := Bool.not_eq_true _ ▸ foreign
      cases looked : locators.foreign.lookup world.now grain with
      | mk answer cache =>
        cases answer with
        | some found => exact .recalled foreign looked
        | none =>
          rcases result with fault | ⟨⟩ | found
          · exact .missed foreign looked called nofun
          · exact .missed foreign looked called nofun
          · exact .found foreign looked called

end Inside
end Locators
end ActorDirectory
