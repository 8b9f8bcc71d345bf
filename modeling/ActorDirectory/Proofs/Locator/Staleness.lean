import ActorDirectory.Proofs.Cluster.Removal
import ActorDirectory.Proofs.Locator.Reach

-- How old an answer from a cache can be. Each is one that the directory gave, not longer ago
-- than answers are kept, and nothing has put an end to it since.
namespace ActorDirectory

inductive Note where
  | told (time : Nat) (grain : Grain) (found : Found)
  | withdrawn (cause : Cause) (address : Address)
  | recalled (time : Nat) (grain : Grain) (found : Found)
  deriving DecidableEq

namespace Note

def ends (note : Note) (grain : Grain) (found : Found) : Bool :=
  match note with
  | told _ other _ => other = grain
  | withdrawn cause address => cause.ends address grain found
  | recalled .. => false

def Honest : Note → Prop
  | told _ grain found => ∀ address ∈ found.addresses, address.grain = grain
  | _ => True

end Note

-- An answer that the directory once gave is still the newest for its grain and not given up.
def Stands (log : List Note) (time : Nat) (grain : Grain) (found : Found) : Prop :=
  ∃ earlier later, log = earlier ++ .told time grain found :: later ∧
    ∀ note ∈ later, note.ends grain found = false

section Stands

variable {log notes : List Note} {time : Nat} {grain : Grain} {found : Found}

theorem stands_told : Stands (log ++ [.told time grain found]) time grain found :=
  ⟨log, [], rfl, nofun⟩

theorem stands_append (stands : Stands log time grain found)
    (kept : ∀ note ∈ notes, note.ends grain found = false) :
    Stands (log ++ notes) time grain found := by
  obtain ⟨earlier, later, rfl, clear⟩ := stands
  refine ⟨earlier, later ++ notes, by simp, fun note present => ?_⟩
  rcases List.mem_append.mp present with early | late
  · exact clear note early
  · exact kept note late

theorem noted_where {before rest : List Note} {note : Note}
    (split : log ++ notes = before ++ note :: rest) :
    (∃ more, log = before ++ note :: more) ∨
      ∃ first, before = log ++ first ∧ notes = first ++ note :: rest := by
  rcases List.append_eq_append_iff.mp split with ⟨first, old, new⟩ | ⟨more, old, new⟩
  · exact .inr ⟨first, old, new⟩
  · cases more with
    | nil => exact .inr ⟨[], by simpa using old.symm, new.symm⟩
    | cons other more =>
      obtain ⟨rfl, _⟩ := List.cons.inj new
      exact .inl ⟨more, old⟩

end Stands

namespace Family

def registered (family : Family) (locators : Locators) (world : World) (address : Address) :
    Option Told :=
  match family with
  | inCluster => locators.registeredInside world address
  | external => locators.registeredOutside world address

-- The own partition is asked each time, any other directory only if the cache has no answer.
def located (family : Family) (locators : Locators) (world : World) (grain : Grain) :
    Option Told :=
  if family.isOwn locators world grain ∨
      ((family.cache locators).lookup world.now grain).1 = none then
    match family with
    | inCluster => locators.locatedInside world grain
    | external => locators.locatedOutside world grain
  else none

def tried (family : Family) (locators : Locators) (world : World) (grain : Grain) : Option Told :=
  if family.isOwn locators world grain then
    (world.cluster.localLookup locators.silo grain).map (⟨world.now, ·⟩)
  else none

-- What the own partition tells is not cached. An answer that the directory does not give to this
-- very request comes from the cache.
def exchanged (family : Family) (locators : Locators) (world : World) (grain : Grain)
    (told : Option Told) (answer : Option Found) : List Note :=
  (if family.isOwn locators world grain then []
    else told.toList.map fun told => .told told.time grain told.found) ++
  if answer = told.map (·.found) then [] else answer.toList.map (.recalled world.now grain)

def notes (family : Family) (locators : Locators) (world : World) : Ask → List Note
  | .register address =>
    family.exchanged locators world address.grain (family.registered locators world address) none
  | .lookup grain =>
    family.exchanged locators world grain (family.located locators world grain)
      (family.finder.lookup locators world grain).1.toOption.join
  | .tryLocal grain =>
    family.exchanged locators world grain (family.tried locators world grain)
      (family.finder.tryLocal locators world grain).1
  | .unregister cause address => [.withdrawn cause address]
  | .unregisterMany cause addresses => addresses.map (.withdrawn cause)
  | .invalidate address => [.withdrawn .nonexistent address]
  | .registerMulti _ => []
  | .clear => []

theorem told_found (time : Nat) (answer : Option Found) :
    answer = (answer.map (Told.mk time)).map (·.found) := by
  cases answer <;> rfl

section Exchanged

variable (family : Family) {locators : Locators} {world : World} {grain : Grain} {told : Told}
  {found : Found}

theorem exchanged_nothing : family.exchanged locators world grain none none = [] := by
  simp [exchanged]

theorem exchanged_own (owns : family.isOwn locators world grain = true) {told : Option Told}
    {answer : Option Found} (given : answer = none ∨ answer = told.map (·.found)) :
    family.exchanged locators world grain told answer = [] := by
  rw [exchanged, if_pos owns, List.nil_append]
  rcases given with rfl | same
  · exact ite_self []
  · exact if_pos same

theorem exchanged_recalled : family.exchanged locators world grain none (some found) =
    [.recalled world.now grain found] := by
  simp [exchanged]

theorem exchanged_told (elsewhere : family.isOwn locators world grain = false)
    {answer : Option Found} (given : answer = none ∨ answer = some told.found) :
    family.exchanged locators world grain (some told) answer =
      [.told told.time grain told.found] := by
  rcases given with rfl | rfl <;> simp [exchanged, elsewhere]

end Exchanged
end Family

namespace Cache

variable {before middle after : Cache} {now : Nat} {notes : List Note} {grain other : Grain}
  {found : Found}

-- All that is remembered afterwards was remembered before and is not ended by the notes, or it
-- is what the notes tell.
def Follows (before after : Cache) (now : Nat) (notes : List Note) : Prop :=
  ∀ grain known, after.recalls? grain = some known →
    (before.recalls? grain = some known ∧ ∀ note ∈ notes, note.ends grain known.found = false) ∨
      notes = [.told now grain known.found] ∧ known.since = now

theorem follows_nothing (fades : before.Fades after) : before.Follows after now [] :=
  fun grain known there => .inl ⟨fades grain known there, nofun⟩

theorem follows_recalled (fades : before.Fades after) {time : Nat} :
    before.Follows after now [.recalled time grain found] :=
  fun other known there =>
    .inl ⟨fades other known there, fun _ present => List.mem_singleton.mp present ▸ rfl⟩

theorem follows_told (fades : before.Fades middle) (about : found.About grain) :
    before.Follows (middle.learn now grain found) now [.told now grain found] := by
  intro other known there
  rcases learn_known about there with ⟨rfl, rfl⟩ | ⟨apart, earlier⟩
  · exact .inr ⟨rfl, rfl⟩
  · refine .inl ⟨fades other known earlier, fun note present => ?_⟩
    rw [List.mem_singleton.mp present]
    exact decide_eq_false (Ne.symm apart)

theorem ends_elsewhere {cause : Cause} {address : Address} (elsewhere : address.grain ≠ grain)
    {known : Recollection} (there : before.recalls? grain = some known) :
    cause.ends address grain known.found = false := by
  cases cause with
  | force => exact decide_eq_false elsewhere
  | nonexistent => exact recalls_elsewhere (Ne.symm elsewhere) there

theorem lookup_hit (hit : (before.lookup now grain).1 = some found) :
    ∃ known, before.recalls? grain = some known ∧ known.found = found ∧
      now - known.since < before.ttl := by
  have looks := lookup_looks before now grain
  generalize before.lookup now grain = looked at looks hit
  cases looks with
  | unknown => cases hit
  | stale => cases hit
  | hit there young => exact ⟨_, there, Option.some.inj hit, young⟩

theorem follows_withdrawn {cause : Cause} {served addresses : List Address}
    (others : ∀ address ∈ addresses, address ∈ served ∨ before.recalls? address.grain = none) :
    before.Follows (before.forgetAll cause served) now (addresses.map (.withdrawn cause)) := by
  intro grain known there
  rw [forgetAll_recalls] at there
  obtain ⟨earlier, stands⟩ := Option.filter_eq_some_iff.mp there
  have stands : ∀ address ∈ served, cause.ends address grain known.found = false := by
    simpa using stands
  refine .inl ⟨earlier, fun note present => ?_⟩
  obtain ⟨address, listed, rfl⟩ := List.mem_map.mp present
  rcases others address listed with given | unknown
  · exact stands address given
  · refine ends_elsewhere (fun same => ?_) earlier
    rw [same, earlier] at unknown
    cases unknown

end Cache

theorem Cluster.lookup_about {cluster after : Cluster} {silo : Silo} {grain : Grain}
    {hops : UInt8} {found : Found}
    (asked : cluster.lookup silo grain hops = (.ok (some found), after)) : found.About grain := by
  simp only [lookup] at asked
  split at asked
  · cases asked
  · obtain ⟨node, _, looked⟩ :=
      Option.bind_eq_some_iff.mp (Except.ok.inj (congrArg Prod.fst asked))
    refine ⟨fun nobody => ?_, fun address present => (Partition.lookup_names looked present).2⟩
    obtain ⟨_, someone⟩ := Option.filter_eq_some_iff.mp looked
    simp [nobody] at someone

namespace Family

variable {settings : Settings} {family : Family} {locators : Locators} {world : World}
  {address : Address} {grain : Grain}

def Resolves (family : Family) (locators : Locators) (grain : Grain) : Prop :=
  family = .external → (locators.resolver.resolve grain.kind).1.isSome = true

theorem resolves_inCluster : inCluster.Resolves locators grain := nofun

structure Turns (family : Family) (locators : Locators) (after : Locators × World)
    (notes : List Note) : Prop where
  follows : (family.cache locators).Follows (family.cache after.1) after.2.now notes
  resolves : ∀ time grain found, .told time grain found ∈ notes → family.Resolves locators grain
  recalls : ∀ time grain found, .recalled time grain found ∈ notes →
    notes = [.recalled time grain found] ∧ time = after.2.now ∧
      ((family.cache locators).lookup time grain).1 = some found

theorem turns_nothing {after : Locators × World}
    (fades : (family.cache locators).Fades (family.cache after.1)) :
    family.Turns locators after [] :=
  ⟨Cache.follows_nothing fades, fun _ _ _ => nofun, fun _ _ _ => nofun⟩

theorem turns_recalled {after : Locators × World} {found : Found}
    (hit : ((family.cache locators).lookup after.2.now grain).1 = some found)
    (fades : (family.cache locators).Fades (family.cache after.1)) :
    family.Turns locators after [.recalled after.2.now grain found] := by
  refine ⟨Cache.follows_recalled fades, fun _ _ _ told => (nomatch List.mem_singleton.mp told),
    fun time other answer recalled => ?_⟩
  cases List.mem_singleton.mp recalled
  exact ⟨rfl, rfl, hit⟩

theorem turns_told (family : Family) {after : Locators × World} (middle : Cache) {found : Found}
    (fades : (family.cache locators).Fades middle) (about : found.About grain)
    (resolves : family.Resolves locators grain)
    (learnt : family.cache after.1 = middle.learn after.2.now grain found) :
    family.Turns locators after [.told after.2.now grain found] := by
  refine ⟨learnt ▸ Cache.follows_told fades about, fun time other answer told => ?_,
    fun _ _ _ recalled => nomatch List.mem_singleton.mp recalled⟩
  cases List.mem_singleton.mp told
  exact resolves

section Answers

variable {result : Except Fault Tagged × Locators × World}
  {answer : Except Fault (Option Found) × Locators × World}

theorem madeInside_turns (named : world.cluster.Named)
    (made : locators.MadeInside world address result) :
    inCluster.Turns locators result.2 (inCluster.exchanged locators world address.grain
      (inCluster.registered locators world address) none) := by
  have tended := Cluster.register_tended named locators.silo address true 0
  cases made with
  | failed called =>
    have nothing : inCluster.registered locators world address = none := by
      simp [registered, Locators.registeredInside, called, Except.toOption]
    rw [nothing, exchanged_nothing]
    exact turns_nothing (Cache.fades_refl _)
  | own called owns =>
    rw [called] at tended
    have owns : inCluster.isOwn locators world address.grain = true := by
      rwa [isOwn, Cluster.owns, ← Cluster.tended_owner tended]
    rw [exchanged_own _ owns (.inl rfl)]
    exact turns_nothing (Cache.fades_refl _)
  | @foreign tagged _ called elsewhere =>
    rw [called] at tended
    have elsewhere : inCluster.isOwn locators world address.grain = false := by
      rwa [isOwn, Cluster.owns, ← Cluster.tended_owner tended]
    have told : inCluster.registered locators world address =
        some ⟨world.now, [tagged.address], tagged.version⟩ := by
      simp [registered, Locators.registeredInside, called, Except.toOption]
    rw [told, exchanged_told _ elsewhere (.inl rfl)]
    exact turns_told .inCluster locators.foreign (Cache.fades_refl _)
      (Found.about_tagged (Locators.registered_grain named called)) resolves_inCluster
      (Cache.addTagged_learn ..)

theorem madeOutside_turns (made : locators.MadeOutside world address result)
    (honest : ∀ note ∈ external.exchanged locators world address.grain
      (external.registered locators world address) none, note.Honest) :
    external.Turns locators result.2 (external.exchanged locators world address.grain
      (external.registered locators world address) none) := by
  cases made with
  | failed _ silent =>
    have nothing : external.registered locators world address = none := silent
    rw [nothing, exchanged_nothing]
    exact turns_nothing (Cache.fades_refl _)
  | @made _ _ _ tagged after known _ _ _ _ tells =>
    have told : external.registered locators world address =
        some ⟨after.now, [tagged.address], tagged.version⟩ := tells
    rw [told, exchanged_told .external rfl (.inl rfl)] at honest ⊢
    have same : tagged.address.grain = address.grain :=
      honest _ (List.mem_singleton_self _) _ (List.mem_singleton_self _)
    exact turns_told .external locators.external (Cache.fades_refl _)
      (Found.about_tagged same) (fun _ => Option.isSome_iff_exists.mpr ⟨_, known⟩)
      (congrArg (locators.external.addTagged after.now · tagged) same)

theorem located_hit (family : Family) {found : Found}
    (elsewhere : family.isOwn locators world grain = false)
    (hit : ((family.cache locators).lookup world.now grain).1 = some found) :
    family.located locators world grain = none := by
  refine if_neg fun either => ?_
  rcases either with owns | miss
  · exact Bool.false_ne_true (elsewhere.symm.trans owns)
  · cases miss.symm.trans hit

theorem locatedInside_told {found : Found} {cluster : Cluster}
    (called : world.cluster.lookup locators.silo grain 0 = (.ok (some found), cluster)) :
    locators.locatedInside world grain = some ⟨world.now, found⟩ := by
  simp [Locators.locatedInside, called, Except.toOption]

theorem answer_some (found : Found) :
    (.ok (some found) : Except Fault (Option Found)).toOption.join = some found := rfl

theorem answer_none {result : Except Fault (Option Found)}
    (nothing : ∀ found, result ≠ .ok (some found)) : result.toOption.join = none := by
  rcases result with _ | _ | found
  · rfl
  · rfl
  · exact absurd rfl (nothing found)

theorem foundInside_turns (answered : locators.FoundInside world grain answer) :
    inCluster.Turns locators answer.2 (inCluster.exchanged locators world grain
      (inCluster.located locators world grain) answer.1.toOption.join) := by
  have fades : (inCluster.cache locators).Fades (locators.foreign.lookup world.now grain).2 :=
    Cache.lookup_fades locators.foreign world.now grain
  cases answered with
  | @own result _ owns called =>
    have told : inCluster.located locators world grain =
        result.toOption.join.map (⟨world.now, ·⟩) := by
      rw [located, if_pos (.inl owns), Locators.locatedInside, called]
    rw [told, exchanged_own .inCluster owns (.inr (told_found _ _))]
    exact turns_nothing (Cache.fades_refl _)
  | recalled elsewhere recalled =>
    have hit := congrArg Prod.fst recalled
    rw [recalled] at fades
    rw [located_hit .inCluster elsewhere hit, answer_some, exchanged_recalled]
    exact turns_recalled hit fades
  | missed elsewhere missed called nothing =>
    have silent : inCluster.located locators world grain = none := by
      rw [located, if_pos (.inr (congrArg Prod.fst missed)), Locators.locatedInside, called,
        answer_none nothing]
      rfl
    rw [silent, answer_none nothing, exchanged_nothing]
    rw [missed] at fades
    exact turns_nothing fades
  | @found found _ _ elsewhere missed called =>
    have told : inCluster.located locators world grain = some ⟨world.now, found⟩ := by
      rw [located, if_pos (.inr (congrArg Prod.fst missed)), locatedInside_told called]
    rw [told, answer_some, exchanged_told .inCluster elsewhere (.inr rfl)]
    rw [missed] at fades
    have about := Cluster.lookup_about called
    exact turns_told _ _ fades about resolves_inCluster (Cache.addFound_learn about)

theorem foundOutside_turns (answered : locators.FoundOutside world grain answer)
    (honest : ∀ note ∈ external.exchanged locators world grain
      (external.located locators world grain) answer.1.toOption.join, note.Honest) :
    external.Turns locators answer.2 (external.exchanged locators world grain
      (external.located locators world grain) answer.1.toOption.join) := by
  have fades : (external.cache locators).Fades (locators.external.lookup world.now grain).2 :=
    Cache.lookup_fades locators.external world.now grain
  cases answered with
  | recalled recalled =>
    have hit := congrArg Prod.fst recalled
    rw [recalled] at fades
    rw [located_hit .external rfl hit, answer_some, exchanged_recalled]
    exact turns_recalled hit fades
  | missed missed nothing _ silent =>
    have silent : external.located locators world grain = none :=
      (if_pos (.inr (congrArg Prod.fst missed))).trans silent
    rw [silent, answer_none nothing, exchanged_nothing]
    rw [missed] at fades
    exact turns_nothing fades
  | @found _ found _ after missed known someone _ tells =>
    have told : external.located locators world grain = some ⟨after.now, found⟩ :=
      (if_pos (.inr (congrArg Prod.fst missed))).trans tells
    rw [told, answer_some, exchanged_told .external rfl (.inr rfl)] at honest ⊢
    rw [missed] at fades
    have about := And.intro someone (honest _ (List.mem_singleton_self _))
    exact turns_told _ _ fades about (fun _ => Option.isSome_iff_exists.mpr ⟨_, known⟩)
      (Cache.addFound_learn about)

end Answers

theorem turns_withdrawn (family : Family) {after : Locators × World} (cause : Cause)
    (served addresses : List Address)
    (forgot : family.cache after.1 = (family.cache locators).forgetAll cause served)
    (others : ∀ address ∈ addresses,
      address ∈ served ∨ (family.cache locators).recalls? address.grain = none) :
    family.Turns locators after (addresses.map (.withdrawn cause)) := by
  refine ⟨forgot ▸ Cache.follows_withdrawn others, fun time grain found told => ?_,
    fun time grain found recalled => ?_⟩
  · obtain ⟨_, _, other⟩ := List.mem_map.mp told
    cases other
  · obtain ⟨_, _, other⟩ := List.mem_map.mp recalled
    cases other

theorem turns_looked (family : Family) {after : Locators}
    (elsewhere : family.isOwn locators world grain = false)
    (kept : family.cache after = ((family.cache locators).lookup world.now grain).2) :
    family.Turns locators (after, world) (family.exchanged locators world grain
      (family.tried locators world grain)
      ((family.cache locators).lookup world.now grain).1) := by
  have fades : (family.cache locators).Fades (family.cache after) :=
    kept ▸ Cache.lookup_fades (family.cache locators) world.now grain
  have silent : family.tried locators world grain = none := by
    rw [tried, elsewhere]
    rfl
  rw [silent]
  cases hit : ((family.cache locators).lookup world.now grain).1 with
  | none =>
    rw [exchanged_nothing]
    exact turns_nothing fades
  | some found =>
    rw [exchanged_recalled]
    exact turns_recalled hit fades

theorem turns_tried (family : Family) (locators : Locators) (world : World) (grain : Grain) :
    family.Turns locators ((family.finder.tryLocal locators world grain).2, world)
      (family.exchanged locators world grain (family.tried locators world grain)
        (family.finder.tryLocal locators world grain).1) := by
  cases family with
  | external => exact turns_looked .external rfl rfl
  | inCluster =>
    simp only [finder, Finder.inCluster, Locators.tryInCluster]
    split
    · rename_i owns
      have told : inCluster.tried locators world grain =
          (world.cluster.localLookup locators.silo grain).map (⟨world.now, ·⟩) := if_pos owns
      rw [told, exchanged_own .inCluster owns (.inr (told_found _ _))]
      exact turns_nothing (Cache.fades_refl _)
    · rename_i elsewhere
      exact turns_looked .inCluster (Bool.not_eq_true _ ▸ elsewhere) rfl

def Served (family : Family) (locators : Locators) : Prop :=
  ∀ grain known, (family.cache locators).recalls? grain = some known →
    family.Resolves locators grain

theorem unserved_unknown (served : external.Served locators)
    (unresolved : (locators.resolver.resolve grain.kind).1 = none) :
    locators.external.recalls? grain = none := by
  refine Option.eq_none_iff_forall_ne_some.mpr fun known there => ?_
  have resolves := served grain known there rfl
  rw [unresolved] at resolves
  cases resolves

theorem unregister_turns (ready : locators.Ready settings world) (served : family.Served locators)
    (cause : Cause) (address : Address) :
    family.Turns locators (family.finder.unregister locators world cause address).2
      [.withdrawn cause address] := by
  cases family with
  | inCluster =>
    exact turns_withdrawn .inCluster cause [address] [address] rfl
      fun _ => .inl
  | external =>
    have givenUp := Locators.unregisterExternal_givenUp ready.named locators cause address
    have result : external.finder.unregister locators world cause address =
      locators.unregisterExternal world cause address := rfl
    rw [result]
    generalize locators.unregisterExternal world cause address = ended at givenUp ⊢
    cases givenUp with
    | refused absent =>
      refine turns_withdrawn .external cause [] [address] rfl
        fun _ listed => .inr ?_
      cases List.mem_singleton.mp listed
      refine unserved_unknown served (Option.eq_none_iff_forall_ne_some.mpr fun name resolved => ?_)
      have known := ready.known _ name resolved
      rw [absent name resolved] at known
      cases known
    | attempted =>
      exact turns_withdrawn .external cause [address] [address] rfl fun _ => .inl

theorem unregisterMany_turns (ready : locators.Ready settings world)
    (served : family.Served locators) (cause : Cause) (addresses : List Address) :
    family.Turns locators (family.finder.unregisterMany locators world cause addresses).2
      (addresses.map (.withdrawn cause)) := by
  cases family with
  | inCluster =>
    refine turns_withdrawn .inCluster cause addresses addresses ?_ fun _ => .inl
    rw [finder, Finder.inCluster, Locators.unregisterManyInCluster_eq]
    rfl
  | external =>
    obtain ⟨resolver, stores, waited, ended, _, _⟩ :=
      Locators.unregisterManyExternal_eq ready.named locators cause addresses
    refine turns_withdrawn .external cause (locators.outside addresses) addresses ?_
      fun address listed => ?_
    · rw [finder, Finder.external, ended]
      rfl
    · cases resolved : (locators.resolver.resolve address.grain.kind).1 with
      | none => exact .inr (unserved_unknown served resolved)
      | some name => exact .inl (List.mem_filter.mpr ⟨listed, by rw [resolved]; rfl⟩)

theorem serve_turns (ready : locators.Ready settings world) (served : family.Served locators)
    (ask : Ask) (honest : family = .external →
      ∀ note ∈ family.notes locators world ask, note.Honest) :
    family.Turns locators (family.finder.serve locators world ask)
      (family.notes locators world ask) := by
  cases ask with
  | registerMulti => exact turns_nothing (Cache.fades_refl _)
  | clear =>
    refine turns_nothing fun grain known there => ?_
    cases family <;> cases there
  | tryLocal grain => exact turns_tried family locators world grain
  | unregister cause address => exact unregister_turns ready served cause address
  | unregisterMany cause addresses => exact unregisterMany_turns ready served cause addresses
  | register address =>
    cases family with
    | inCluster =>
      exact madeInside_turns ready.named (Locators.registerInCluster_made locators world address)
    | external =>
      exact madeOutside_turns (Locators.registerExternal_made ready.named locators address)
        (honest rfl)
  | lookup grain =>
    cases family with
    | inCluster => exact foundInside_turns (Locators.lookupInCluster_found locators world grain)
    | external =>
      exact foundOutside_turns (Locators.lookupExternal_found ready.named locators grain)
        (honest rfl)
  | invalidate address =>
    refine turns_withdrawn family .nonexistent [address] [address] ?_ fun _ => .inl
    cases family <;> rfl

-- How one locator is used: requests to it, with what is noted of them, and in between whatever
-- others do. External directories tell of the grains that they are asked for.
inductive Course (settings : Settings) (family : Family) : Locators → World → List Note → Prop where
  | opened {world : World} (silo : Silo) (resolver : Resolver String) : world.cluster.Named →
      resolver.remembered = .empty →
      (∀ key name, resolver.directories.get? key = some name → (world.stores.get? name).isSome) →
      Course settings family (.ofSettings settings silo resolver) world []
  | called {locators : Locators} {world : World} {log : List Note} (ask : Ask) :
      Course settings family locators world log →
      (family = .external → ∀ note ∈ family.notes locators world ask, note.Honest) →
      Course settings family (family.finder.serve locators world ask).1
        (family.finder.serve locators world ask).2 (log ++ family.notes locators world ask)
  | elapsed {locators : Locators} {world after : World} {log : List Note} :
      Course settings family locators world log → world.Elapses after →
      Course settings family locators after log

def Backed (settings : Settings) (log : List Note) : Prop :=
  ∀ before time grain found after, log = before ++ .recalled time grain found :: after →
    ∃ told, Stands before told grain found ∧ told ≤ time ∧ time - told < settings.cacheTtl

structure Upholds (settings : Settings) (family : Family) (locators : Locators) (world : World)
    (log : List Note) : Prop where
  ready : locators.Ready settings world
  served : family.Served locators
  stands : ∀ grain known, (family.cache locators).recalls? grain = some known →
    Stands log known.since grain known.found ∧ known.since ≤ world.now
  backed : Backed settings log

theorem cache_tidy (ready : locators.Ready settings world) (family : Family) :
    (family.cache locators).Tidy settings.cacheSize settings.cacheTtl := by
  cases family with
  | inCluster => exact ready.foreign
  | external => exact ready.external

variable {log notes : List Note} {after : Locators} {later : World}

theorem turns_backed (upholds : Upholds settings family locators world log)
    (elapses : world.Elapses later) (turns : family.Turns locators (after, later) notes) :
    Backed settings (log ++ notes) := by
  intro before time grain found rest split
  rcases noted_where split with ⟨more, old⟩ | ⟨first, rfl, noted⟩
  · exact upholds.backed before time grain found more old
  · have recalled : .recalled time grain found ∈ notes :=
      noted ▸ List.mem_append_right _ (List.mem_cons_self ..)
    obtain ⟨alone, now, hit⟩ := turns.recalls time grain found recalled
    obtain ⟨known, there, rfl, young⟩ := Cache.lookup_hit hit
    obtain ⟨stands, past⟩ := upholds.stands grain known there
    have nothing : first = [] := by
      have lengths := congrArg List.length (alone.symm.trans noted)
      simp only [List.length_append, List.length_cons, List.length_nil] at lengths
      exact List.length_eq_zero_iff.mp (by omega)
    rw [(cache_tidy upholds.ready family).ttl] at young
    rw [nothing, List.append_nil]
    exact ⟨known.since, stands, Nat.le_trans past (now ▸ elapses.later), young⟩

theorem turns_upholds (upholds : Upholds settings family locators world log)
    (continues : locators.Continues settings world after later)
    (turns : family.Turns locators (after, later) notes) :
    Upholds settings family after later (log ++ notes) := by
  have ready := Locators.ready_continues upholds.ready continues
  refine ⟨ready, fun grain known there => ?_, fun grain known there => ?_,
    turns_backed upholds continues.elapses turns⟩
  · intro outside
    rw [continues.alike.2]
    rcases turns.follows grain known there with ⟨earlier, _⟩ | ⟨told, _⟩
    · exact upholds.served grain known earlier outside
    · exact turns.resolves _ grain known.found (told ▸ List.mem_singleton_self _) outside
  · rcases turns.follows grain known there with ⟨earlier, kept⟩ | ⟨told, since⟩
    · obtain ⟨stands, past⟩ := upholds.stands grain known earlier
      exact ⟨stands_append stands kept, Nat.le_trans past continues.elapses.later⟩
    · rw [told, since]
      exact ⟨stands_told, Nat.le_refl _⟩

theorem course_upholds (course : Course settings family locators world log) :
    Upholds settings family locators world log := by
  induction course with
  | opened silo resolver named fresh stored =>
    have reached : (Locators.ofSettings settings silo resolver).Reached settings _ :=
      .opened silo resolver named fresh stored
    have nothing : ∀ grain,
        (family.cache (.ofSettings settings silo resolver)).recalls? grain = none := by
      cases family <;> exact fun _ => rfl
    refine ⟨Locators.reached_ready reached, fun grain known there => ?_,
      fun grain known there => ?_, fun before _ _ _ _ same => ?_⟩
    · rw [nothing] at there
      cases there
    · rw [nothing] at there
      cases there
    · cases before <;> cases same
  | called ask _ honest upholds =>
    exact turns_upholds upholds (serve_continues upholds.ready family ask)
      (serve_turns upholds.ready upholds.served ask honest)
  | elapsed _ elapses upholds =>
    exact ⟨Locators.ready_elapses upholds.ready elapses, upholds.served,
      fun grain known there => (upholds.stands grain known there).imp_right
        (Nat.le_trans · elapses.later), upholds.backed⟩

-- Each answer from the cache is one that the directory gave less than the time ago that answers
-- are kept. Since then its grain was not forced to be given up, none of its activations was given
-- up as nonexistent, and nothing newer was learnt of its grain.
theorem recalled_answers_stand (course : Course settings family locators world log)
    {before rest : List Note} {time : Nat} {found : Found}
    (split : log = before ++ .recalled time grain found :: rest) :
    ∃ told, Stands before told grain found ∧ told ≤ time ∧ time - told < settings.cacheTtl :=
  (course_upholds course).backed before time grain found rest split

end Family

namespace Duo

def asking : Locators := .ofSettings settings first .inClusterOnly

def answering : World := opened (listed 1 .joining .active) second

def asked : Locators × World := Family.inCluster.finder.serve asking answering (.lookup grain)

def afterwards : World := asked.2.act (.pass 7)

def told : Found := ⟨[runningOn second], ⟨1⟩⟩

theorem answering_named : answering.cluster.Named :=
  World.play_named (World.empty_sound Xxh3.hashText (by decide)).named _

theorem asked_told : Family.inCluster.notes asking answering (.lookup grain) =
    [.told 0 grain told] := by
  decide +kernel

theorem afterwards_recalled : Family.inCluster.notes asked.1 afterwards (.tryLocal grain) =
    [.recalled 7 grain told] := by
  decide +kernel

theorem asked_course : Family.Course settings .inCluster asked.1 asked.2 [.told 0 grain told] := by
  have opened : Family.Course settings .inCluster asking answering [] :=
    .opened first .inClusterOnly answering_named rfl fun _ _ found => nomatch found
  have course := opened.called (.lookup grain) nofun
  rw [List.nil_append] at course
  exact asked_told ▸ course

theorem afterwards_course : Family.Course settings .inCluster asked.1 afterwards
    [.told 0 grain told] := by
  have named := (Family.course_upholds asked_course).ready.named
  have early : asked.2.now ≤ 7 := by decide +kernel
  refine .elapsed asked_course (World.act_elapses named fun time same => ?_)
  cases same
  exact early

theorem afterwards_backed : ∃ since, Stands [.told 0 grain told] since grain told ∧ since ≤ 7 ∧
    7 - since < settings.cacheTtl := by
  have course := afterwards_course.called (.tryLocal grain) nofun
  rw [afterwards_recalled] at course
  exact Family.recalled_answers_stand course rfl

end Duo
end ActorDirectory
