import ActorDirectory.Locator.InCluster
import Mathlib.Data.List.Nodup

-- What a cache remembers: of each grain one answer and the time when it was learnt. That an
-- answer is used changes nothing of it, only which one has to go first.
namespace ActorDirectory

structure Recollection where
  found : Found
  since : Nat

namespace Cached

def recollection (item : Cached) (grain : Grain) : Recollection :=
  ⟨⟨item.instances.map (·.address grain), item.version⟩, item.inserted⟩

end Cached

namespace Cause

def ends (cause : Cause) (address : Address) (grain : Grain) (found : Found) : Bool :=
  match cause with
  | .force => address.grain = grain
  | .nonexistent => found.addresses.any (·.sameInstance address)

end Cause

namespace Cache

variable {cache before middle after : Cache} {grain other : Grain} {known : Recollection}
  {now : Nat}

def recalls? (cache : Cache) (grain : Grain) : Option Recollection :=
  (cache.cached.get? grain).map (·.recollection grain)

def Fades (before after : Cache) : Prop :=
  ∀ grain known, after.recalls? grain = some known → before.recalls? grain = some known

theorem fades_refl (cache : Cache) : cache.Fades cache := fun _ _ => id

theorem fades_trans (one : before.Fades middle) (two : middle.Fades after) : before.Fades after :=
  fun grain known there => one grain known (two grain known there)

@[simp] theorem touch_recalls (cache : Cache) (grain : Grain) :
    (cache.touch grain).recalls? = cache.recalls? := by
  funext other
  rw [touch]
  cases found : cache.cached.get? grain with
  | none => rfl
  | some item =>
    by_cases same : other = grain
    · subst same
      simp [recalls?, found, Cached.recollection]
    · simp [recalls?, same]

theorem remove_recalls (cache : Cache) (grain other : Grain) :
    (cache.remove grain).2.recalls? other =
      if other = grain then none else cache.recalls? other := by
  rw [remove]
  cases found : cache.cached.get? grain with
  | none =>
    by_cases same : other = grain
    · simp [recalls?, same, found]
    · simp [same]
  | some item =>
    by_cases same : other = grain
    · simp [recalls?, same]
    · simp [recalls?, same]

theorem remove_fades (cache : Cache) (grain : Grain) : cache.Fades (cache.remove grain).2 := by
  intro other known there
  rw [remove_recalls] at there
  split at there
  · cases there
  · exact there

theorem evictOldest_fades (cache : Cache) : cache.Fades cache.evictOldest := by
  rw [evictOldest]
  split
  · exact fades_refl cache
  · intro other known there
    simp only [recalls?, Keyed.get?_erase] at there
    split at there
    · cases there
    · exact there

theorem repeat_fades (count : Nat) (cache : Cache) :
    cache.Fades (count.repeat evictOldest cache) := by
  induction count with
  | zero => exact fades_refl cache
  | succ count ih => exact fades_trans ih (evictOldest_fades _)

theorem evict_fades (cache : Cache) : cache.Fades cache.evict := repeat_fades _ cache

def inserting (cache : Cache) (now : Nat) (grain : Grain) (instances : List Instance)
    (version : Version) : Cache :=
  let removed := (cache.remove grain).2
  touch { removed with cached := removed.cached.put grain ⟨instances, version, now, 0⟩ } grain

theorem add_eq (cache : Cache) (now : Nat) (grain : Grain) (instances : List Instance)
    (version : Version) :
    cache.add now grain instances version = (cache.inserting now grain instances version).evict :=
  rfl

theorem inserting_recalls (cache : Cache) (now : Nat) (grain : Grain)
    (instances : List Instance) (version : Version) (other : Grain) :
    (cache.inserting now grain instances version).recalls? other =
      if other = grain then some ⟨⟨instances.map (·.address grain), version⟩, now⟩
      else cache.recalls? other := by
  have removed := remove_recalls cache grain other
  rw [inserting, touch_recalls]
  by_cases same : other = grain
  · simp [recalls?, same, Cached.recollection]
  · simpa [recalls?, same] using removed

-- A hit leaves all that is remembered as it is; an answer that is too old is forgotten.
inductive Looks (cache : Cache) (now : Nat) (grain : Grain) : Option Found × Cache → Prop where
  | unknown : cache.recalls? grain = none → Looks cache now grain (none, cache)
  | stale {known : Recollection} : cache.recalls? grain = some known →
      cache.ttl ≤ now - known.since → Looks cache now grain (none, (cache.remove grain).2)
  | hit {known : Recollection} : cache.recalls? grain = some known →
      now - known.since < cache.ttl → Looks cache now grain (some known.found, cache.touch grain)

theorem lookup_looks (cache : Cache) (now : Nat) (grain : Grain) :
    cache.Looks now grain (cache.lookup now grain) := by
  rw [lookup]
  cases found : cache.cached.get? grain with
  | none => exact .unknown (by simp [recalls?, found])
  | some item =>
    have known : cache.recalls? grain = some (item.recollection grain) := by
      simp [recalls?, found]
    by_cases old : cache.ttl ≤ now - item.inserted
    · simp only [if_pos old]
      exact .stale known old
    · simp only [if_neg old]
      exact .hit known (Nat.not_le.mp old)

theorem lookup_fades (cache : Cache) (now : Nat) (grain : Grain) :
    cache.Fades (cache.lookup now grain).2 := by
  have looks := lookup_looks cache now grain
  generalize cache.lookup now grain = looked at looks ⊢
  cases looks with
  | unknown => exact fades_refl cache
  | stale => exact remove_fades cache grain
  | hit =>
    intro other known there
    rwa [touch_recalls] at there

theorem recollection_ends (item : Cached) (address : Address) (grain : Grain) :
    Cause.nonexistent.ends address grain (item.recollection grain).found =
      (decide (grain = address.grain) &&
        item.instances.any (·.activation = address.activation)) := by
  by_cases same : grain = address.grain
  · simp [Cause.ends, Cached.recollection, Address.sameInstance, Instance.address, same,
      Function.comp_def]
  · simp [Cause.ends, Cached.recollection, Address.sameInstance, Instance.address, same]

theorem recalls_elsewhere {address : Address} (elsewhere : grain ≠ address.grain)
    (there : cache.recalls? grain = some known) :
    Cause.nonexistent.ends address grain known.found = false := by
  obtain ⟨item, _, rfl⟩ := Option.map_eq_some_iff.mp there
  simp [recollection_ends, elsewhere]

theorem invalidate_eq (cache : Cache) (address : Address) :
    (cache.invalidate address).2 =
      if (cache.recalls? address.grain).any fun known =>
        Cause.nonexistent.ends address address.grain known.found
      then (cache.remove address.grain).2 else cache := by
  rw [invalidate, recalls?]
  cases cache.cached.get? address.grain with
  | none => rfl
  | some item =>
    simp only [Option.map_some, Option.any_some, recollection_ends, decide_true, Bool.true_and]
    split <;> rfl

theorem forget_recalls (cache : Cache) (cause : Cause) (address : Address) (grain : Grain) :
    (cache.forget cause address).recalls? grain =
      (cache.recalls? grain).filter fun known => !cause.ends address grain known.found := by
  cases known : cache.recalls? grain with
  | none =>
    cases cause with
    | force => simp [forget, remove_recalls, known]
    | nonexistent =>
      rw [forget, invalidate_eq]
      split
      · simp [remove_recalls, known]
      · simp [known]
  | some item =>
    rw [Option.filter_some]
    cases cause with
    | force =>
      by_cases same : grain = address.grain
      · simp [forget, remove_recalls, Cause.ends, same]
      · simp [forget, remove_recalls, Cause.ends, same, Ne.symm same, known]
    | nonexistent =>
      rw [forget, invalidate_eq]
      by_cases same : grain = address.grain
      · subst same
        cases ends : Cause.nonexistent.ends address address.grain item.found <;>
          simp [known, ends, remove_recalls]
      · rw [recalls_elsewhere same known]
        split
        · simp [remove_recalls, same, known]
        · simp [known]

def forgetAll (cache : Cache) (cause : Cause) (addresses : List Address) : Cache :=
  addresses.foldl (·.forget cause ·) cache

theorem forgetAll_recalls (cache : Cache) (cause : Cause) (addresses : List Address)
    (grain : Grain) : (cache.forgetAll cause addresses).recalls? grain =
      (cache.recalls? grain).filter fun known =>
        !addresses.any (cause.ends · grain known.found) := by
  induction addresses generalizing cache with
  | nil => cases known : cache.recalls? grain <;> simp [forgetAll, known, Option.filter_some]
  | cons address rest ih =>
    refine (ih (cache.forget cause address)).trans ?_
    rw [forget_recalls]
    cases cache.recalls? grain with
    | none => rfl
    | some known =>
      cases ended : cause.ends address grain known.found <;> simp [Option.filter_some, ended]

-- The index lists each use of a cached grain that was its last, in the order of the uses. Only
-- then the grain that goes first is the one that was used longest ago.
structure Tidy (capacity ttl : Nat) (cache : Cache) : Prop where
  capacity : cache.capacity = capacity
  ttl : cache.ttl = ttl
  listed : ∀ use grain, (use, grain) ∈ cache.recency ↔
    ∃ item, cache.cached.get? grain = some item ∧ item.lastUse = use
  rising : cache.recency.Pairwise fun earlier later => earlier.1 < later.1
  numbered : ∀ pair ∈ cache.recency, 0 < pair.1 ∧ pair.1 ≤ cache.uses

variable {capacity ttl use : Nat} {instances : List Instance} {version : Version}

theorem empty_tidy (capacity ttl : Nat) : (Cache.empty capacity ttl).Tidy capacity ttl :=
  ⟨rfl, rfl, fun _ _ => ⟨nofun, nofun⟩, .nil, nofun⟩

theorem clear_tidy (tidy : cache.Tidy capacity ttl) : cache.clear.Tidy capacity ttl :=
  ⟨tidy.capacity, tidy.ttl, fun _ _ => ⟨nofun, nofun⟩, .nil, nofun⟩

theorem tidy_use (tidy : cache.Tidy capacity ttl) (one : (use, grain) ∈ cache.recency)
    (two : (use, other) ∈ cache.recency) : grain = other := by
  have distinct : (cache.recency.map Prod.fst).Nodup :=
    List.pairwise_map.mpr (tidy.rising.imp fun less => Nat.ne_of_lt less)
  exact (Prod.mk.inj (List.inj_on_of_nodup_map distinct one two rfl)).2

theorem tidy_grain {later : Nat} (tidy : cache.Tidy capacity ttl)
    (one : (use, grain) ∈ cache.recency) (two : (later, grain) ∈ cache.recency) :
    use = later := by
  obtain ⟨item, found, rfl⟩ := (tidy.listed use grain).mp one
  obtain ⟨same, again, rfl⟩ := (tidy.listed later grain).mp two
  rw [Option.some.inj (found.symm.trans again)]

theorem remove_tidy (tidy : cache.Tidy capacity ttl) (grain : Grain) :
    (cache.remove grain).2.Tidy capacity ttl := by
  rw [remove]
  split
  · exact tidy
  · rename_i item found
    have own : (item.lastUse, grain) ∈ cache.recency := (tidy.listed _ _).mpr ⟨item, found, rfl⟩
    refine ⟨tidy.capacity, tidy.ttl, fun use other => ?_, tidy.rising.filter _,
      fun pair there => tidy.numbered pair (List.mem_of_mem_filter there)⟩
    simp only [List.mem_filter, decide_eq_true_eq, Keyed.get?_erase]
    constructor
    · rintro ⟨there, later⟩
      have apart : other ≠ grain := fun same => later (tidy_grain tidy (same ▸ there) own)
      simpa [apart] using (tidy.listed use other).mp there
    · rintro ⟨kept, there, last⟩
      split at there
      · cases there
      · rename_i apart
        have there := (tidy.listed use other).mpr ⟨kept, there, last⟩
        exact ⟨there, fun same => apart (tidy_use tidy (same ▸ there) own)⟩

theorem remove_absent (tidy : cache.Tidy capacity ttl) (grain : Grain) :
    ∀ pair ∈ (cache.remove grain).2.recency, pair.2 ≠ grain := by
  rintro ⟨use, other⟩ there rfl
  obtain ⟨item, found, _⟩ := ((remove_tidy tidy other).listed use other).mp there
  have gone := remove_recalls cache other other
  rw [if_pos rfl, recalls?, found] at gone
  cases gone

theorem entered_tidy (tidy : cache.Tidy capacity ttl)
    (absent : ∀ pair ∈ cache.recency, pair.2 ≠ grain) (item : Cached)
    {cached : Keyed Grain Cached} (latest : item.lastUse = cache.uses + 1)
    (entered : ∀ other, cached.get? other =
      if other = grain then some item else cache.cached.get? other) :
    Tidy capacity ttl { cache with
      cached
      recency := cache.recency ++ [(cache.uses + 1, grain)]
      uses := cache.uses + 1 } := by
  refine ⟨tidy.capacity, tidy.ttl, fun use other => ?_, ?_, fun pair there => ?_⟩
  · simp only [List.mem_append, List.mem_singleton, Prod.mk.injEq, entered]
    by_cases same : other = grain
    · subst same
      simp only [↓reduceIte, and_true, Option.some.injEq, exists_eq_left', latest]
      refine ⟨fun either => ?_, fun last => .inr last.symm⟩
      rcases either with there | last
      · exact absurd rfl (absent _ there)
      · exact last.symm
    · simp only [same, and_false, or_false, ↓reduceIte]
      exact tidy.listed use other
  · refine List.pairwise_append.mpr ⟨tidy.rising, List.pairwise_singleton .., ?_⟩
    intro pair there last added
    rw [List.mem_singleton.mp added]
    exact Nat.lt_succ_of_le (tidy.numbered pair there).2
  · rcases List.mem_append.mp there with there | added
    · exact ⟨(tidy.numbered pair there).1, Nat.le_succ_of_le (tidy.numbered pair there).2⟩
    · rw [List.mem_singleton.mp added]
      exact ⟨Nat.succ_pos _, Nat.le_refl _⟩

theorem touch_tidy (tidy : cache.Tidy capacity ttl) (grain : Grain) :
    (cache.touch grain).Tidy capacity ttl := by
  have removed := remove_tidy tidy grain
  have absent := remove_absent tidy grain
  rw [touch]
  cases found : cache.cached.get? grain with
  | none =>
    exact ⟨tidy.capacity, tidy.ttl, tidy.listed, tidy.rising,
      fun pair there => ⟨(tidy.numbered pair there).1,
        Nat.le_succ_of_le (tidy.numbered pair there).2⟩⟩
  | some item =>
    simp only [remove, found] at removed absent
    refine entered_tidy removed absent { item with lastUse := cache.uses + 1 } rfl
      fun other => ?_
    by_cases same : other = grain <;> simp [same]

theorem inserting_eq (tidy : cache.Tidy capacity ttl) (now : Nat) (grain : Grain)
    (instances : List Instance) (version : Version) :
    let removed := (cache.remove grain).2
    cache.inserting now grain instances version = { removed with
      cached := (removed.cached.put grain ⟨instances, version, now, 0⟩).put grain
        ⟨instances, version, now, removed.uses + 1⟩
      recency := removed.recency ++ [(removed.uses + 1, grain)]
      uses := removed.uses + 1 } := by
  have numbered := (remove_tidy tidy grain).numbered
  have kept : (cache.remove grain).2.recency.filter (·.1 ≠ 0) = (cache.remove grain).2.recency :=
    List.filter_eq_self.mpr fun pair there =>
      decide_eq_true (Nat.ne_of_gt (numbered pair there).1)
  simp only [inserting, touch, Keyed.get?_put, ↓reduceIte, kept]

theorem inserting_tidy (tidy : cache.Tidy capacity ttl) (now : Nat) (grain : Grain)
    (instances : List Instance) (version : Version) :
    (cache.inserting now grain instances version).Tidy capacity ttl := by
  rw [inserting_eq tidy]
  refine entered_tidy (remove_tidy tidy grain) (remove_absent tidy grain)
    ⟨instances, version, now, (cache.remove grain).2.uses + 1⟩ rfl fun other => ?_
  by_cases same : other = grain <;> simp [same]

theorem evictOldest_tidy (tidy : cache.Tidy capacity ttl) :
    cache.evictOldest.Tidy capacity ttl := by
  rw [evictOldest]
  split
  · exact tidy
  · rename_i first oldest rest listed
    have rising := tidy.rising
    have own : (first, oldest) ∈ cache.recency := listed ▸ List.mem_cons_self ..
    rw [listed] at rising
    obtain ⟨before, rising⟩ := List.pairwise_cons.mp rising
    have among : ∀ {pair}, pair ∈ rest → pair ∈ cache.recency := fun there =>
      listed ▸ List.mem_cons_of_mem _ there
    refine ⟨tidy.capacity, tidy.ttl, fun use other => ?_, rising,
      fun pair there => tidy.numbered pair (among there)⟩
    simp only [Keyed.get?_erase]
    constructor
    · intro there
      have apart : other ≠ oldest := fun same =>
        Nat.ne_of_lt (before _ there) (tidy_grain tidy own (same ▸ among there))
      simpa [apart] using (tidy.listed use other).mp (among there)
    · rintro ⟨item, there, last⟩
      split at there
      · cases there
      · rename_i apart
        have there := (tidy.listed use other).mpr ⟨item, there, last⟩
        rw [listed] at there
        rcases List.mem_cons.mp there with same | later
        · exact absurd (Prod.mk.inj same).2 apart
        · exact later

theorem repeat_tidy (tidy : cache.Tidy capacity ttl) (count : Nat) :
    (count.repeat evictOldest cache).Tidy capacity ttl := by
  induction count with
  | zero => exact tidy
  | succ count ih => exact evictOldest_tidy ih

theorem evictOldest_recency (cache : Cache) :
    cache.evictOldest.recency = cache.recency.tail := by
  rw [evictOldest]
  split
  · rename_i nothing
    rw [nothing, List.tail_nil]
  · rename_i listed
    rw [listed, List.tail_cons]

theorem repeat_recency (count : Nat) (cache : Cache) :
    (count.repeat evictOldest cache).recency = cache.recency.drop count := by
  induction count with
  | zero => rfl
  | succ count ih =>
    rw [Nat.repeat, evictOldest_recency, ih, List.tail_drop]

theorem tidy_size (tidy : cache.Tidy capacity ttl) : cache.size = cache.recency.length := by
  have uses : (cache.recency.map Prod.fst).Nodup :=
    List.pairwise_map.mpr (tidy.rising.imp fun less => Nat.ne_of_lt less)
  have grains : (cache.recency.map Prod.snd).Nodup :=
    (List.Nodup.of_map _ uses).map_on fun one here two there same => by
      obtain ⟨use, grain⟩ := one
      obtain ⟨later, other⟩ := two
      cases (same : grain = other)
      rw [tidy_grain tidy here there]
  have keys : ∀ grain, grain ∈ cache.recency.map Prod.snd ↔ grain ∈ cache.cached.keys := by
    intro grain
    rw [← Keyed.get?_isSome, Option.isSome_iff_exists, List.mem_map]
    constructor
    · rintro ⟨⟨use, other⟩, there, rfl⟩
      obtain ⟨item, found, _⟩ := (tidy.listed use other).mp there
      exact ⟨item, found⟩
    · rintro ⟨item, found⟩
      exact ⟨(item.lastUse, grain), (tidy.listed _ _).mpr ⟨item, found, rfl⟩, rfl⟩
  have lengths := ((List.perm_ext_iff_of_nodup grains cache.cached.distinct).mpr keys).length_eq
  rw [List.length_map, List.length_map] at lengths
  exact lengths.symm

theorem repeat_newest (tidy : cache.Tidy capacity ttl) {earlier : List (Nat × Grain)}
    (newest : cache.recency = earlier ++ [(use, grain)]) {count : Nat}
    (left : count ≤ earlier.length) :
    (count.repeat evictOldest cache).recalls? grain = cache.recalls? grain := by
  induction count with
  | zero => rfl
  | succ count ih =>
    rw [← ih (Nat.le_of_succ_le left), Nat.repeat]
    have tidy := repeat_tidy tidy count
    have recency := repeat_recency count cache
    generalize count.repeat evictOldest cache = middle at tidy recency ⊢
    rw [newest, List.drop_append_of_le_length (Nat.le_of_succ_le left),
      List.drop_eq_getElem_cons left, List.cons_append] at recency
    generalize earlier[count] = first at recency
    rw [evictOldest, recency]
    have apart : grain ≠ first.2 := by
      intro same
      have rising := tidy.rising
      rw [recency] at rising
      have less := (List.pairwise_cons.mp rising).1 (use, grain) (by simp)
      have one : (first.1, grain) ∈ middle.recency := by
        rw [recency, same]
        exact List.mem_cons_self ..
      have two : (use, grain) ∈ middle.recency := by
        rw [recency]
        simp
      exact Nat.ne_of_lt less (tidy_grain tidy one two)
    simp [recalls?, apart]

theorem add_tidy (tidy : cache.Tidy capacity ttl) (now : Nat) (grain : Grain)
    (instances : List Instance) (version : Version) :
    (cache.add now grain instances version).Tidy capacity ttl :=
  repeat_tidy (inserting_tidy tidy now grain instances version) _

theorem add_recalls (tidy : cache.Tidy capacity ttl) (positive : 0 < capacity) (now : Nat)
    (grain : Grain) (instances : List Instance) (version : Version) :
    (cache.add now grain instances version).recalls? grain =
      some ⟨⟨instances.map (·.address grain), version⟩, now⟩ := by
  have inserted := inserting_recalls cache now grain instances version grain
  have newest := congrArg Cache.recency (inserting_eq tidy now grain instances version)
  have tidy := inserting_tidy tidy now grain instances version
  rw [if_pos rfl] at inserted
  rw [add_eq, evict, ← inserted]
  have size := tidy_size tidy
  refine repeat_newest tidy newest ?_
  rw [newest, List.length_append, List.length_singleton] at size
  rw [size, tidy.capacity]
  omega

theorem lookup_tidy (tidy : cache.Tidy capacity ttl) (now : Nat) (grain : Grain) :
    (cache.lookup now grain).2.Tidy capacity ttl := by
  have looks := lookup_looks cache now grain
  generalize cache.lookup now grain = looked at looks ⊢
  cases looks with
  | unknown => exact tidy
  | stale => exact remove_tidy tidy grain
  | hit => exact touch_tidy tidy grain

theorem forget_tidy (tidy : cache.Tidy capacity ttl) (cause : Cause) (address : Address) :
    (cache.forget cause address).Tidy capacity ttl := by
  cases cause with
  | force => exact remove_tidy tidy address.grain
  | nonexistent =>
    rw [forget, invalidate_eq]
    split
    · exact remove_tidy tidy address.grain
    · exact tidy

theorem forgetAll_tidy (tidy : cache.Tidy capacity ttl) (cause : Cause)
    (addresses : List Address) : (cache.forgetAll cause addresses).Tidy capacity ttl := by
  induction addresses generalizing cache with
  | nil => exact tidy
  | cons address rest ih => exact ih (forget_tidy tidy cause address)

end Cache

namespace Found

def About (found : Found) (grain : Grain) : Prop :=
  found.addresses ≠ [] ∧ ∀ address ∈ found.addresses, address.grain = grain

theorem about_rebuilt {found : Found} {grain : Grain} (about : found.About grain) :
    (found.addresses.map Address.toInstance).map (·.address grain) = found.addresses := by
  rw [List.map_map]
  refine (List.map_congr_left fun address present => ?_).trans (List.map_id _)
  simp only [Function.comp_apply, Instance.address, Address.toInstance, id_eq]
  rw [← about.2 address present]

theorem about_tagged {tagged : Tagged} {grain : Grain} (same : tagged.address.grain = grain) :
    (Found.mk [tagged.address] tagged.version).About grain :=
  ⟨List.cons_ne_nil _ _, fun _ present => List.mem_singleton.mp present ▸ same⟩

end Found

namespace Cache

variable {cache : Cache} {grain other : Grain} {known : Recollection} {found : Found}
  {now capacity ttl : Nat}

def learn (cache : Cache) (now : Nat) (grain : Grain) (found : Found) : Cache :=
  cache.add now grain (found.addresses.map Address.toInstance) found.version

theorem addTagged_learn (cache : Cache) (now : Nat) (grain : Grain) (tagged : Tagged) :
    cache.addTagged now grain tagged = cache.learn now grain ⟨[tagged.address], tagged.version⟩ :=
  rfl

theorem addFound_learn (about : found.About grain) :
    cache.addFound now found = cache.learn now grain found := by
  obtain ⟨addresses, version⟩ := found
  obtain ⟨someone, same⟩ := about
  cases addresses with
  | nil => exact absurd rfl someone
  | cons first rest =>
    have own : first.grain = grain := same first (List.mem_cons_self ..)
    rw [addFound, learn, ← own]
    rfl

theorem addFound_tidy (tidy : cache.Tidy capacity ttl) (now : Nat) (found : Found) :
    (cache.addFound now found).Tidy capacity ttl := by
  rw [addFound]
  split
  · exact tidy
  · exact add_tidy tidy ..

theorem learn_recalls (about : found.About grain) (tidy : cache.Tidy capacity ttl)
    (positive : 0 < capacity) (now : Nat) :
    (cache.learn now grain found).recalls? grain = some ⟨found, now⟩ := by
  rw [learn, add_recalls tidy positive, Found.about_rebuilt about]

theorem learn_known (about : found.About grain)
    (there : (cache.learn now grain found).recalls? other = some known) :
    other = grain ∧ known = ⟨found, now⟩ ∨ other ≠ grain ∧ cache.recalls? other = some known := by
  rw [learn, add_eq] at there
  have kept := evict_fades _ other known there
  rw [inserting_recalls, Found.about_rebuilt about] at kept
  split at kept
  · rename_i same
    exact .inl ⟨same, (Option.some.inj kept).symm⟩
  · rename_i apart
    exact .inr ⟨apart, kept⟩

end Cache
end ActorDirectory
