import ActorDirectory.Proofs.Store.Masking
import ActorDirectory.Proofs.Store.Numbering

-- Registrations that meet faults draw e-tags for nothing. The table then has the rows that it
-- would have had without the faults, under later e-tags.
namespace ActorDirectory

namespace TableStore

variable {cluster : String} {store : TableStore} {record : Record}
  {rows : Keyed (String × String) (Row × String)}

theorem register_working (working : store.faults = 0) (made : store.rows = some rows) :
    client.register cluster record store =
      match rows.get? (cluster, Row.keyOf record.grain) with
      | none => (.ok (record, .ofEtag (etag (store.drawn + 1))),
        { store with
          drawn := store.drawn + 1
          rows := some (rows.put (cluster, Row.keyOf record.grain)
            (.ofRecord cluster record, etag (store.drawn + 1))) })
      | some kept => (.ok (kept.1.toRecord, .ofEtag kept.2),
        { store with drawn := store.drawn + 1 }) := by
  have drawnWorking : ({ store with drawn := store.drawn + 1 } : TableStore).faults = 0 := working
  have drawnMade : ({ store with drawn := store.drawn + 1 } : TableStore).rows = some rows := made
  have unchanged : ({ store with rows := some rows, drawn := store.drawn + 1 } : TableStore) =
      { store with drawn := store.drawn + 1 } := by rw [← made]
  cases kept : rows.get? (cluster, Row.keyOf record.grain) with
  | none =>
    simp [TableClient.register, client, insert, draw, within_ok drawnWorking drawnMade,
      Keyed.contains, Row.keys, Row.ofRecord, kept]
  | some kept =>
    simp [TableClient.register, client, insert, draw, read, within_ok drawnWorking drawnMade,
      Keyed.contains, Row.keys, Row.ofRecord, kept, unchanged]

theorem unregister_working (working : store.faults = 0) (made : store.rows = some rows)
    (placed : ∀ kept, rows.get? (cluster, Row.keyOf record.grain) = some kept →
      kept.1.keys = (cluster, Row.keyOf record.grain)) :
    client.unregister cluster record .unknown store = (.ok (),
      match rows.get? (cluster, Row.keyOf record.grain) with
      | none => store
      | some kept =>
        if kept.1.activation ≠ record.activation then store
        else { store with rows := some (rows.erase (cluster, Row.keyOf record.grain)) }) := by
  have unchanged : { store with rows := some rows } = store := by rw [← made]
  cases found : rows.get? (cluster, Row.keyOf record.grain) with
  | none => simp [TableClient.unregister, client, read, within_ok working made, found, unchanged]
  | some kept =>
    have here := placed kept found
    obtain ⟨row, tag⟩ := kept
    have own : row.cluster = cluster := (Prod.mk.inj here).1
    have name : row.row = Row.keyOf record.grain := (Prod.mk.inj here).2
    by_cases same : row.activation = record.activation
    · simp [TableClient.unregister, client, read, delete, within_ok working made, found, unchanged,
        same, own, name, TableClient.deleted]
    · simp [TableClient.unregister, client, read, within_ok working made, found, unchanged, same]

theorem lookup_working {grain : String} (working : store.faults = 0) (made : store.rows = some rows) :
    client.lookup cluster grain store =
      (.ok ((rows.get? (cluster, Row.keyOf grain)).map fun kept =>
        (kept.1.toRecord, .ofEtag kept.2)), store) := by
  have unchanged : { store with rows := some rows } = store := by rw [← made]
  simp [TableClient.lookup, client, read, within_ok working made, unchanged]

end TableStore

namespace Version
open TableStore

-- Tags keep their order, and none comes earlier than before.
structure Spreads (numbering : Nat → Nat) : Prop where
  zero : numbering 0 = 0
  increasing : ∀ number, numbering number < numbering (number + 1)

theorem spreads_le {numbering : Nat → Nat} (spreads : Spreads numbering) (number : Nat) :
    number ≤ numbering number := by
  induction number with
  | zero => exact Nat.zero_le _
  | succ number ih => exact Nat.lt_of_le_of_lt ih (spreads.increasing number)

def renumber (numbering : Nat → Nat) (version : Version) : Version :=
  if version = .unknown then .unknown else .ofEtag (etag (numbering version.number.toNat))

theorem renumber_etag {numbering : Nat → Nat} (spreads : Spreads numbering) {number : Nat}
    (drawn : 0 < number) :
    (ofEtag (etag number)).renumber numbering = ofEtag (etag (numbering number)) := by
  rw [ofEtag_etag number, renumber]
  by_cases small : number < UInt64.size
  · have same : (UInt64.ofNat number).toNat = number := UInt64.toNat_ofNat_of_lt' small
    have known : (⟨UInt64.ofNat number⟩ : Version) ≠ .unknown := by
      intro none
      rw [congrArg (fun version => version.number.toNat) none] at same
      exact Nat.ne_of_lt drawn same
    rw [if_pos small, if_neg known, same]
  · have large := Nat.le_trans (Nat.le_of_not_lt small) (spreads_le spreads number)
    rw [if_neg small, if_pos rfl, ofEtag_etag, if_neg (Nat.not_lt_of_le large)]

end Version

namespace Entry

def renumber (numbering : Nat → Nat) (entry : Entry) : Entry :=
  if entry.version = .unknown then entry
  else { entry with etag := (entry.version.renumber numbering).toEtag }

theorem renumber_ofAddress (numbering : Nat → Nat) (address : Address) (version : Version) :
    (ofAddress address version).renumber numbering =
      ofAddress address (version.renumber numbering) := by
  rw [renumber, version_ofAddress]
  split
  · rename_i none
    rw [none, Version.renumber, if_pos rfl]
  · rfl

end Entry

namespace EntryAnswer

def renumber (numbering : Nat → Nat) : EntryAnswer → EntryAnswer
  | outcome (.success entry) => outcome (.success (entry.renumber numbering))
  | outcome (.redirect entry actual) => outcome (.redirect entry (actual.renumber numbering))
  | outcome (.failure entry cause) => outcome (.failure entry cause)
  | found result => found (result.map (·.map (Entry.renumber numbering)))

theorem renumber_tells (numbering : Nat → Nat) :
    Tells (Version.renumber numbering) (renumber numbering) where
  registered := fun entry address record version => by
    simp only [Directory.registered]
    split
    · rfl
    · split <;> simp only [renumber, Entry.renumber_ofAddress]
  unregistered := fun entry untagged => by rw [renumber, Entry.renumber, if_pos untagged]
  found := fun answer => by
    cases answer with
    | none => rfl
    | some kept =>
      simp only [Directory.found, Option.map_some, Prod.map]
      split
      · rename_i wrong
        simp only [id_eq, wrong]
        rfl
      · rename_i read
        simp only [id_eq, read, renumber, Except.map, Option.map_some, Entry.renumber_ofAddress]

end EntryAnswer

namespace TableStore

def Retagged (numbering : Nat → Nat) (key : String × String) (kept other : Row × String) : Prop :=
  other.1 = kept.1 ∧ kept.1.keys = key ∧
    ∃ number, 0 < number ∧ kept.2 = etag number ∧ other.2 = etag (numbering number)

structure Twins (numbering : Nat → Nat) (number : Nat) (clean other : TableStore) : Prop where
  calm : clean.faults = 0 ∧ other.faults = 0
  drawn : clean.drawn = number ∧ other.drawn = numbering number
  rows : ∃ rows others, clean.rows = some rows ∧ other.rows = some others ∧
    ∀ key, Option.Rel (Retagged numbering key) (rows.get? key) (others.get? key)

section Twins

variable {numbering : Nat → Nat} {number faults : Nat} {clean other : TableStore} {cluster : String}

theorem etag_retagged {kept told : Row × String} {key : String × String}
    (spreads : Version.Spreads numbering) (retagged : Retagged numbering key kept told) :
    (told.1.toRecord, Version.ofEtag told.2) =
      (kept.1.toRecord, (Version.ofEtag kept.2).renumber numbering) := by
  obtain ⟨same, _, number, drawn, mine, yours⟩ := retagged
  rw [same, mine, yours, Version.renumber_etag spreads drawn]

theorem retagged_keys {key : String × String} {one two : Option (Row × String)}
    (alike : Option.Rel (Retagged numbering key) one two) :
    (∀ kept, one = some kept → kept.1.keys = key) ∧ ∀ kept, two = some kept → kept.1.keys = key := by
  cases alike with
  | none => exact ⟨nofun, nofun⟩
  | some retagged =>
    refine ⟨fun kept same => ?_, fun kept same => ?_⟩ <;> cases same
    · exact retagged.2.1
    · exact retagged.1 ▸ retagged.2.1

theorem register_masked (spreads : Version.Spreads numbering) (record : Record)
    (fit : numbering (number + 1) = numbering number + faults + 1) :
    Call.Masked arm (Twins numbering) ((client.backend cluster).register record)
      (fun value told => told = (value.1, value.2.renumber numbering)) number (number + 1)
      faults := by
  rintro clean other ⟨calm, drawn, rows, others, made, makes, alike⟩
  -- Each fault is met by an insertion that has drawn its e-tag already.
  refine ⟨fun left => { other with faults := left, drawn := other.drawn + (faults - left) }, ?_, ?_, ?_⟩
  · simp [arm]
  · intro left less
    refine ⟨"injected failure", ?_⟩
    have more : other.drawn + (faults - (left + 1)) + 1 = other.drawn + (faults - left) := by omega
    simp [TableClient.backend, TableClient.register, client, insert, draw, within, faulted, more]
  · have mine : client.register cluster record clean = _ := register_working calm.1 made
    have yours : client.register cluster record
        { other with faults := 0, drawn := other.drawn + (faults - 0) } = _ :=
      register_working rfl makes
    have here := alike (cluster, Row.keyOf record.grain)
    generalize kept : rows.get? (cluster, Row.keyOf record.grain) = one at mine here
    generalize found : others.get? (cluster, Row.keyOf record.grain) = two at yours here
    have drawn' : other.drawn + (faults - 0) + 1 = numbering (clean.drawn + 1) := by
      rw [drawn.1, fit, drawn.2, Nat.sub_zero]
    rw [drawn'] at yours
    cases here with
    | none =>
      refine ⟨_, _, _, _, mine, yours, ?_, ⟨⟨calm.1, rfl⟩, ⟨congrArg (· + 1) drawn.1, ?_⟩, _, _,
        rfl, rfl, fun key => ?_⟩⟩
      · exact congrArg (Prod.mk record) (Version.renumber_etag spreads (Nat.succ_pos _)).symm
      · rw [drawn.1]
      · rw [Keyed.get?_put, Keyed.get?_put]
        split
        · rename_i own
          exact .some ⟨rfl, own.symm, _, Nat.succ_pos _, rfl, rfl⟩
        · exact alike key
    | some retagged =>
      refine ⟨_, _, _, _, mine, yours, etag_retagged spreads retagged, ⟨⟨calm.1, rfl⟩,
        ⟨congrArg (· + 1) drawn.1, ?_⟩, rows, others, made, makes, alike⟩⟩
      rw [drawn.1]

theorem unregister_masked (record : Record) :
    Call.Masked arm (Twins numbering) ((client.backend cluster).unregister record .unknown)
      (fun _ _ => True) number number faults := by
  rintro clean other ⟨calm, drawn, rows, others, made, makes, alike⟩
  have here := alike (cluster, Row.keyOf record.grain)
  obtain ⟨placed, places⟩ := retagged_keys here
  refine ⟨(arm · other), rfl, fun _ _ => ⟨_, rfl⟩, ?_⟩
  have mine : client.unregister cluster record .unknown clean = _ :=
    unregister_working calm.1 made placed
  have yours : client.unregister cluster record .unknown (arm 0 other) = _ :=
    unregister_working rfl makes places
  refine ⟨(), (), _, _, mine, yours, trivial, ?_⟩
  have same : Twins numbering number clean (arm 0 other) :=
    ⟨⟨calm.1, rfl⟩, drawn, rows, others, made, makes, alike⟩
  generalize kept : rows.get? (cluster, Row.keyOf record.grain) = one at here
  generalize found : others.get? (cluster, Row.keyOf record.grain) = two at here
  cases here with
  | none => exact same
  | some retagged =>
    dsimp only
    rw [retagged.1]
    split
    · exact same
    · refine ⟨⟨calm.1, rfl⟩, drawn, _, _, rfl, rfl, fun key => ?_⟩
      rw [Keyed.get?_erase, Keyed.get?_erase]
      split
      · exact .none
      · exact alike key

theorem lookup_masked (spreads : Version.Spreads numbering) (grain : String) :
    Call.Masked arm (Twins numbering) ((client.backend cluster).lookup grain)
      (fun value told => told = value.map (Prod.map id (Version.renumber numbering))) number number
      faults := by
  rintro clean other ⟨calm, drawn, rows, others, made, makes, alike⟩
  refine ⟨(arm · other), rfl, fun _ _ => ⟨_, rfl⟩, ?_⟩
  refine ⟨_, _, _, _, lookup_working calm.1 made, lookup_working rfl makes, ?_,
    ⟨calm.1, rfl⟩, drawn, rows, others, made, makes, alike⟩
  have here := alike (cluster, Row.keyOf grain)
  generalize rows.get? (cluster, Row.keyOf grain) = one at here
  generalize others.get? (cluster, Row.keyOf grain) = two at here
  cases here with
  | none => rfl
  | some retagged => exact congrArg some (etag_retagged spreads retagged)

theorem masks (spreads : Version.Spreads numbering) (cluster : String) :
    (client.backend cluster).Masks {} arm (Twins numbering) (Version.renumber numbering)
      fun number waste => numbering (number + 1) = numbering number + waste + 1 where
  prepare := fun _ _ _ => ⟨_, rfl⟩
  prepared := ⟨_, rfl, rfl, rfl, ⟨rfl, rfl⟩, ⟨rfl, spreads.zero.symm⟩, _, _, rfl, rfl, fun _ => .none⟩
  register := fun record _ _ fit => register_masked spreads record fit
  unregister := fun record _ _ => unregister_masked record
  lookup := fun grain _ _ => lookup_masked spreads grain

end Twins

def Renumbered (numbering : Nat → Nat) (store other : TableStore) : Prop :=
  ∀ key, Option.Rel (Retagged numbering key) (store.row? key) (other.row? key)

def numberingOf (wasted : List Nat) : Nat → Nat
  | 0 => 0
  | number + 1 => numberingOf wasted number + wasted[number]?.getD 0 + 1

theorem numberingOf_spreads (wasted : List Nat) : Version.Spreads (numberingOf wasted) where
  zero := rfl
  increasing := fun number => by
    rw [numberingOf]
    omega

end TableStore

namespace Directory

variable {retry : Retry} {isReady : Bool} {number : Nat}

theorem paired_same {backend : Backend KeyValueStore} {start : KeyValueStore} {cluster : String}
    {clean other : Directory KeyValueStore}
    (paired : Paired backend retry start (KeyValueStore.Twins cluster) isReady number clean other) :
    other = clean := by
  cases paired with
  | fresh => rfl
  | used twins => rw [twins.1]

theorem paired_renumbered {backend : Backend TableStore} {numbering : Nat → Nat}
    {clean other : Directory TableStore}
    (paired : Paired backend retry {} (TableStore.Twins numbering) isReady number clean other) :
    clean.store.Renumbered numbering other.store := by
  cases paired with
  | fresh => exact fun _ => .none
  | used twins =>
    obtain ⟨_, _, rows, others, made, makes, alike⟩ := twins
    intro key
    simpa only [TableStore.row?, made, makes, Option.bind_some] using alike key

end Directory

section Chain

variable {σ τ ι α : Type} {step : σ → ι → α × σ} {other : τ → ι → α × τ} {embed : σ → τ}

theorem chain_embed (same : ∀ state call,
    other (embed state) call = ((step state call).1, embed (step state call).2))
    (calls : List ι) (state : σ) : chain other (embed state) calls =
      ((chain step state calls).1, embed (chain step state calls).2) := by
  induction calls generalizing state with
  | nil => rfl
  | cons call rest ih => simp only [chain, same, ih]

end Chain

namespace External

def respond (external : External) : EntryCall → Timed EntryAnswer × External
  | .register entry => (external.register entry).map (·.map .outcome) id
  | .unregister entry => (external.unregister entry).map (·.map .outcome) id
  | .lookup grain => (external.lookup grain).map (·.map .found) id

def answering (external : External) (calls : List EntryCall) : List (Timed EntryAnswer) × External :=
  chain respond external calls

def struggling (external : External) (calls : List (Nat × EntryCall)) :
    List (Timed EntryAnswer) × External :=
  chain (fun external call => (external.arm call.1).respond call.2) external calls

def Renumbered (numbering : Nat → Nat) : External → External → Prop
  | table directory, table other => directory.store.Renumbered numbering other.store
  | _, _ => False

theorem answering_keyValue (directory : Directory KeyValueStore) (calls : List EntryCall) :
    (keyValue directory).answering calls =
      ((chain Directory.respond directory calls).1,
        keyValue (chain Directory.respond directory calls).2) :=
  chain_embed (fun _ call => by cases call <;> rfl) calls directory

theorem answering_table (directory : Directory TableStore) (calls : List EntryCall) :
    (table directory).answering calls =
      ((chain Directory.respond directory calls).1,
        table (chain Directory.respond directory calls).2) :=
  chain_embed (fun _ call => by cases call <;> rfl) calls directory

theorem struggling_keyValue (directory : Directory KeyValueStore) (calls : List (Nat × EntryCall)) :
    (keyValue directory).struggling calls =
      ((chain (Directory.struggle KeyValueStore.arm) directory calls).1,
        keyValue (chain (Directory.struggle KeyValueStore.arm) directory calls).2) :=
  chain_embed (fun _ call => by obtain ⟨_, call⟩ := call; cases call <;> rfl) calls directory

theorem struggling_table (directory : Directory TableStore) (calls : List (Nat × EntryCall)) :
    (table directory).struggling calls =
      ((chain (Directory.struggle TableStore.arm) directory calls).1,
        table (chain (Directory.struggle TableStore.arm) directory calls).2) :=
  chain_embed (fun _ call => by obtain ⟨_, call⟩ := call; cases call <;> rfl) calls directory

end External

theorem faults_masked (cluster : String) (retry : Retry) {calls : List (Nat × EntryCall)}
    (plain : ∀ call ∈ calls, call.2.Plain) (few : ∀ call ∈ calls, call.1 < retry.attempts) :
    (let clean := (External.openKeyValue cluster retry).answering (calls.map Prod.snd)
      let struggled := (External.openKeyValue cluster retry).struggling calls
      struggled.1.map Timed.result = clean.1.map Timed.result ∧
        struggled.1.map Timed.waited = calls.map (·.1 * retry.delay) ∧ struggled.2 = clean.2) ∧
      let clean := (External.openTable cluster retry).answering (calls.map Prod.snd)
      let struggled := (External.openTable cluster retry).struggling calls
      ∃ numbering, Version.Spreads numbering ∧
        struggled.1.map Timed.result =
          (clean.1.map Timed.result).map (EntryAnswer.renumber numbering) ∧
        struggled.1.map Timed.waited = calls.map (·.1 * retry.delay) ∧
        clean.2.Renumbered numbering struggled.2 := by
  refine ⟨?_, TableStore.numberingOf (EntryCall.wasted false calls),
    TableStore.numberingOf_spreads _, ?_⟩
  · have agree := Directory.calls_agree (KeyValueStore.masks cluster) EntryAnswer.id_tells plain few
      (fun _ _ _ => trivial) .fresh
    rw [External.openKeyValue, External.answering_keyValue, External.struggling_keyValue]
    refine ⟨by simpa using agree.results, agree.times, congrArg External.keyValue ?_⟩
    obtain ⟨_, _, paired⟩ := agree.ends
    exact Directory.paired_same paired
  · have agree := Directory.calls_agree
      (TableStore.masks (TableStore.numberingOf_spreads (EntryCall.wasted false calls)) cluster)
      (EntryAnswer.renumber_tells _) plain few (fun place waste found => ?_) .fresh
    · rw [External.openTable, External.answering_table, External.struggling_table]
      refine ⟨agree.results, agree.times, ?_⟩
      obtain ⟨_, _, paired⟩ := agree.ends
      exact Directory.paired_renumbered paired
    · rw [Nat.zero_add, TableStore.numberingOf, found, Option.getD_some]

namespace Solo

def strained : List (Nat × EntryCall) :=
  [(2, .register (entry first "a")), (1, .register (entry second "b")), (2, .lookup "user/1"),
    (0, .unregister (entry first "a")), (2, .register (entry second "b")), (1, .lookup "user/1")]

theorem strained_masked : (∀ call ∈ strained, call.2.Plain) ∧ (∀ call ∈ strained, call.1 < 3) ∧
    (let clean := (External.openTable "main" ⟨3, 100⟩).answering (strained.map Prod.snd)
      let struggled := (External.openTable "main" ⟨3, 100⟩).struggling strained
      ∃ numbering, Version.Spreads numbering ∧
        struggled.1.map Timed.result =
          (clean.1.map Timed.result).map (EntryAnswer.renumber numbering) ∧
        struggled.1.map Timed.waited = [200, 100, 200, 0, 200, 100] ∧
        clean.2.Renumbered numbering struggled.2) := by
  have plain : ∀ call ∈ strained, call.2.Plain := by decide +kernel
  have few : ∀ call ∈ strained, call.1 < (⟨3, 100⟩ : Retry).attempts := by decide
  exact ⟨plain, few, (faults_masked "main" ⟨3, 100⟩ plain few).2⟩

end Solo

end ActorDirectory
