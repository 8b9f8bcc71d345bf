import ActorDirectory.Partition.Entries
import ActorDirectory.Proofs.Partition.Primacy
import ActorDirectory.Proofs.Store.Keeping
import ActorDirectory.Proofs.Text.Identities

-- A partition, a key-value store and a table give the same answers to the same calls.
namespace ActorDirectory

inductive EntryCall where
  | register (entry : Entry)
  | unregister (entry : Entry)
  | lookup (grain : String)
  deriving DecidableEq, Repr

inductive EntryAnswer where
  | outcome (outcome : Outcome)
  | found (result : Except Fault (Option Entry))

namespace Entry

def untagged (entry : Entry) : Entry := { entry with etag := "" }

end Entry

namespace EntryAnswer

def untagged : EntryAnswer → EntryAnswer
  | outcome (.success entry) => outcome (.success entry.untagged)
  | outcome (.redirect entry actual) => outcome (.redirect entry actual.untagged)
  | outcome (.failure entry cause) => outcome (.failure entry cause)
  | found result => found (result.map (·.map Entry.untagged))

end EntryAnswer

namespace EntryCall

def entry? : EntryCall → Option Entry
  | register entry => some entry
  | unregister entry => some entry
  | lookup _ => none

def Untagged : EntryCall → Prop
  | register entry => entry.version = .unknown
  | unregister entry => entry.version = .unknown
  | lookup grain => (Grain.parse? grain).isSome

instance : (call : EntryCall) → Decidable call.Untagged
  | register entry => inferInstanceAs (Decidable (entry.version = .unknown))
  | unregister entry => inferInstanceAs (Decidable (entry.version = .unknown))
  | lookup grain => inferInstanceAs (Decidable ((Grain.parse? grain).isSome = true))

def named (calls : List EntryCall) : List Address :=
  calls.filterMap fun call => call.entry?.bind (·.toAddress.toOption)

-- No activation of a grain is said to run in two places.
def Placed (calls : List EntryCall) : Prop :=
  ∀ address ∈ named calls, ∀ other ∈ named calls,
    address.grain = other.grain → address.activation = other.activation →
      address.silo = other.silo

instance (calls : List EntryCall) : Decidable (Placed calls) :=
  inferInstanceAs (Decidable (∀ address ∈ named calls, ∀ other ∈ named calls,
    address.grain = other.grain → address.activation = other.activation →
      address.silo = other.silo))

theorem mem_named {calls : List EntryCall} {call : EntryCall} {entry : Entry}
    {address : Address} (listed : call ∈ calls) (about : call.entry? = some entry)
    (read : entry.toAddress = .ok address) : address ∈ named calls :=
  List.mem_filterMap.mpr ⟨call, listed, by simp [about, read, Except.toOption]⟩

end EntryCall

def EntryCall.answers {σ : Type} (serve : σ → EntryCall → EntryAnswer × σ) :
    σ → List EntryCall → List EntryAnswer
  | _, [] => []
  | state, call :: rest =>
    (serve state call).1 :: EntryCall.answers serve (serve state call).2 rest

namespace Partition

def serve (partition : Partition) : EntryCall → EntryAnswer × Partition
  | .register entry => (partition.registerEntry entry).map .outcome id
  | .unregister entry => (partition.unregisterEntry entry).map .outcome id
  | .lookup grain => (.found (partition.lookupEntry grain), partition)

end Partition

namespace Directory

variable {σ : Type}

def serve (directory : Directory σ) : EntryCall → EntryAnswer × Directory σ
  | .register entry => (directory.register entry).map (.outcome ·.result) id
  | .unregister entry => (directory.unregister entry).map (.outcome ·.result) id
  | .lookup grain => (directory.lookup grain).map (.found ·.result) id

end Directory

namespace External

def serve (external : External) : EntryCall → EntryAnswer × External
  | .register entry => (external.register entry).map (.outcome ·.result) id
  | .unregister entry => (external.unregister entry).map (.outcome ·.result) id
  | .lookup grain => (external.lookup grain).map (.found ·.result) id

end External

namespace Retry

variable {σ α : Type} {call : Call σ BackendFault α} {store next : σ} {value : α}

theorem run_ok (retry : Retry) (answered : call store = (.ok value, next)) :
    retry.run call store = (⟨.ok value, 0⟩, next) := by
  have made : runFrom call retry.further 0 store = (.ok value, 1, next) := by
    rw [runFrom, answered]
  simp [run, made]

end Retry

namespace Directory

variable {σ α : Type} {backend : Backend σ} {start : σ} {keeps : σ → Records → Prop}
  {directory : Directory σ} {records : Records}

-- The directory keeps the records, or it was not called yet and there are none.
def Stands (backend : Backend σ) (start : σ) (keeps : σ → Records → Prop)
    (directory : Directory σ) (records : Records) : Prop :=
  directory.backend = backend ∧
    (directory.isReady = true ∧ keeps directory.store records ∨
      directory.isReady = false ∧ directory.store = start ∧ records = .none)

theorem call_ready (lawful : backend.Keeps start keeps)
    (stands : directory.Stands backend start keeps records) : ∃ store, keeps store records ∧
      ∀ {α : Type} (call : Call σ BackendFault α) (value : α) (next : σ),
        call store = (.ok value, next) → ∃ waited,
          directory.call call =
            (⟨.ok value, waited⟩, { directory with store := next, isReady := true }) := by
  obtain ⟨rfl, ⟨ready, kept⟩ | ⟨fresh, rfl, rfl⟩⟩ := stands
  · refine ⟨directory.store, kept, fun call value next answered => ⟨0, ?_⟩⟩
    simp only [Directory.call, ensureReady, ready, ↓reduceIte,
      Retry.run_ok directory.retry answered]
  · obtain ⟨store, prepared, kept⟩ := lawful.prepare
    refine ⟨store, kept, fun call value next answered => ⟨0, ?_⟩⟩
    simp [Directory.call, ensureReady, fresh, Retry.run_ok directory.retry prepared,
      Retry.run_ok directory.retry answered, Except.isOk, Except.toBool]

end Directory

namespace Address

theorem toRecord_injective {address other : Address} (fit : address.grain.WellFormed)
    (fits : other.grain.WellFormed) (same : address.toRecord = other.toRecord) :
    address = other := by
  have read := toAddress_toRecord fit
  rw [same, toAddress_toRecord fits] at read
  exact (Except.ok.inj read).symm

end Address

namespace Partition

variable {partition : Partition} {known : Address → Prop} {address : Address} {grain : Grain}
  {entry : Entry}

def records (partition : Partition) : Records := fun text =>
  (Grain.parse? text).bind fun grain =>
    (partition.primary? grain).map fun inst => (inst.address grain).toRecord

def Lone (known : Address → Prop) (partition : Partition) : Prop :=
  ∀ grain roster, partition.roster? grain = some roster →
    grain.WellFormed ∧ ∃ inst, roster = ⟨[inst], true⟩ ∧ known (inst.address grain)

theorem records_grain (partition : Partition) (fit : grain.WellFormed) :
    partition.records grain.toText =
      (partition.primary? grain).map fun inst => (inst.address grain).toRecord := by
  rw [records, Grain.parse_eq_some.mpr ⟨fit, rfl⟩, Option.bind_some]

theorem records_primary (lone : partition.Lone known) (fit : grain.WellFormed) :
    (partition.roster? grain = none ∧ partition.records grain.toText = none) ∨
      ∃ inst, partition.roster? grain = some ⟨[inst], true⟩ ∧ known (inst.address grain) ∧
        partition.records grain.toText = some (inst.address grain).toRecord := by
  rw [records_grain partition fit, primary?]
  cases found : partition.roster? grain with
  | none => exact .inl ⟨rfl, rfl⟩
  | some roster =>
    obtain ⟨_, inst, rfl, placed⟩ := lone grain roster found
    exact .inr ⟨inst, rfl, placed, rfl⟩

theorem records_changed {after : Partition} (fit : grain.WellFormed) {changed : Option Record}
    (own : after.records grain.toText = changed)
    (others : ∀ other, other ≠ grain → after.roster? other = partition.roster? other)
    (text : String) :
    after.records text = if text = grain.toText then changed else partition.records text := by
  split
  · rename_i same
    rw [same, own]
  · rename_i different
    simp only [records]
    cases read : Grain.parse? text with
    | none => rfl
    | some other =>
      have apart : other ≠ grain := by
        rintro rfl
        exact different (Grain.parse_eq_some.mp read).2.symm
      simp only [Option.bind_some, primary?, others other apart]

theorem register_lone (lone : partition.Lone known) (fit : address.grain.WellFormed)
    (here : known address) : (partition.register address true).2.Lone known := by
  intro grain roster found
  rw [register_roster] at found
  split at found
  · rename_i same
    subst same
    refine ⟨fit, ?_⟩
    cases before : partition.roster? address.grain with
    | none =>
      rw [before] at found
      exact ⟨address.toInstance, (Option.some.inj found).symm, here⟩
    | some earlier =>
      obtain ⟨_, inst, rfl, placed⟩ := lone _ earlier before
      rw [before] at found
      exact ⟨inst, (Option.some.inj found).symm, placed⟩
  · exact lone grain roster found

theorem register_record (lone : partition.Lone known) (fit : address.grain.WellFormed) :
    (partition.records address.grain.toText).getD address.toRecord =
      (partition.register address true).1.address.toRecord := by
  rw [register_answer]
  rcases records_primary lone fit with ⟨absent, kept⟩ | ⟨inst, present, _, kept⟩
  · rw [kept, absent]
    rfl
  · rw [kept, present]
    rfl

theorem register_records (lone : partition.Lone known) (fit : address.grain.WellFormed) :
    (partition.register address true).2.records = partition.records.add address.toRecord := by
  funext text
  rw [Records.add]
  have own : (partition.register address true).2.records address.grain.toText =
      some ((partition.records address.grain.toText).getD address.toRecord) := by
    rw [records_grain _ fit, primary?, register_roster, if_pos rfl]
    rcases records_primary lone fit with ⟨absent, kept⟩ | ⟨inst, present, _, kept⟩
    · rw [absent, kept]
      rfl
    · rw [present, kept]
      rfl
  have others : ∀ other, other ≠ address.grain →
      (partition.register address true).2.roster? other = partition.roster? other :=
    fun other apart => by rw [register_roster, if_neg apart]
  rw [records_changed fit own others]
  split
  · rename_i same
    rw [if_pos (same ▸ rfl), same]
  · rename_i other
    rw [if_neg (show ¬text = address.toRecord.grain from other)]

def Located (known : Address → Prop) : Prop :=
  ∀ address other, known address → known other → address.grain = other.grain →
    address.activation = other.activation → address = other

theorem unregister_lone (lone : partition.Lone known) (address : Address) :
    (partition.unregister address).2.Lone known := by
  intro grain roster found
  rw [unregister_roster] at found
  split at found
  · obtain ⟨earlier, before, left⟩ := Option.bind_eq_some_iff.mp found
    obtain ⟨fit, inst, rfl, placed⟩ := lone grain earlier before
    refine ⟨fit, inst, ?_, placed⟩
    by_cases same : inst.activation = address.activation
    · simp [Roster.strike, Roster.keep, same] at left
    · simpa [Roster.strike, same, eq_comm] using left
  · exact lone grain roster found

theorem unregister_records (located : Located known) (lone : partition.Lone known)
    (fit : address.grain.WellFormed) (here : known address) :
    (partition.unregister address).2.records = partition.records.remove address.toRecord := by
  funext text
  rw [Records.remove]
  have others : ∀ other, other ≠ address.grain →
      (partition.unregister address).2.roster? other = partition.roster? other :=
    fun other apart => by rw [unregister_roster, if_neg apart]
  have own : (partition.unregister address).2.records address.grain.toText =
      if partition.records address.grain.toText = some address.toRecord then none
      else partition.records address.grain.toText := by
    rw [records_grain _ fit, primary?, unregister_roster, if_pos rfl]
    rcases records_primary lone fit with ⟨absent, kept⟩ | ⟨inst, present, placed, kept⟩
    · rw [absent, kept]
      rfl
    · rw [present, kept]
      by_cases same : inst.activation = address.activation
      · have whole : inst.address address.grain = address := located _ _ placed here rfl same
        simp [whole, Roster.strike, Roster.keep, same]
      · have differs : (inst.address address.grain).toRecord ≠ address.toRecord := fun equal =>
          same (congrArg Address.activation (Address.toRecord_injective
            (show (inst.address address.grain).grain.WellFormed from fit) fit equal))
        simp [differs, Roster.strike, Roster.primary?, same]
  rw [records_changed fit own others]
  by_cases same : text = address.grain.toText
  · subst same
    rw [if_pos rfl]
    by_cases kept : partition.records address.grain.toText = some address.toRecord
    · rw [if_pos kept, if_pos ⟨rfl, kept⟩]
    · rw [if_neg kept, if_neg fun both => kept both.2]
  · rw [if_neg same, if_neg fun both => same both.1]

theorem unregisterEntry_untagged (read : entry.toAddress = .ok address)
    (untagged : entry.version = .unknown) :
    partition.unregisterEntry entry = (.success entry, (partition.unregister address).2) := by
  have withdrawn : partition.unregisterAt address .unknown =
      .ok (partition.unregister address) := by
    cases found : partition.held.get? address.grain with
    | none => simp only [unregister, unregisterAt_absent found]
    | some holding => exact unregisterAt_current found (.inl rfl)
  simp only [unregisterEntry, read, untagged, withdrawn]

theorem lookupEntry_records (lone : partition.Lone known) (fit : grain.WellFormed) :
    ∃ version, partition.lookupEntry grain.toText =
      .ok ((partition.primary? grain).map fun inst =>
        .ofAddress (inst.address grain) version) := by
  have read : Grain.parse? grain.toText = some grain := Grain.parse_eq_some.mpr ⟨fit, rfl⟩
  cases found : partition.held.get? grain with
  | none =>
    exact ⟨.unknown, by simp [lookupEntry, Grain.parse, read, lookup, found, primary?, roster?]⟩
  | some holding =>
    have known := roster?_held found
    obtain ⟨_, inst, alone, _⟩ := lone grain holding.roster known
    have listed : holding.instances = [inst] := congrArg Roster.instances alone
    refine ⟨holding.version, ?_⟩
    simp [lookupEntry, Grain.parse, read, lookup, found, primary?, known, Holding.found, listed,
      Option.filter_some, Found.primary?, Roster.primary?, alone]

end Partition

namespace Partition

variable {partition : Partition} {known : Address → Prop} {address : Address} {entry : Entry}

theorem register_known (lone : partition.Lone known) (here : known address) :
    known (partition.register address true).1.address := by
  rw [register_answer]
  cases found : partition.roster? address.grain with
  | none => exact here
  | some roster =>
    obtain ⟨_, inst, rfl, placed⟩ := lone _ roster found
    exact placed

theorem registerEntry_outcome (read : entry.toAddress = .ok address) :
    (partition.registerEntry entry).1 =
      if (partition.register address true).1.address.activation = address.activation then
        .success (.ofAddress (partition.register address true).1.address
          (partition.register address true).1.version)
      else .redirect entry (.ofAddress (partition.register address true).1.address
        (partition.register address true).1.version) := by
  simp only [registerEntry, read]
  split <;> rfl

end Partition

namespace Directory

variable {σ : Type} {backend : Backend σ} {start : σ} {keeps : σ → Records → Prop}
  {directory : Directory σ} {records : Records} {entry : Entry} {address : Address}

theorem register_stands (lawful : backend.Keeps start keeps)
    (stands : directory.Stands backend start keeps records)
    (read : entry.toAddress = .ok address) :
    (∃ version, (directory.register entry).1.result = registered entry address
      (.ok ((records address.grain.toText).getD address.toRecord, version))) ∧
      (directory.register entry).2.Stands backend start keeps (records.add address.toRecord) := by
  obtain ⟨store, kept, ready⟩ := call_ready lawful stands
  obtain ⟨version, next, called, left⟩ := lawful.register store records address.toRecord kept
  obtain ⟨same, _⟩ := stands
  rw [← same] at called
  obtain ⟨waited, answered⟩ := ready _ _ _ called
  simp only [register, read, answered]
  exact ⟨⟨version, rfl⟩, same, .inl ⟨rfl, left⟩⟩

theorem unregister_stands (lawful : backend.Keeps start keeps)
    (stands : directory.Stands backend start keeps records)
    (read : entry.toAddress = .ok address) (untagged : entry.version = .unknown)
    (located : ∀ kept, records address.toRecord.grain = some kept →
      kept.activation = address.toRecord.activation → kept = address.toRecord) :
    (directory.unregister entry).1.result = .success entry ∧
      (directory.unregister entry).2.Stands backend start keeps
        (records.remove address.toRecord) := by
  obtain ⟨store, kept, ready⟩ := call_ready lawful stands
  obtain ⟨next, called, left⟩ :=
    lawful.unregister store records address.toRecord kept located
  obtain ⟨same, _⟩ := stands
  rw [← same] at called
  obtain ⟨waited, answered⟩ := ready _ _ _ called
  simp only [unregister, read, untagged, answered]
  exact ⟨rfl, same, .inl ⟨rfl, left⟩⟩

theorem lookup_stands (lawful : backend.Keeps start keeps)
    (stands : directory.Stands backend start keeps records) (grain : String) :
    (∃ version, (directory.lookup grain).1.result =
      found (.ok ((records grain).map (·, version)))) ∧
      (directory.lookup grain).2.Stands backend start keeps records := by
  obtain ⟨store, kept, ready⟩ := call_ready lawful stands
  obtain ⟨version, next, called, left⟩ := lawful.lookup store records grain kept
  obtain ⟨same, _⟩ := stands
  rw [← same] at called
  obtain ⟨waited, answered⟩ := ready _ _ _ called
  simp only [lookup, answered]
  exact ⟨⟨version, rfl⟩, same, .inl ⟨rfl, left⟩⟩

end Directory

structure Directory.Mirrors {σ : Type} (backend : Backend σ) (start : σ)
    (keeps : σ → Records → Prop) (known : Address → Prop) (partition : Partition)
    (directory : Directory σ) : Prop where
  lone : partition.Lone known
  stands : directory.Stands backend start keeps partition.records

namespace Directory.Mirrors

variable {σ : Type} {backend : Backend σ} {start : σ} {keeps : σ → Records → Prop}
  {known : Address → Prop} {partition : Partition} {directory : Directory σ} {entry : Entry}
  {address : Address}

theorem register (lawful : backend.Keeps start keeps) (located : Partition.Located known)
    (mirrors : Mirrors backend start keeps known partition directory)
    (here : ∀ address, entry.toAddress = .ok address → known address) :
    (EntryAnswer.outcome (directory.register entry).1.result).untagged =
        (EntryAnswer.outcome (partition.registerEntry entry).1).untagged ∧
      Mirrors backend start keeps known (partition.registerEntry entry).2
        (directory.register entry).2 := by
  obtain ⟨lone, stands⟩ := mirrors
  cases read : entry.toAddress with
  | error fault =>
    simp only [Directory.register, Partition.registerEntry, read]
    exact ⟨trivial, lone, stands⟩
  | ok address =>
    have fit := (Entry.toAddress_fits read).1
    have placed := here address read
    obtain ⟨⟨version, answered⟩, left⟩ := Directory.register_stands lawful stands read
    rw [Partition.register_record lone fit] at answered
    rw [Partition.registerEntry_left, answered, Partition.registerEntry_outcome read, read]
    refine ⟨?_, Partition.register_lone lone fit placed,
      (Partition.register_records lone fit).symm ▸ left⟩
    have grain : (partition.register address true).1.address.grain = address.grain := by
      rw [Partition.register_answer]
      rfl
    have same : (partition.register address true).1.address = address ↔
        (partition.register address true).1.address.activation = address.activation :=
      ⟨fun whole => congrArg Address.activation whole,
        located _ _ (Partition.register_known lone placed) placed grain⟩
    simp only [Directory.registered, Address.toAddress_toRecord (grain.symm ▸ fit), same]
    split <;> rfl

theorem unregister (lawful : backend.Keeps start keeps) (located : Partition.Located known)
    (mirrors : Mirrors backend start keeps known partition directory)
    (untagged : entry.version = .unknown)
    (here : ∀ address, entry.toAddress = .ok address → known address) :
    (directory.unregister entry).1.result = (partition.unregisterEntry entry).1 ∧
      Mirrors backend start keeps known (partition.unregisterEntry entry).2
        (directory.unregister entry).2 := by
  obtain ⟨lone, stands⟩ := mirrors
  cases read : entry.toAddress with
  | error fault =>
    simp only [Directory.unregister, Partition.unregisterEntry, read]
    exact ⟨trivial, lone, stands⟩
  | ok address =>
    have fit := (Entry.toAddress_fits read).1
    have placed := here address read
    have same : ∀ kept, partition.records address.toRecord.grain = some kept →
        kept.activation = address.toRecord.activation → kept = address.toRecord := by
      intro kept found activation
      rcases Partition.records_primary lone fit with ⟨_, absent⟩ | ⟨inst, _, registered, present⟩
      · exact absurd (found.symm.trans absent) (Option.some_ne_none kept)
      · obtain rfl := Option.some.inj (present.symm.trans found)
        have activations : inst.activation = address.activation := by
          have read := Activation.parse_toText inst.activation
          have texts : inst.activation.toText = address.activation.toText := activation
          rw [texts, Activation.parse_toText] at read
          exact (Option.some.inj read).symm
        rw [located _ _ registered placed rfl activations]
    obtain ⟨answered, left⟩ := Directory.unregister_stands lawful stands read untagged same
    rw [Partition.unregisterEntry_untagged read untagged, answered]
    exact ⟨rfl, Partition.unregister_lone lone address,
      (Partition.unregister_records located lone fit placed).symm ▸ left⟩

theorem lookup (lawful : backend.Keeps start keeps)
    (mirrors : Mirrors backend start keeps known partition directory) {text : String}
    {grain : Grain} (read : Grain.parse? text = some grain) :
    (EntryAnswer.found (directory.lookup text).1.result).untagged =
        (EntryAnswer.found (partition.lookupEntry text)).untagged ∧
      Mirrors backend start keeps known partition (directory.lookup text).2 := by
  obtain ⟨lone, stands⟩ := mirrors
  obtain ⟨fit, rfl⟩ := Grain.parse_eq_some.mp read
  obtain ⟨⟨version, answered⟩, left⟩ := Directory.lookup_stands lawful stands grain.toText
  obtain ⟨tag, looked⟩ := Partition.lookupEntry_records lone fit
  refine ⟨?_, lone, left⟩
  rw [answered, looked, Partition.records_grain partition fit]
  cases partition.primary? grain with
  | none => rfl
  | some inst =>
    simp only [Option.map_some, Directory.found, EntryAnswer.untagged, Except.map,
      Address.toAddress_toRecord (show (inst.address grain).grain.WellFormed from fit)]
    rfl

theorem answers_agree (lawful : backend.Keeps start keeps) (located : Partition.Located known)
    (mirrors : Mirrors backend start keeps known partition directory) (calls : List EntryCall)
    (untagged : ∀ call ∈ calls, call.Untagged)
    (here : ∀ address ∈ EntryCall.named calls, known address) :
    (EntryCall.answers Directory.serve directory calls).map EntryAnswer.untagged =
      (EntryCall.answers Partition.serve partition calls).map EntryAnswer.untagged := by
  induction calls generalizing partition directory with
  | nil => rfl
  | cons call rest ih =>
    have own : ∀ entry, call.entry? = some entry →
        ∀ address, entry.toAddress = .ok address → known address :=
      fun entry about address read =>
        here address (EntryCall.mem_named (List.mem_cons_self ..) about read)
    have plain := untagged call (List.mem_cons_self ..)
    have plains : ∀ call ∈ rest, call.Untagged :=
      fun call listed => untagged call (List.mem_cons_of_mem _ listed)
    have others : ∀ address ∈ EntryCall.named rest, known address := fun address listed =>
      here address (((List.sublist_cons_self call rest).filterMap _).subset listed)
    rw [EntryCall.answers, EntryCall.answers, List.map_cons, List.map_cons]
    cases call with
    | register entry =>
      obtain ⟨same, next⟩ := mirrors.register lawful located (own entry rfl)
      exact List.cons_eq_cons.mpr ⟨same, ih next plains others⟩
    | unregister entry =>
      obtain ⟨same, next⟩ := mirrors.unregister lawful located plain (own entry rfl)
      exact List.cons_eq_cons.mpr
        ⟨congrArg (EntryAnswer.untagged ∘ EntryAnswer.outcome) same, ih next plains others⟩
    | lookup text =>
      obtain ⟨grain, read⟩ := Option.isSome_iff_exists.mp plain
      obtain ⟨same, next⟩ := mirrors.lookup lawful read
      exact List.cons_eq_cons.mpr ⟨same, ih next plains others⟩

end Directory.Mirrors

namespace External

theorem answers_keyValue (directory : Directory KeyValueStore) (calls : List EntryCall) :
    EntryCall.answers External.serve (.keyValue directory) calls =
      EntryCall.answers Directory.serve directory calls := by
  induction calls generalizing directory with
  | nil => rfl
  | cons call rest ih => cases call <;> exact List.cons_eq_cons.mpr ⟨rfl, ih _⟩

theorem answers_table (directory : Directory TableStore) (calls : List EntryCall) :
    EntryCall.answers External.serve (.table directory) calls =
      EntryCall.answers Directory.serve directory calls := by
  induction calls generalizing directory with
  | nil => rfl
  | cons call rest ih => cases call <;> exact List.cons_eq_cons.mpr ⟨rfl, ih _⟩

end External

-- Fresh directories of all three kinds, spoken to in the same entries without tags.
theorem directories_agree (cluster : String) (retry : Retry) {calls : List EntryCall}
    (untagged : ∀ call ∈ calls, call.Untagged) (placed : EntryCall.Placed calls) :
    (EntryCall.answers External.serve (.openKeyValue cluster retry) calls).map
          EntryAnswer.untagged =
        (EntryCall.answers Partition.serve .empty calls).map EntryAnswer.untagged ∧
      (EntryCall.answers External.serve (.openTable cluster retry) calls).map
          EntryAnswer.untagged =
        (EntryCall.answers Partition.serve .empty calls).map EntryAnswer.untagged := by
  have located : Partition.Located (· ∈ EntryCall.named calls) := by
    intro address other here there grain activation
    have silo := placed address here other there grain activation
    cases address
    cases other
    cases grain
    cases activation
    cases silo
    rfl
  have lone : Partition.empty.Lone (· ∈ EntryCall.named calls) := fun _ _ found => nomatch found
  have blank : Partition.empty.records = .none := by
    funext text
    cases read : Grain.parse? text <;> simp [Partition.records, read, Partition.primary?,
      Records.none]
  refine ⟨?_, ?_⟩
  · rw [External.openKeyValue, External.answers_keyValue]
    exact Directory.Mirrors.answers_agree (KeyValueStore.keeps cluster) located
      ⟨lone, rfl, .inr ⟨rfl, rfl, blank⟩⟩ calls untagged fun _ => id
  · rw [External.openTable, External.answers_table]
    exact Directory.Mirrors.answers_agree (TableStore.keeps cluster) located
      ⟨lone, rfl, .inr ⟨rfl, rfl, blank⟩⟩ calls untagged fun _ => id

namespace Solo

def entry (silo activation : String) : Entry := ⟨"user/1", "1," ++ activation ++ "," ++ silo, ""⟩

def first : String := "10.0.0.1:100@1"

def second : String := "10.0.0.2:100@1"

def rivalry : List EntryCall :=
  [.register (entry first "a"), .register (entry second "b"), .register (entry "nowhere" "c"),
    .unregister (entry second "b"), .lookup "user/1", .unregister (entry first "a"),
    .lookup "user/1"]

def registered : Entry := entry first "0000000000000000000000000000000a"

def rivalryAnswers : List EntryAnswer :=
  [.outcome (.success registered), .outcome (.redirect (entry second "b") registered),
    .outcome (.failure (entry "nowhere" "c") (.parse (.silo "nowhere"))),
    .outcome (.success (entry second "b")), .found (.ok (some registered)),
    .outcome (.success (entry first "a")), .found (.ok none)]

theorem rivalry_agrees :
    (EntryCall.answers External.serve (.openKeyValue "main" ⟨3, 100⟩) rivalry).map
        EntryAnswer.untagged = rivalryAnswers ∧
      (EntryCall.answers External.serve (.openTable "main" ⟨3, 100⟩) rivalry).map
        EntryAnswer.untagged = rivalryAnswers := by
  have answered : (EntryCall.answers Partition.serve .empty rivalry).map EntryAnswer.untagged =
      rivalryAnswers := by rfl
  have untagged : ∀ call ∈ rivalry, call.Untagged := by decide +kernel
  have agree := directories_agree "main" ⟨3, 100⟩ untagged (by decide +kernel)
  exact ⟨agree.1.trans answered, agree.2.trans answered⟩

end Solo
end ActorDirectory
