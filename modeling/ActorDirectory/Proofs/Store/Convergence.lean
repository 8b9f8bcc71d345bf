import ActorDirectory.Proofs.Store.Batches
import ActorDirectory.Proofs.Store.Contract
import ActorDirectory.Proofs.Store.Lodging

-- Registrations that are made at once come to one winner for each grain: what is stored stays,
-- and every answer is what is stored.
namespace ActorDirectory

section Turns

variable {σ κ : Type} {backend : Backend σ} {stored : σ → Contents κ}
  {answer : κ → Except BackendFault (Record × Version)} {calm : σ → σ} {retry : Retry}
  {record : Record} {store : σ} {element : Element σ (Record × Version)} {shared : Shared σ}

theorem Retry.attempts_lodges (lawful : backend.Lawful stored answer calm)
    {result : Option (Record × Version) × σ}
    (attempts : Attempts (backend.register record) store result) :
    Contents.Lodges answer record (stored store) (stored result.2) result.1 := by
  induction attempts with
  | @answered store _ _ called =>
    have lodges := lawful.register record store
    rwa [called] at lodges
  | @failed store _ _ called =>
    have lodges := lawful.register record store
    rwa [called] at lodges
  | @again store _ _ _ called _ ih =>
    have lodges := lawful.register record store
    rw [called] at lodges
    rwa [Contents.lodges_failed lodges] at ih

theorem Retry.attempts_prepare (lawful : backend.Lawful stored answer calm)
    {result : Option Unit × σ} (attempts : Attempts backend.prepare store result) :
    stored result.2 = stored store := by
  induction attempts with
  | @answered store _ _ called =>
    have kept := lawful.prepare store
    rwa [called] at kept
  | @failed store _ _ called =>
    have kept := lawful.prepare store
    rwa [called] at kept
  | @again store _ _ _ called _ ih =>
    have kept := lawful.prepare store
    rw [called] at kept
    exact ih.trans kept

namespace Element

theorem callStore_lodges (lawful : backend.Lawful stored answer calm)
    (asks : element.call = backend.register record) (made : Nat) (shared : Shared σ) :
    Contents.Lodges answer record (stored shared.store)
      (stored (element.callStore retry made shared).2.store)
      (element.callStore retry made shared).1.phase.value? := by
  have attempts := Retry.resume_attempts retry element.call made shared.store
  rw [asks] at attempts
  have lodges := Retry.attempts_lodges lawful attempts
  rw [callStore, asks]
  split
  · rename_i result _ ended
    rw [ended] at lodges
    cases result <;> exact lodges
  · rename_i ended
    rw [ended] at lodges
    exact lodges

theorem prepare_lodges (lawful : backend.Lawful stored answer calm)
    (asks : element.call = backend.register record) (made : Nat) (shared : Shared σ) :
    Contents.Lodges answer record (stored shared.store)
      (stored (element.prepare retry backend made shared).2.store)
      (element.prepare retry backend made shared).1.phase.value? := by
  have kept := Retry.attempts_prepare lawful
    (Retry.resume_attempts retry backend.prepare made shared.store)
  rw [prepare]
  split
  · rename_i store ended
    rw [ended] at kept
    exact kept ▸ callStore_lodges lawful asks 0 ⟨store, true, false⟩
  · rename_i ended
    rw [ended] at kept
    exact .failed kept
  · rename_i ended
    rw [ended] at kept
    exact .failed kept

theorem turn_lodges (retry : Retry) (lawful : backend.Lawful stored answer calm)
    (asks : element.call = backend.register record) (unanswered : element.phase.value? = none)
    (shared : Shared σ) :
    Contents.Lodges answer record (stored shared.store)
      (stored (element.turn retry backend shared).2.store)
      (element.turn retry backend shared).1.phase.value? := by
  rw [turn]
  split
  · rw [unanswered]
    exact .failed rfl
  · exact callStore_lodges lawful asks _ shared
  · exact prepare_lodges lawful asks _ shared
  · rename_i waiting
    split
    · exact callStore_lodges lawful asks 0 shared
    · split
      · rw [unanswered]
        exact .failed rfl
      · exact prepare_lodges lawful asks 0 shared

theorem turn_told {result : Record × Version} (told : element.phase.value? = some result) :
    element.turn retry backend shared = (element, shared) := by
  cases phase : element.phase with
  | done => rw [turn, phase]
  | _ => rw [phase] at told; cases told

end Element
end Turns

namespace Batch

variable {σ κ : Type} {backend : Backend σ} {stored : σ → Contents κ}
  {answer : κ → Except BackendFault (Record × Version)} {calm : σ → σ} {retry : Retry}
  {asked : List (Except Fault Record)} {before : Contents κ}
  {state after : List (Element σ (Record × Version)) × Shared σ}

-- The calls so far: what was asked for at each place, what each place was told, and whom a
-- change of the contents is due to.
structure Tally (backend : Backend σ) (stored : σ → Contents κ)
    (answer : κ → Except BackendFault (Record × Version)) (asked : List (Except Fault Record))
    (before : Contents κ) (state : List (Element σ (Record × Version)) × Shared σ) : Prop where
  length : state.1.length = asked.length
  asks : ∀ (number : Nat) (element : Element σ (Record × Version)),
    state.1[number]? = some element →
      (∃ record, asked[number]? = some (.ok record) ∧
        element.call = backend.register record) ∨
      ∃ fault, asked[number]? = some (.error fault) ∧ element.phase = .done (.error fault)
  told : ∀ (number : Nat) (element : Element σ (Record × Version)) (record : Record)
    (result : Record × Version), state.1[number]? = some element →
      asked[number]? = some (.ok record) → element.phase.value? = some result →
        ∃ kept, stored state.2.store record.grain = some kept ∧ answer kept = .ok result
  changed : ∀ grain, stored state.2.store grain = before grain ∨
    ∃ (number : Nat) (element : Element σ (Record × Version)) (record : Record)
      (version : Version), state.1[number]? = some element ∧
        asked[number]? = some (.ok record) ∧ record.grain = grain ∧
        element.phase.value? = some (record, version)

theorem found_in_set {α : Type} {items : List α} {number place : Nat} {later other : α}
    (found : (items.set number later)[place]? = some other) :
    place = number ∧ other = later ∨ place ≠ number ∧ items[place]? = some other := by
  rw [List.getElem?_set] at found
  split at found
  · rename_i same
    split at found
    · exact .inl ⟨same.symm, (Option.some.inj found).symm⟩
    · cases found
  · rename_i differs
    exact .inr ⟨Ne.symm differs, found⟩

theorem set_tally {elements : List (Element σ (Record × Version))} {shared next : Shared σ}
    {number : Nat} {element later : Element σ (Record × Version)} {record : Record}
    (tally : Tally backend stored answer asked before (elements, shared))
    (found : elements[number]? = some element) (unanswered : element.phase.value? = none)
    (asking : asked[number]? = some (.ok record)) (asks : later.call = backend.register record)
    (lodges : Contents.Lodges answer record (stored shared.store) (stored next.store)
      later.phase.value?) :
    Tally backend stored answer asked before (elements.set number later, next) := by
  refine ⟨by simpa using tally.length, ?_, ?_, ?_⟩
  · intro place other there
    rcases found_in_set there with ⟨rfl, rfl⟩ | ⟨_, there⟩
    · exact .inl ⟨record, asking, asks⟩
    · exact tally.asks place other there
  · intro place other name result there named told
    rcases found_in_set there with ⟨rfl, rfl⟩ | ⟨_, there⟩
    · cases Option.some.inj (asking.symm.trans named)
      rw [told] at lodges
      exact Contents.lodges_tells lodges
    · obtain ⟨kept, holds, answers⟩ := tally.told place other name result there named told
      exact ⟨kept, Contents.lodges_keeps lodges holds, answers⟩
  · intro grain
    rcases Contents.lodges_changes lodges grain with kept | ⟨own, version, told⟩
    · rcases tally.changed grain with before | ⟨place, other, name, version, there, rest⟩
      · exact .inl (kept.trans before)
      · -- Whoever changed them before has an answer, so it is another place.
        have apart : place ≠ number := by
          rintro rfl
          cases found.symm.trans there
          cases unanswered.symm.trans rest.2.2
        exact .inr ⟨place, other, name, version,
          by rwa [List.getElem?_set_ne (Ne.symm apart)], rest⟩
    · have inside := (List.getElem?_eq_some_iff.mp found).1
      exact .inr ⟨number, later, record, version, by simp [inside], asking, own, told⟩

theorem turn_tally (lawful : backend.Lawful stored answer calm)
    {elements : List (Element σ (Record × Version))} {shared : Shared σ} {number : Nat}
    {element : Element σ (Record × Version)} (found : elements[number]? = some element)
    (tally : Tally backend stored answer asked before (elements, shared)) :
    Tally backend stored answer asked before
      (elements.set number (element.turn retry backend shared).1,
        (element.turn retry backend shared).2) := by
  obtain ⟨_, same⟩ := List.getElem?_eq_some_iff.mp found
  have unmoved : elements.set number element = elements := by rw [← same, List.set_getElem_self]
  rcases tally.asks number element found with ⟨record, asking, asks⟩ | ⟨fault, _, refused⟩
  · cases status : element.phase.value? with
    | some result => rwa [Element.turn_told status, unmoved]
    | none =>
      exact set_tally tally found status asking
        ((Element.turn_call retry backend element shared).trans asks)
        (Element.turn_lodges retry lawful asks status shared)
  · have still : element.turn retry backend shared = (element, shared) := by
      rw [Element.turn, refused]
    rwa [still, unmoved]

theorem works_tally (lawful : backend.Lawful stored answer calm)
    (works : Works retry backend state after)
    (tally : Tally backend stored answer asked before state) :
    Tally backend stored answer asked before after :=
  works_induction (fun _ _ _ _ found tally => turn_tally lawful found tally) works tally

end Batch

namespace Directory

variable {σ κ : Type} {stored : σ → Contents κ}
  {answer : κ → Except BackendFault (Record × Version)} {calm : σ → σ}
  {directory : Directory σ} {entries : List Entry} {entry : Entry} {address : Address}
  {after : List (Element σ (Record × Version)) × Shared σ}

def registrations (directory : Directory σ) (entries : List Entry) :
    List (Except Fault (Call σ BackendFault (Record × Version))) :=
  entries.map fun entry =>
    (addressOf entry).map fun address => directory.backend.register address.toRecord

def outcome (entry : Entry) (result : Except Fault (Record × Version)) : Outcome :=
  match addressOf entry with
  | .error fault => .failure entry fault
  | .ok address => registered entry address result

def outcomes (entries : List Entry) (after : List (Element σ (Record × Version)) × Shared σ) :
    List Outcome :=
  List.zipWith outcome entries (after.1.map (·.phase.result))

theorem registerMany_ends (directory : Directory σ) (entries : List Entry) :
    ∃ after, directory.Ends (directory.registrations entries) after ∧
      (directory.registerMany entries).1.result = outcomes entries after ∧
      (directory.registerMany entries).2 = directory.resting after := by
  obtain ⟨after, ends, told, rests⟩ := directory.callMany_ends (directory.registrations entries)
  exact ⟨after, ends, congrArg (List.zipWith outcome entries) told, rests⟩

def asked (entries : List Entry) : List (Except Fault Record) :=
  entries.map fun entry => (addressOf entry).map Address.toRecord

theorem asked_eq_some {number : Nat} {record : Record} :
    (asked entries)[number]? = some (.ok record) ↔ ∃ entry address,
      entries[number]? = some entry ∧ addressOf entry = .ok address ∧
        address.toRecord = record := by
  rw [asked, List.getElem?_map]
  cases found : entries[number]? with
  | none => simp
  | some entry => cases read : addressOf entry <;> simp [read, Except.map]

theorem begun_tally (directory : Directory σ) (entries : List Entry) :
    Batch.Tally directory.backend stored answer (asked entries) (stored directory.store)
      (directory.begun (directory.registrations entries)) := by
  have start : ∀ (number : Nat) (element : Element σ (Record × Version)),
      (directory.begun (directory.registrations entries)).1[number]? = some element →
        ∃ entry, entries[number]? = some entry ∧
          ((∃ address, addressOf entry = .ok address ∧
            element = ⟨directory.backend.register address.toRecord, .waiting⟩) ∨
          ∃ fault, addressOf entry = .error fault ∧ element.phase = .done (.error fault)) := by
    intro number element found
    simp only [begun, registrations, List.map_map, List.getElem?_map,
      Option.map_eq_some_iff] at found
    obtain ⟨entry, there, rfl⟩ := found
    refine ⟨entry, there, ?_⟩
    cases read : addressOf entry with
    | ok address => exact .inl ⟨address, rfl, by simp [read, Except.map]⟩
    | error fault => exact .inr ⟨fault, rfl, by simp [read, Except.map]⟩
  refine ⟨by simp [begun, registrations, asked], ?_, ?_, fun _ => .inl rfl⟩
  · intro number element found
    obtain ⟨entry, there, ⟨address, read, rfl⟩ | ⟨fault, read, refused⟩⟩ :=
      start number element found
    · exact .inl ⟨address.toRecord, asked_eq_some.mpr ⟨entry, address, there, read, rfl⟩, rfl⟩
    · exact .inr ⟨fault, by simp [asked, there, read, Except.map], refused⟩
  · intro number element record result found _ told
    obtain ⟨_, _, ⟨_, _, rfl⟩ | ⟨_, _, refused⟩⟩ := start number element found
    · cases told
    · rw [refused] at told
      cases told

end Directory

inductive Outcome.Answers (entry : Entry) : Outcome → Prop where
  | success {address : Address} (version : Version) : entry.toAddress = .ok address →
      Answers entry (.success (.ofAddress address version))
  | redirect (actual : Entry) : Answers entry (.redirect entry actual)
  | failure (cause : Fault) : Answers entry (.failure entry cause)

structure Directory.Converged {σ κ : Type} (stored : σ → Contents κ) (calm : σ → σ)
    (directory : Directory σ) (entries : List Entry) (outcomes : List Outcome)
    (next : Directory σ) : Prop where
  length : outcomes.length = entries.length
  places : ∀ pair ∈ entries.zip outcomes, Outcome.Answers pair.1 pair.2
  agree : ∀ pair ∈ entries.zip outcomes, ∀ other ∈ entries.zip outcomes,
    pair.1.grain = other.1.grain → ∀ winner rival, pair.2.authoritative? = some winner →
      other.2.authoritative? = some rival → winner = rival
  looked : ∀ pair ∈ entries.zip outcomes, ∀ winner, pair.2.authoritative? = some winner →
    ({ next with store := calm next.store }.lookup pair.1.grain).1.result = .ok (some winner)
  untouched : ∀ grain, (∀ pair ∈ entries.zip outcomes, pair.1.grain = grain →
    pair.2.authoritative? = none) → stored next.store grain = stored directory.store grain

namespace Directory

variable {σ κ : Type} {stored : σ → Contents κ}
  {answer : κ → Except BackendFault (Record × Version)} {calm : σ → σ}
  {directory : Directory σ} {entries : List Entry} {entry : Entry} {address : Address}
  {after : List (Element σ (Record × Version)) × Shared σ}

theorem outcome_answers (entry : Entry) (result : Except Fault (Record × Version)) :
    Outcome.Answers entry (outcome entry result) := by
  rw [outcome]
  split
  · exact .failure _
  · rename_i address read
    cases result with
    | error fault => exact .failure _
    | ok stored =>
      simp only [registered]
      split
      · exact .failure _
      · split
        · rename_i same
          subst same
          exact .success _ (addressOf_eq_ok.mp read)
        · exact .redirect _

theorem outcome_winner {result : Except Fault (Record × Version)} {winner : Entry}
    (won : (outcome entry result).authoritative? = some winner) :
    ∃ address stored, addressOf entry = .ok address ∧ result = .ok stored ∧
      found (.ok (some stored)) = .ok (some winner) := by
  rw [outcome] at won
  split at won
  · cases won
  · rename_i address read
    cases result with
    | error fault => cases won
    | ok stored =>
      refine ⟨address, stored, read, rfl, ?_⟩
      simp only [registered] at won
      simp only [found]
      split at won
      · cases won
      · split at won
        · cases won
          rfl
        · cases won
          rfl

theorem outcome_lodged (fits : address.grain.WellFormed) (read : addressOf entry = .ok address)
    (version : Version) :
    (outcome entry (.ok (address.toRecord, version))).authoritative? =
      some (.ofAddress address version) := by
  simp [outcome, read, registered, Address.toAddress_toRecord fits, Outcome.authoritative?]

theorem addressOf_grain (read : addressOf entry = .ok address) :
    address.grain.WellFormed ∧ address.toRecord.grain = entry.grain :=
  Entry.toAddress_fits (addressOf_eq_ok.mp read)

theorem mem_outcomes {pair : Entry × Outcome} : pair ∈ entries.zip (outcomes entries after) ↔
    ∃ (number : Nat) (element : Element σ (Record × Version)),
      entries[number]? = some pair.1 ∧ after.1[number]? = some element ∧
        pair.2 = outcome pair.1 element.phase.result := by
  obtain ⟨entry, result⟩ := pair
  simp only [List.mem_iff_getElem?, List.getElem?_zip_eq_some, outcomes,
    List.getElem?_zipWith_eq_some, List.getElem?_map, Option.map_eq_some_iff]
  constructor
  · rintro ⟨number, there, other, _, again, ⟨element, found, rfl⟩, rfl⟩
    cases there.symm.trans again
    exact ⟨number, element, there, found, rfl⟩
  · rintro ⟨number, element, there, found, rfl⟩
    exact ⟨number, there, entry, _, there, ⟨element, found, rfl⟩, rfl⟩

theorem lookup_kept (lawful : directory.backend.Lawful stored answer calm) {grain : String}
    {kept : κ} {result : Record × Version} (there : stored directory.store grain = some kept)
    (answers : answer kept = .ok result) :
    ({ directory with store := calm directory.store }.lookup grain).1.result =
      found (.ok (some result)) := by
  cases ready : directory.isReady with
  | true =>
    obtain ⟨next, called⟩ := lawful.lookup directory.store grain kept there
    rw [answers] at called
    simp [lookup, call, ensureReady, Retry.run_ok directory.retry called]
  | false =>
    obtain ⟨store, prepared, still⟩ := lawful.ready directory.store
    have same : stored store = stored directory.store := by
      have kept := lawful.prepare (calm directory.store)
      rw [prepared] at kept
      exact kept.trans (lawful.calms directory.store)
    obtain ⟨next, called⟩ := lawful.lookup store grain kept (same ▸ there)
    rw [answers, still] at called
    simp [lookup, call, ensureReady, Retry.run_ok directory.retry prepared,
      Retry.run_ok directory.retry called, Except.isOk, Except.toBool]

theorem ends_converged (lawful : directory.backend.Lawful stored answer calm)
    (ends : directory.Ends (directory.registrations entries) after) :
    directory.Converged stored calm entries (outcomes entries after) (directory.resting after) := by
  have tally := Batch.works_tally lawful ends.works (begun_tally directory entries)
  have length : after.1.length = entries.length := by simpa [asked] using tally.length
  have looked : ∀ pair ∈ entries.zip (outcomes entries after), ∀ winner,
      pair.2.authoritative? = some winner →
        ({ directory.resting after with store := calm after.2.store }.lookup pair.1.grain).1.result
          = .ok (some winner) := by
    intro pair present winner won
    obtain ⟨number, element, there, found, same⟩ := mem_outcomes.mp present
    rw [same] at won
    obtain ⟨address, result, read, told, reported⟩ := outcome_winner won
    have asking := asked_eq_some.mpr ⟨pair.1, address, there, read, rfl⟩
    obtain ⟨kept, holds, answers⟩ := tally.told number element _ result found asking
      (Phase.result_eq_ok.mp told)
    rw [(addressOf_grain read).2] at holds
    have stillLawful : (directory.resting after).backend.Lawful stored answer calm := lawful
    exact (lookup_kept stillLawful holds answers).trans reported
  refine ⟨?_, ?_, ?_, looked, ?_⟩
  · simp [outcomes, length]
  · intro pair present
    obtain ⟨_, element, _, _, same⟩ := mem_outcomes.mp present
    rw [same]
    exact outcome_answers pair.1 element.phase.result
  · intro pair present other rivalPresent alike winner rival won second
    have one := looked pair present winner won
    have two := looked other rivalPresent rival second
    rw [alike, two] at one
    exact (Option.some.inj (Except.ok.inj one)).symm
  · intro grain failed
    rcases tally.changed grain with kept |
      ⟨number, element, record, version, found, asking, own, told⟩
    · exact kept
    · obtain ⟨entry, address, there, read, rfl⟩ := asked_eq_some.mp asking
      obtain ⟨fits, same⟩ := addressOf_grain read
      have unlodged := failed (entry, outcome entry element.phase.result)
        (mem_outcomes.mpr ⟨number, element, there, found, rfl⟩) (same.symm.trans own)
      rw [Phase.result_eq_ok.mpr told, outcome_lodged fits read] at unlodged
      cases unlodged

-- A batch converges as it is made, and in whatever order else its calls may take turns.
structure Converges {σ κ : Type} (stored : σ → Contents κ) (calm : σ → σ)
    (directory : Directory σ) (entries : List Entry) : Prop where
  batch : directory.Converged stored calm entries (directory.registerMany entries).1.result
    (directory.registerMany entries).2
  anyhow : ∀ after, directory.Ends (directory.registrations entries) after →
    directory.Converged stored calm entries (outcomes entries after) (directory.resting after)

theorem lawful_converges (lawful : directory.backend.Lawful stored answer calm)
    (entries : List Entry) : directory.Converges stored calm entries := by
  obtain ⟨after, ends, told, rests⟩ := directory.registerMany_ends entries
  refine ⟨?_, fun _ => ends_converged lawful⟩
  rw [told, rests]
  exact ends_converged lawful ends

end Directory

-- Whatever the store has, however many faults are to come, however often calls are made again
-- and whether or not the directory was used before.
theorem batches_converge (cluster : String) (retry : Retry) (isReady : Bool)
    (entries : List Entry) (pairs : KeyValueStore) (table : TableStore) :
    (⟨KeyValueStore.client.backend cluster, retry, pairs, isReady⟩ :
      Directory KeyValueStore).Converges (KeyValueStore.contents cluster) KeyValueStore.calm
        entries ∧
    (⟨TableStore.client.backend cluster, retry, table, isReady⟩ :
      Directory TableStore).Converges (TableStore.contents cluster) TableStore.calm entries :=
  ⟨Directory.lawful_converges (KeyValueStore.lawful cluster) entries,
    Directory.lawful_converges (TableStore.lawful cluster) entries⟩

example : ((⟨TableStore.client.backend "main", ⟨3, 100⟩, { rows := some .empty, faults := 1 },
      true⟩ : Directory TableStore).registerMany
        [⟨"user/1", "1,a,10.0.0.1:100@1", ""⟩, ⟨"user/1", "1,b,10.0.0.2:100@1", ""⟩]).1.result =
    [.redirect ⟨"user/1", "1,a,10.0.0.1:100@1", ""⟩
        ⟨"user/1", "1,0000000000000000000000000000000b,10.0.0.2:100@1", "2"⟩,
      .success ⟨"user/1", "1,0000000000000000000000000000000b,10.0.0.2:100@1", "2"⟩] := by
  decide +kernel

end ActorDirectory
