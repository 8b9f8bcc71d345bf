import ActorDirectory.Proofs.Store.Framing

-- What a store that only one directory has used has under a grain is about that grain.
namespace ActorDirectory

def Call.Keeps {σ ε α : Type} (holds : σ → Prop) (call : Call σ ε α) : Prop :=
  ∀ store, holds store → holds (call store).2

structure Backend.Upholds {σ : Type} (backend : Backend σ) (holds : σ → Prop) : Prop where
  prepare : Call.Keeps holds backend.prepare
  register : ∀ record, Call.Keeps holds (backend.register record)
  unregister : ∀ record version, Call.Keeps holds (backend.unregister record version)
  lookup : ∀ grain, Call.Keeps holds (backend.lookup grain)

section Calls

variable {σ α : Type} {holds : σ → Prop} {backend : Backend σ} {call : Call σ BackendFault α}
  {directory : Directory σ} {store : σ}

namespace Retry

theorem attempts_keeps (keeps : Call.Keeps holds call) {result : Option α × σ}
    (attempts : Attempts call store result) (held : holds store) : holds result.2 ∧
      ∀ value, result.1 = some value → ∃ earlier, holds earlier ∧ (call earlier).1 = .ok value := by
  induction attempts with
  | @answered store _ _ called =>
    have after := keeps store held
    rw [called] at after
    refine ⟨after, fun value same => ⟨store, held, ?_⟩⟩
    cases same
    exact congrArg Prod.fst called
  | @failed store _ _ called =>
    have after := keeps store held
    rw [called] at after
    exact ⟨after, nofun⟩
  | @again store next _ _ called _ ih =>
    have middle := keeps store held
    rw [called] at middle
    exact ih middle

end Retry

namespace Directory

theorem ensureReady_keeps (upholds : directory.backend.Upholds holds)
    (held : holds directory.store) : holds directory.ensureReady.2.store := by
  rw [ensureReady]
  split
  · exact held
  · exact (Retry.attempts_keeps upholds.prepare (Retry.runFrom_attempts ..) held).1

theorem call_keeps (upholds : directory.backend.Upholds holds) (keeps : Call.Keeps holds call)
    (held : holds directory.store) : holds (directory.call call).2.store := by
  have readied := ensureReady_keeps upholds held
  rw [Directory.call]
  dsimp only
  split
  · exact readied
  · exact (Retry.attempts_keeps keeps (Retry.runFrom_attempts ..) readied).1

theorem call_answer (upholds : directory.backend.Upholds holds) (keeps : Call.Keeps holds call)
    (held : holds directory.store) {value : α}
    (answered : (directory.call call).1.result = .ok value) :
    ∃ store, holds store ∧ (call store).1 = .ok value := by
  have readied := ensureReady_keeps upholds held
  rw [Directory.call] at answered
  dsimp only at answered
  split at answered
  · cases answered
  · have attempts := Retry.runFrom_attempts call directory.ensureReady.2.retry.further 0
      directory.ensureReady.2.store
    simp only [Retry.run] at answered
    rw [answered] at attempts
    exact (Retry.attempts_keeps keeps attempts readied).2 value rfl

theorem call_backend (directory : Directory σ) (call : Call σ BackendFault α) :
    (directory.call call).2.backend = directory.backend := by
  rw [Directory.call, ensureReady]
  dsimp only
  split <;> split <;> rfl

end Directory

namespace Element

variable {element : Element σ α} {shared : Shared σ} {retry : Retry}

theorem callStore_keeps (keeps : Call.Keeps holds element.call) (made : Nat)
    (held : holds shared.store) : holds (element.callStore retry made shared).2.store := by
  have resumed := (Retry.attempts_keeps keeps
    (Retry.resume_attempts retry element.call made shared.store) held).1
  rw [callStore]
  split <;> rename_i called <;> rw [called] at resumed <;> exact resumed

theorem prepare_keeps (upholds : backend.Upholds holds) (keeps : Call.Keeps holds element.call)
    (made : Nat) (held : holds shared.store) :
    holds (element.prepare retry backend made shared).2.store := by
  have resumed := (Retry.attempts_keeps upholds.prepare
    (Retry.resume_attempts retry backend.prepare made shared.store) held).1
  rw [prepare]
  split <;> rename_i called <;> rw [called] at resumed
  · exact callStore_keeps keeps 0 resumed
  · exact resumed
  · exact resumed

theorem turn_keeps (upholds : backend.Upholds holds) (keeps : Call.Keeps holds element.call)
    (held : holds shared.store) : holds (element.turn retry backend shared).2.store := by
  rw [turn]
  split
  · exact held
  · exact callStore_keeps keeps _ held
  · exact prepare_keeps upholds keeps _ held
  · split
    · exact callStore_keeps keeps 0 held
    · split
      · exact held
      · exact prepare_keeps upholds keeps 0 held

end Element

namespace Directory

theorem callMany_keeps (upholds : directory.backend.Upholds holds)
    {calls : List (Except Fault (Call σ BackendFault α))}
    (keep : ∀ call, .ok call ∈ calls → Call.Keeps holds call) (held : holds directory.store) :
    holds (directory.callMany calls).2.store := by
  obtain ⟨after, ends, _, same⟩ := callMany_ends directory calls
  have both := Batch.works_induction
    (motive := fun state => (∀ element ∈ state.1, Call.Keeps holds element.call) ∧
      holds state.2.store) ?_ ends.works ⟨?_, held⟩
  · exact same ▸ both.2
  · rintro elements shared number element found ⟨keep, held⟩
    have keeps := keep element (List.mem_of_getElem? found)
    refine ⟨fun other present => ?_, Element.turn_keeps upholds keeps held⟩
    rcases List.mem_or_eq_of_mem_set present with earlier | rfl
    · exact keep other earlier
    · rw [Element.turn_call]
      exact keeps
  · intro element present
    obtain ⟨call, listed, rfl⟩ := List.mem_map.mp present
    cases call with
    | ok call => exact keep call listed
    | error fault => exact fun _ held => held

end Directory
end Calls

namespace Contents

variable {κ : Type} {answer : κ → Except BackendFault (Record × Version)} {record : Record}
  {before after : Contents κ} {result : Record × Version}

def Truthful (answer : κ → Except BackendFault (Record × Version)) (contents : Contents κ) : Prop :=
  ∀ grain kept, contents grain = some kept →
    ∃ record version, answer kept = .ok (record, version) ∧ record.grain = grain

theorem lodges_truthful {outcome : Option (Record × Version)}
    (lodges : Lodges answer record before after outcome) (truthful : Truthful answer before) :
    Truthful answer after := by
  cases lodges with
  | failed same => exact same ▸ truthful
  | found same => exact same ▸ truthful
  | @inserted kept version _ lodged answers =>
    intro grain other there
    rw [lodged, put] at there
    split at there
    · rename_i same
      cases there
      exact ⟨record, version, answers, same.symm⟩
    · exact truthful grain other there

theorem lodges_grain (lodges : Lodges answer record before after (some result))
    (truthful : Truthful answer before) : result.1.grain = record.grain := by
  obtain ⟨kept, there, answers⟩ := lodges_tells lodges
  obtain ⟨other, version, told, same⟩ := lodges_truthful lodges truthful record.grain kept there
  cases answers.symm.trans told
  exact same

theorem truthful_fewer (fewer : ∀ grain kept, after grain = some kept → before grain = some kept)
    (truthful : Truthful answer before) : Truthful answer after :=
  fun grain kept there => truthful grain kept (fewer grain kept there)

end Contents

structure Backend.Truthful {σ : Type} (backend : Backend σ) (holds : σ → Prop) : Prop
    extends backend.Upholds holds where
  tells : ∀ record store result, holds store → (backend.register record store).1 = .ok result →
    result.1.grain = record.grain

section Laws

variable {σ κ ν : Type} {backend : Backend σ} {stored : σ → Contents κ} {calm : σ → σ}
  {answer : κ → Except BackendFault (Record × Version)} {shown : σ → Shown ν κ}
  {place : String → ν} {orderly : Shown ν κ → Prop}

theorem Shown.settles_fewer {α ε : Type} {before after : Shown ν κ} {key other : ν} {kept : κ}
    {result : Except ε α} (settles : Settles before (fun _ after => Empties key before after)
      result after) (there : after other = some kept) : before other = some kept := by
  cases settles with
  | failed same => exact same ▸ there
  | answered empties =>
    rcases empties other with same | ⟨_, gone⟩
    · exact same ▸ there
    · cases gone.symm.trans there

theorem Backend.truthful_of (lawful : backend.Lawful stored answer calm)
    (framed : backend.Framed shown place orderly)
    (seen : ∀ store grain, stored store grain = shown store (place grain))
    (registered : ∀ record, Call.Keeps (orderly ∘ shown) (backend.register record))
    (fewer : ∀ before after, (∀ key kept, after key = some kept → before key = some kept) →
      orderly before → orderly after) :
    backend.Truthful fun store =>
      orderly (shown store) ∧ Contents.Truthful answer (stored store) := by
  have same : ∀ {store after : σ}, shown after = shown store →
      orderly (shown store) ∧ Contents.Truthful answer (stored store) →
        orderly (shown after) ∧ Contents.Truthful answer (stored after) := by
    rintro store after same ⟨order, truthful⟩
    refine ⟨same ▸ order, Contents.truthful_fewer (fun grain kept there => ?_) truthful⟩
    rwa [seen, ← same, ← seen]
  refine ⟨⟨fun store => same (framed.prepare store), fun record store held => ?_,
    fun record version store held => ?_, fun grain store => same (framed.lookup grain store)⟩,
    fun record store result held told => ?_⟩
  · exact ⟨registered record store held.1,
      Contents.lodges_truthful (lawful.register record store) held.2⟩
  · have settles := framed.unregister record version _ held.1 store rfl
    refine ⟨fewer _ _ (fun _ _ => Shown.settles_fewer settles) held.1,
      Contents.truthful_fewer (fun grain kept there => ?_) held.2⟩
    rw [seen] at there ⊢
    exact Shown.settles_fewer settles there
  · have lodges := lawful.register record store
    rw [told] at lodges
    exact Contents.lodges_grain lodges held.2

end Laws

-- What makes a backend truthful, from a new store on and whatever faults are to come.
def Backend.StaysTruthful {σ : Type} (backend : Backend σ) (start : σ) (arm : Nat → σ → σ) : Prop :=
  ∃ holds, backend.Truthful holds ∧ holds start ∧ ∀ faults, ∀ store, holds store →
    holds (arm faults store)

namespace KeyValueStore

def arm (faults : Nat) (store : KeyValueStore) : KeyValueStore := { store with faults }

theorem truthful (cluster : String) : (client.backend cluster).StaysTruthful {} arm :=
  ⟨_, Backend.truthful_of (lawful cluster) (framed cluster) (fun _ _ => rfl)
    (fun _ _ _ => trivial) fun _ _ _ _ => trivial, ⟨trivial, nofun⟩, fun _ _ => id⟩

end KeyValueStore

namespace TableStore

def arm (faults : Nat) (store : TableStore) : TableStore := { store with faults }

theorem register_orderly (cluster : String) (record : Record) :
    Call.Keeps (Orderly ∘ row?) ((client.backend cluster).register record) := by
  intro store orderly
  have registers := register_registers cluster record store
  change Orderly (client.register cluster record store).2.row?
  generalize client.register cluster record store = called at registers ⊢
  cases registers with
  | failed same => exact shown_same same ▸ orderly
  | found same => exact shown_same same ▸ orderly
  | @inserted rows tag after made absent changed =>
    intro key row tag there
    rw [row_put made _ changed] at there
    split at there
    · rename_i own
      cases there
      exact own.symm
    · exact orderly key row tag there

theorem truthful (cluster : String) : (client.backend cluster).StaysTruthful {} arm :=
  ⟨_, Backend.truthful_of (lawful cluster) (framed cluster) (fun _ _ => rfl)
    (register_orderly cluster)
    fun _ _ fewer orderly key row tag there => orderly key row tag (fewer key _ there),
    ⟨nofun, nofun⟩, fun _ _ => id⟩

end TableStore

inductive Usage where
  | ready
  | one (call : EntryCall)
  | registerMany (entries : List Entry)
  | unregisterMany (entries : List Entry)
  | lookupMany (grains : List String)

namespace Usage

def reads (entry : Entry) : Bool := (Directory.addressOf entry).isOk

def reaches : Usage → Bool
  | ready => true
  | one (.register entry) => reads entry
  | one (.unregister entry) => reads entry
  | one (.lookup _) => true
  | registerMany entries => entries.any reads
  | unregisterMany entries => entries.any reads
  | lookupMany grains => !grains.isEmpty

end Usage

inductive Backend.Offers {σ : Type} (backend : Backend σ) :
    {α : Type} → Call σ BackendFault α → Prop where
  | register (record : Record) : Offers backend (backend.register record)
  | unregister (record : Record) (version : Version) :
      Offers backend (backend.unregister record version)
  | lookup (grain : String) : Offers backend (backend.lookup grain)

theorem Backend.offers_keeps {σ α : Type} {backend : Backend σ} {holds : σ → Prop}
    (upholds : backend.Upholds holds) {call : Call σ BackendFault α}
    (offers : backend.Offers call) : Call.Keeps holds call := by
  cases offers with
  | register record => exact upholds.register record
  | unregister record version => exact upholds.unregister record version
  | lookup grain => exact upholds.lookup grain

namespace Directory

variable {σ : Type} {holds : σ → Prop} {directory : Directory σ}

def undergo (directory : Directory σ) : Usage → Directory σ
  | .ready => directory.ensureReady.2
  | .one call => (directory.serve call).2
  | .registerMany entries => (directory.registerMany entries).2
  | .unregisterMany entries => (directory.unregisterMany entries).2
  | .lookupMany grains => (directory.lookupMany grains).2

inductive Undergone (directory : Directory σ) : Bool → Directory σ → Prop where
  | unread : Undergone directory false directory
  | readied : Undergone directory true directory.ensureReady.2
  | called {α : Type} {call : Call σ BackendFault α} : directory.backend.Offers call →
      Undergone directory true (directory.call call).2
  | calledMany {α : Type} {calls : List (Except Fault (Call σ BackendFault α))} :
      (∀ call, .ok call ∈ calls → directory.backend.Offers call) →
      Undergone directory (calls.any (·.isOk)) (directory.callMany calls).2

theorem reads_eq (entry : Entry) : Usage.reads entry = entry.toAddress.isOk := by
  rw [Usage.reads, addressOf]
  cases entry.toAddress <;> rfl

theorem undergone_entries {α : Type} {use : Entry → Address → Call σ BackendFault α}
    (offers : ∀ entry address, directory.backend.Offers (use entry address))
    (entries : List Entry) :
    Undergone directory (entries.any Usage.reads)
      (directory.callMany (entries.map fun entry => (addressOf entry).map (use entry))).2 := by
  have reads : entries.any Usage.reads =
      (entries.map fun entry => (addressOf entry).map (use entry)).any (·.isOk) := by
    rw [List.any_map]
    congr 1
    funext entry
    simp only [Function.comp, Usage.reads]
    cases addressOf entry <;> rfl
  rw [reads]
  refine .calledMany fun call listed => ?_
  obtain ⟨entry, _, made⟩ := List.mem_map.mp listed
  cases read : addressOf entry with
  | error fault =>
    rw [read] at made
    cases made
  | ok address =>
    rw [read] at made
    cases made
    exact offers entry address

theorem undergo_undergone (directory : Directory σ) (usage : Usage) :
    Undergone directory usage.reaches (directory.undergo usage) := by
  cases usage with
  | ready => exact .readied
  | registerMany entries => exact undergone_entries (fun _ address => .register address.toRecord) entries
  | unregisterMany entries =>
    exact undergone_entries (fun entry address => .unregister address.toRecord entry.version) entries
  | lookupMany grains =>
    have reads : (Usage.lookupMany grains).reaches =
        (grains.map fun grain => (.ok (directory.backend.lookup grain) : Except Fault _)).any
          (·.isOk) := by
      cases grains <;> rfl
    rw [reads]
    refine .calledMany fun call listed => ?_
    obtain ⟨grain, _, made⟩ := List.mem_map.mp listed
    cases made
    exact .lookup grain
  | one call =>
    cases call with
    | register entry =>
      simp only [Usage.reaches, reads_eq, undergo, serve, register, Prod.map_snd, id_eq]
      cases entry.toAddress with
      | error fault => exact .unread
      | ok address => exact .called (.register address.toRecord)
    | unregister entry =>
      simp only [Usage.reaches, reads_eq, undergo, serve, unregister, Prod.map_snd, id_eq]
      cases entry.toAddress with
      | error fault => exact .unread
      | ok address => exact .called (.unregister address.toRecord entry.version)
    | lookup grain => exact .called (.lookup grain)

theorem undergo_backend (directory : Directory σ) (usage : Usage) :
    (directory.undergo usage).backend = directory.backend := by
  have undergone := directory.undergo_undergone usage
  generalize usage.reaches = needed, directory.undergo usage = after at undergone ⊢
  cases undergone with
  | unread | calledMany => rfl
  | readied =>
    rw [ensureReady]
    split <;> rfl
  | called => exact call_backend directory _

theorem undergo_keeps (upholds : directory.backend.Upholds holds) (held : holds directory.store)
    (usage : Usage) : holds (directory.undergo usage).store := by
  have undergone := directory.undergo_undergone usage
  generalize usage.reaches = needed, directory.undergo usage = after at undergone ⊢
  cases undergone with
  | unread => exact held
  | readied => exact ensureReady_keeps upholds held
  | called offers => exact call_keeps upholds (Backend.offers_keeps upholds offers) held
  | calledMany offers =>
    exact callMany_keeps upholds (fun call listed => Backend.offers_keeps upholds
      (offers call listed)) held

theorem undergo_truthful {arm : Nat → σ → σ}
    (stays : directory.backend.StaysTruthful directory.store arm) (usage : Usage) :
    (directory.undergo usage).backend.StaysTruthful (directory.undergo usage).store arm := by
  obtain ⟨holds, truthful, held, armed⟩ := stays
  rw [undergo_backend]
  exact ⟨holds, truthful, undergo_keeps truthful.toUpholds held usage, armed⟩

theorem register_told (truthful : directory.backend.Truthful holds) (held : holds directory.store)
    {address : Address} (whole : '/' ∉ address.grain.kind.toList) {entry : Entry}
    (told : (directory.register (.ofAddress address .unknown)).1.result.authoritative =
      .ok entry) : Grain.parse? entry.grain = some address.grain := by
  rw [register] at told
  split at told
  · cases told
  · rename_i given read
    have own := Entry.toAddress_own whole read
    have fits := own ▸ (Entry.toAddress_fits read).1
    dsimp only at told
    cases called : (directory.call (directory.backend.register given.toRecord)).1.result with
    | error fault =>
      rw [called] at told
      cases told
    | ok result =>
      obtain ⟨record, version⟩ := result
      obtain ⟨store, held, answers⟩ :=
        call_answer truthful.toUpholds (truthful.register _) held called
      have about : record.grain = given.grain.toText := truthful.tells _ _ _ held answers
      rw [called] at told
      simp only [registered] at told
      split at told
      · cases told
      · rename_i stored parsed
        have grain := Address.parse_fits parsed
        have entry : entry = .ofAddress stored version := by
          split at told <;> exact (Except.ok.inj told).symm
        rw [entry, Entry.ofAddress, grain.2, about, own]
        exact Grain.parse_eq_some.mpr ⟨fits, rfl⟩

end Directory

namespace External

variable {external : External}

def undergo (usage : Usage) : External → External
  | keyValue directory => keyValue (directory.undergo usage)
  | table directory => table (directory.undergo usage)

-- What can become of an external directory whose store is new and used by nobody else.
inductive Used : External → Prop where
  | openedKeyValue (cluster : String) (retry : Retry) : Used (openKeyValue cluster retry)
  | openedTable (cluster : String) (retry : Retry) : Used (openTable cluster retry)
  | asked {external : External} (usage : Usage) : Used external → Used (external.undergo usage)
  | armed {external : External} (faults : Nat) : Used external → Used (external.arm faults)

def Truthful : External → Prop
  | keyValue directory => directory.backend.StaysTruthful directory.store KeyValueStore.arm
  | table directory => directory.backend.StaysTruthful directory.store TableStore.arm

theorem undergo_truthful (truthful : external.Truthful) (usage : Usage) :
    (external.undergo usage).Truthful := by
  cases external with
  | keyValue directory => exact Directory.undergo_truthful truthful usage
  | table directory => exact Directory.undergo_truthful truthful usage

theorem arm_truthful (truthful : external.Truthful) (faults : Nat) :
    (external.arm faults).Truthful := by
  cases external with
  | keyValue directory =>
    obtain ⟨holds, truthful, held, armed⟩ := truthful
    exact ⟨holds, truthful, armed faults _ held, armed⟩
  | table directory =>
    obtain ⟨holds, truthful, held, armed⟩ := truthful
    exact ⟨holds, truthful, armed faults _ held, armed⟩

theorem used_truthful (used : external.Used) : external.Truthful := by
  induction used with
  | openedKeyValue cluster retry => exact KeyValueStore.truthful cluster
  | openedTable cluster retry => exact TableStore.truthful cluster
  | asked usage _ truthful => exact undergo_truthful truthful usage
  | armed faults _ truthful => exact arm_truthful truthful faults

theorem register_keyValue (directory : Directory KeyValueStore) (entry : Entry) :
    (keyValue directory).register entry =
      ((directory.register entry).1, keyValue (directory.register entry).2) := rfl

theorem register_table (directory : Directory TableStore) (entry : Entry) :
    (table directory).register entry =
      ((directory.register entry).1, table (directory.register entry).2) := rfl

theorem registered_grain (used : external.Used) {address : Address}
    (whole : '/' ∉ address.grain.kind.toList) {entry : Entry} {tagged : Tagged}
    (told : (external.register (.ofAddress address .unknown)).1.result.authoritative = .ok entry)
    (read : entry.toTagged = .ok tagged) : tagged.address.grain = address.grain := by
  have named : Grain.parse? entry.grain = some address.grain := by
    have truthful := used_truthful used
    cases external with
    | keyValue directory =>
      obtain ⟨_, truthful, held, _⟩ := truthful
      simp only [register_keyValue] at told
      exact Directory.register_told truthful held whole told
    | table directory =>
      obtain ⟨_, truthful, held, _⟩ := truthful
      simp only [register_table] at told
      exact Directory.register_told truthful held whole told
  have own := Entry.toAddress_grain (Entry.toTagged_address read)
  exact Option.some.inj (own.symm.trans named)

end External
end ActorDirectory
