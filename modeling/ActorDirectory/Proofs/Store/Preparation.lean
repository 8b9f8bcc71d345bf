import ActorDirectory.Proofs.Store.Recovery
import ActorDirectory.Proofs.Store.Truth
import ActorDirectory.Store.Scripted

-- A store is made ready when it is first needed, before anything else is asked of it, and once.
namespace ActorDirectory

structure Backend.Guarded {σ : Type} (backend : Backend σ) (stage : Bool → σ → Prop) : Prop where
  prepare : ∀ store, stage false store →
    stage (backend.prepare store).1.isOk (backend.prepare store).2
  offers : ∀ {α : Type} {call : Call σ BackendFault α}, backend.Offers call →
    Call.Keeps (stage true) call

theorem Backend.upholds_of {σ : Type} {backend : Backend σ} {holds : σ → Prop}
    (prepare : Call.Keeps holds backend.prepare)
    (offers : ∀ {α : Type} {call : Call σ BackendFault α}, backend.Offers call →
      Call.Keeps holds call) : backend.Upholds holds :=
  ⟨prepare, fun record => offers (.register record),
    fun record version => offers (.unregister record version), fun grain => offers (.lookup grain)⟩

section Stages

variable {σ α : Type} {stage : Bool → σ → Prop} {holds : σ → Prop}
  {call : Call σ BackendFault α} {store : σ}

namespace Retry

theorem attempts_guarded {prepare : Call σ BackendFault Unit}
    (stages : ∀ store, stage false store → stage (prepare store).1.isOk (prepare store).2)
    {result : Option Unit × σ} (attempts : Attempts prepare store result)
    (staged : stage false store) : stage result.1.isSome result.2 := by
  induction attempts with
  | @answered store _ _ called | @failed store _ _ called =>
    have after := stages store staged
    rw [called] at after
    exact after
  | @again store _ _ _ called _ ih =>
    have after := stages store staged
    rw [called] at after
    exact ih after

theorem attempts_begun (keeps : Call.Keeps holds call) {result : Option α × σ}
    (attempts : Attempts call store result) (begun : holds (call store).2) : holds result.2 := by
  cases attempts with
  | answered called | failed called =>
    rw [called] at begun
    exact begun
  | again called further =>
    rw [called] at begun
    exact (attempts_keeps keeps further begun).1

end Retry

namespace Element

variable {element : Element σ α} {shared : Shared σ}

theorem turn_ready (retry : Retry) (backend : Backend σ) (keeps : Call.Keeps holds element.call)
    (ready : shared.isReady = true) (past : ¬element.Prepares) (held : holds shared.store) :
    (element.turn retry backend shared).2.isReady = true ∧
      ¬(element.turn retry backend shared).1.Prepares ∧
      holds (element.turn retry backend shared).2.store := by
  have calls : ∀ made, (element.callStore retry made shared).2.isReady = true ∧
      ¬(element.callStore retry made shared).1.Prepares ∧
      holds (element.callStore retry made shared).2.store := by
    intro made
    refine ⟨?_, ?_, callStore_keeps keeps made held⟩
    · rw [callStore]
      split <;> exact ready
    · rintro ⟨later, phase⟩
      rw [callStore] at phase
      split at phase <;> cases phase
  cases phase : element.phase with
  | done => simpa only [turn, phase] using ⟨ready, past, held⟩
  | calling made => simpa only [turn, phase] using calls made
  | preparing made => exact absurd ⟨made, phase⟩ past
  | waiting => simpa only [turn, phase, ready, ↓reduceIte] using calls 0

end Element

namespace Directory

variable {directory after : Directory σ} {calls : List (Except Fault (Call σ BackendFault α))}

def Staged (stage : Bool → σ → Prop) (directory : Directory σ) : Prop :=
  stage directory.isReady directory.store

theorem ensureReady_attempts (unready : directory.isReady = false) :
    Retry.Attempts directory.backend.prepare directory.store
      (directory.ensureReady.1.result.toOption, directory.ensureReady.2.store) := by
  simp only [ensureReady, unready, Bool.false_eq_true, ↓reduceIte]
  exact Retry.runFrom_attempts directory.backend.prepare directory.retry.further 0 directory.store

theorem ensureReady_staged (guarded : directory.backend.Guarded stage)
    (staged : directory.Staged stage) : directory.ensureReady.2.Staged stage := by
  cases ready : directory.isReady with
  | true => simpa [ensureReady, ready] using staged
  | false =>
    rw [Staged, ready] at staged
    have stages := Retry.attempts_guarded guarded.prepare (ensureReady_attempts ready) staged
    rw [Staged, ensureReady_isReady]
    cases result : directory.ensureReady.1.result <;> rw [result] at stages <;> exact stages

theorem call_staged (guarded : directory.backend.Guarded stage)
    (keeps : Call.Keeps (stage true) call) (staged : directory.Staged stage) :
    (directory.call call).2.Staged stage := by
  have readied := ensureReady_staged guarded staged
  have isReady := directory.ensureReady_isReady
  rw [Directory.call]
  dsimp only
  split
  · exact readied
  · rename_i answered
    rw [answered] at isReady
    rw [Staged, isReady] at readied
    rw [Staged, isReady]
    exact (Retry.attempts_keeps keeps (Retry.runFrom_attempts ..) readied).1

theorem ready_staged (ready : directory.isReady = true)
    (keeps : ∀ call, .ok call ∈ calls → Call.Keeps (stage true) call)
    (staged : directory.Staged stage) : (directory.callMany calls).2.Staged stage := by
  obtain ⟨after, ends, _, same⟩ := callMany_ends directory calls
  suffices (∀ element ∈ after.1, ¬element.Prepares ∧ Call.Keeps (stage true) element.call) ∧
      after.2.isReady = true ∧ stage true after.2.store by
    obtain ⟨_, ready, held⟩ := this
    rw [same, resting, Staged, ready]
    exact held
  refine Batch.works_induction (motive := fun state =>
    (∀ element ∈ state.1, ¬element.Prepares ∧ Call.Keeps (stage true) element.call) ∧
      state.2.isReady = true ∧ stage true state.2.store) ?_ ends.works ⟨?_, ready, ?_⟩
  · rintro elements shared number element found ⟨each, ready, held⟩
    obtain ⟨past, keeps⟩ := each element (List.mem_of_getElem? found)
    obtain ⟨ready', past', held'⟩ :=
      Element.turn_ready directory.retry directory.backend keeps ready past held
    refine ⟨fun other present => ?_, ready', held'⟩
    rcases List.mem_or_eq_of_mem_set present with earlier | rfl
    · exact each other earlier
    · exact ⟨past', by rwa [Element.turn_call]⟩
  · intro element present
    obtain ⟨call, listed, rfl⟩ := List.mem_map.mp present
    cases call with
    | ok call => exact ⟨nofun, keeps call listed⟩
    | error fault => exact ⟨nofun, fun _ held => held⟩
  · rwa [Staged, ready] at staged

theorem callMany_next (unready : directory.isReady = false) (call : Call σ BackendFault α)
    (calls : List (Except Fault (Call σ BackendFault α))) :
    ∃ others, others ⊆ .ok call :: calls ∧
      (directory.ensureReady.2.isReady = true ∨ others = calls) ∧
      (directory.callMany (.ok call :: calls)).2 = (directory.ensureReady.2.callMany others).2 := by
  have isReady := directory.ensureReady_isReady
  cases made : directory.ensureReady with
  | mk timed next =>
    obtain ⟨result, waited⟩ := timed
    rw [made] at isReady
    cases result with
    | error fault =>
      exact ⟨calls, List.subset_cons_self .., .inr rfl, by rw [callMany_failed unready made]⟩
    | ok =>
      exact ⟨.ok call :: calls, List.Subset.refl _, .inl isReady,
        by rw [callMany_readied unready made]⟩

theorem callMany_staged (guarded : directory.backend.Guarded stage)
    (keeps : ∀ call, .ok call ∈ calls → Call.Keeps (stage true) call)
    (staged : directory.Staged stage) : (directory.callMany calls).2.Staged stage := by
  induction calls generalizing directory with
  | nil => exact staged
  | cons head rest ih =>
    have fewer : ∀ call, .ok call ∈ rest → Call.Keeps (stage true) call :=
      fun call listed => keeps call (List.mem_cons_of_mem _ listed)
    cases ready : directory.isReady with
    | true => exact ready_staged ready keeps staged
    | false =>
      cases head with
      | error fault =>
        rw [callMany_unreadable]
        exact ih guarded fewer staged
      | ok call =>
        obtain ⟨others, among, either, same⟩ := callMany_next ready call rest
        have readied := ensureReady_staged guarded staged
        rw [same]
        rcases either with isReady | rfl
        · exact ready_staged isReady (fun call listed => keeps call (among listed)) readied
        · exact ih (directory.ensureReady_backend ▸ guarded) fewer readied

theorem undergo_staged (guarded : directory.backend.Guarded stage)
    (staged : directory.Staged stage) (usage : Usage) :
    (directory.undergo usage).Staged stage := by
  have undergone := directory.undergo_undergone usage
  generalize usage.reaches = needed, directory.undergo usage = after at undergone ⊢
  cases undergone with
  | unread => exact staged
  | readied => exact ensureReady_staged guarded staged
  | called offers => exact call_staged guarded (guarded.offers offers) staged
  | calledMany offers =>
    exact callMany_staged guarded (fun call listed => guarded.offers (offers call listed)) staged

theorem ensureReady_begun (unready : directory.isReady = false)
    (keeps : Call.Keeps holds directory.backend.prepare)
    (begun : holds (directory.backend.prepare directory.store).2) :
    holds directory.ensureReady.2.store :=
  Retry.attempts_begun keeps (ensureReady_attempts unready) begun

theorem call_begun (unready : directory.isReady = false)
    (upholds : directory.backend.Upholds holds) (keeps : Call.Keeps holds call)
    (begun : holds (directory.backend.prepare directory.store).2) :
    holds (directory.call call).2.store := by
  have readied := ensureReady_begun unready upholds.prepare begun
  rw [Directory.call]
  dsimp only
  split
  · exact readied
  · exact (Retry.attempts_keeps keeps (Retry.runFrom_attempts ..) readied).1

theorem callMany_begun (unready : directory.isReady = false)
    (upholds : directory.backend.Upholds holds)
    (keeps : ∀ call, .ok call ∈ calls → Call.Keeps holds call)
    (needed : calls.any (·.isOk) = true)
    (begun : holds (directory.backend.prepare directory.store).2) :
    holds (directory.callMany calls).2.store := by
  induction calls with
  | nil => cases needed
  | cons head rest ih =>
    have fewer : ∀ call, .ok call ∈ rest → Call.Keeps holds call :=
      fun call listed => keeps call (List.mem_cons_of_mem _ listed)
    cases head with
    | error fault =>
      rw [callMany_unreadable]
      exact ih fewer needed
    | ok call =>
      obtain ⟨others, among, _, same⟩ := callMany_next unready call rest
      rw [same]
      exact callMany_keeps (directory.ensureReady_backend ▸ upholds)
        (fun call listed => keeps call (among listed))
        (ensureReady_begun unready upholds.prepare begun)

theorem callMany_unread (unread : calls.any (·.isOk) = false) :
    (directory.callMany calls).2 = directory := by
  induction calls with
  | nil => rfl
  | cons head rest ih =>
    cases head with
    | ok call => cases unread
    | error fault =>
      rw [callMany_unreadable]
      exact ih unread

theorem undergo_unread {usage : Usage} (unread : usage.reaches = false) :
    directory.undergo usage = directory := by
  have undergone := directory.undergo_undergone usage
  rw [unread] at undergone
  generalize needed : false = reaches, directory.undergo usage = after at undergone ⊢
  cases undergone with
  | unread => rfl
  | readied | called => cases needed
  | calledMany => exact callMany_unread needed.symm

theorem undergo_begun (unready : directory.isReady = false)
    (upholds : directory.backend.Upholds holds) {usage : Usage} (reaches : usage.reaches = true)
    (begun : holds (directory.backend.prepare directory.store).2) :
    holds (directory.undergo usage).store := by
  have undergone := directory.undergo_undergone usage
  rw [reaches] at undergone
  generalize needed : true = reaches, directory.undergo usage = after at undergone ⊢
  cases undergone with
  | unread => cases needed
  | readied => exact ensureReady_begun unready upholds.prepare begun
  | called offers =>
    exact call_begun unready upholds (Backend.offers_keeps upholds offers) begun
  | calledMany offers =>
    exact callMany_begun unready upholds
      (fun call listed => Backend.offers_keeps upholds (offers call listed)) needed.symm begun

end Directory
end Stages

namespace KeyValueClient

variable {σ α : Type} {client : KeyValueClient σ} {holds : σ → Prop} {cluster : String}
  {call : Call σ BackendFault α}

theorem offers_keeps (gets : ∀ key, Call.Keeps holds (client.get key))
    (sets : ∀ key value, Call.Keeps holds (client.setIfAbsent key value))
    (deletes : ∀ key expected, Call.Keeps holds (client.deleteIfEqual key expected))
    (offers : (client.backend cluster).Offers call) : Call.Keeps holds call := by
  intro store held
  cases offers with
  | register record =>
    have set := sets (key cluster record.grain) record.toJsonText store held
    simp only [backend, register]
    split <;> rename_i called <;> rw [called] at set
    · exact set
    · exact set
    · have got := gets (key cluster record.grain) _ set
      split <;> rename_i called <;> rw [called] at got <;> exact got
  | unregister record =>
    have deleted := deletes (key cluster record.grain) record.toJsonText store held
    simp only [backend, unregister]
    split <;> rename_i called <;> rw [called] at deleted <;> exact deleted
  | lookup grain =>
    have got := gets (key cluster grain) store held
    simp only [backend, lookup]
    split <;> rename_i called <;> rw [called] at got <;> exact got

end KeyValueClient

namespace TableClient

variable {σ α : Type} {client : TableClient σ} {holds : σ → Prop} {cluster : String}
  {call : Call σ BackendFault α}

theorem offers_keeps (inserts : ∀ row, Call.Keeps holds (client.insert row))
    (reads : ∀ cluster row, Call.Keeps holds (client.read cluster row))
    (deletes : ∀ cluster row etag, Call.Keeps holds (client.delete cluster row etag))
    (offers : (client.backend cluster).Offers call) : Call.Keeps holds call := by
  intro store held
  cases offers with
  | register record =>
    have inserted := inserts (.ofRecord cluster record) store held
    simp only [backend, register]
    split <;> rename_i called <;> rw [called] at inserted
    · exact inserted
    · have read := reads cluster (Row.keyOf record.grain) _ inserted
      split <;> rename_i called <;> rw [called] at read <;> exact read
    · exact inserted
  | unregister record version =>
    have read := reads cluster (Row.keyOf record.grain) store held
    simp only [backend, unregister]
    split <;> rename_i called <;> rw [called] at read
    · exact read
    · exact read
    · split
      · exact read
      · split
        · exact read
        · exact deletes _ _ _ _ read
  | lookup grain =>
    have read := reads cluster (Row.keyOf grain) store held
    simp only [backend, lookup]
    split <;> rename_i called <;> rw [called] at read <;> exact read

end TableClient

namespace ScriptedStore

variable {α : Type} {script : List Reply} {store : ScriptedStore} {asked : Asked}
  {read : Reply → α} {calls : List Asked} {number : Nat}

def answers : Option Reply → Bool
  | none => false
  | some (.fault _) => false
  | some _ => true

def answered (script : List Reply) (number : Nat) : Bool := answers script[number]?

def Follows (script : List Reply) (store : ScriptedStore) : Prop :=
  store.replies = script.drop store.asked.length

-- The calls to a store: in vain to make it ready, then the one that makes it so, then others.
inductive Logged (script : List Reply) : Bool → List Asked → Prop where
  | opened : Logged script false []
  | refused {calls : List Asked} {asked : Asked} : Logged script false calls →
      asked.makesContainer = true → answered script calls.length = false →
      Logged script false (calls ++ [asked])
  | readied {calls : List Asked} {asked : Asked} : Logged script false calls →
      asked.makesContainer = true → answered script calls.length = true →
      Logged script true (calls ++ [asked])
  | used {calls : List Asked} {asked : Asked} : Logged script true calls →
      asked.makesContainer = false → Logged script true (calls ++ [asked])

def Stage (script : List Reply) (isReady : Bool) (store : ScriptedStore) : Prop :=
  Follows script store ∧ Logged script isReady store.asked

theorem ask_result (asked : Asked) (read : Reply → α) (store : ScriptedStore) :
    (ask asked read store).1.isOk = answers store.replies[0]? ∧
      (ask asked read store).2 = ⟨store.replies.drop 1, store.asked ++ [asked]⟩ := by
  obtain ⟨replies, calls⟩ := store
  cases replies with
  | nil => exact ⟨rfl, rfl⟩
  | cons reply rest => cases reply <;> exact ⟨rfl, rfl⟩

theorem ask_asked (asked : Asked) (read : Reply → α) (store : ScriptedStore) :
    (ask asked read store).2.asked = store.asked ++ [asked] := by
  rw [(ask_result asked read store).2]

theorem ask_follows (follows : Follows script store) :
    Follows script (ask asked read store).2 := by
  rw [(ask_result asked read store).2, Follows, follows, List.drop_drop, List.length_append,
    List.length_singleton]

theorem ask_answered (follows : Follows script store) :
    (ask asked read store).1.isOk = answered script store.asked.length := by
  rw [(ask_result asked read store).1, follows, List.getElem?_drop, Nat.add_zero, answered]

theorem ask_prepares (creates : asked.makesContainer = true) (staged : Stage script false store) :
    Stage script (ask asked read store).1.isOk (ask asked read store).2 := by
  obtain ⟨follows, logged⟩ := staged
  refine ⟨ask_follows follows, ?_⟩
  rw [ask_answered follows, ask_asked]
  cases answers : answered script store.asked.length with
  | false => exact .refused logged creates answers
  | true => exact .readied logged creates answers

theorem ask_keeps (uses : asked.makesContainer = false) :
    Call.Keeps (Stage script true) (ask asked read) := by
  rintro store ⟨follows, logged⟩
  refine ⟨ask_follows follows, ?_⟩
  rw [ask_asked]
  exact .used logged uses

theorem ask_extends (begun : List Asked) (asked : Asked) (read : Reply → α) :
    Call.Keeps (begun <+: ScriptedStore.asked ·) (ask asked read) := by
  intro store before
  rw [ask_asked]
  exact before.trans (List.prefix_append ..)

def Created (script : List Reply) (calls : List Asked) (number : Nat) : Prop :=
  (∃ creation, calls[number]? = some creation ∧ creation.makesContainer = true) ∧
    answered script number = true

theorem created_lt (created : Created script calls number) : number < calls.length := by
  obtain ⟨⟨_, there, _⟩, _⟩ := created
  exact (List.getElem?_eq_some_iff.mp there).1

structure Ordered (script : List Reply) (isReady : Bool) (calls : List Asked) : Prop where
  ready : isReady = true ↔ ∃ number, Created script calls number
  prepared : ∀ number call, calls[number]? = some call → call.makesContainer = false →
    ∃ earlier, earlier < number ∧ Created script calls earlier
  once : ∀ number later call, Created script calls number → number < later →
    calls[later]? = some call → call.makesContainer = false

theorem getElem?_snoc {last call : Asked} : (calls ++ [last])[number]? = some call ↔
    calls[number]? = some call ∨ number = calls.length ∧ call = last := by
  rcases Nat.lt_trichotomy number calls.length with before | rfl | after
  · rw [List.getElem?_append_left before]
    exact ⟨.inl, fun either => either.resolve_right fun ⟨same, _⟩ => absurd same (Nat.ne_of_lt before)⟩
  · simp [eq_comm]
  · have past : calls.length ≤ number := Nat.le_of_lt after
    simp only [List.getElem?_eq_none past, List.getElem?_eq_none
      (List.length_append ▸ after : (calls ++ [last]).length ≤ number)]
    simp [Nat.ne_of_gt after]

theorem created_snoc {last : Asked} : Created script (calls ++ [last]) number ↔
    Created script calls number ∨
      number = calls.length ∧ last.makesContainer = true ∧ answered script number = true := by
  simp only [Created, getElem?_snoc]
  constructor
  · rintro ⟨⟨creation, there | ⟨place, rfl⟩, creates⟩, answers⟩
    · exact .inl ⟨⟨creation, there, creates⟩, answers⟩
    · exact .inr ⟨place, creates, answers⟩
  · rintro (⟨⟨creation, there, creates⟩, answers⟩ | ⟨place, creates, answers⟩)
    · exact ⟨⟨creation, .inl there, creates⟩, answers⟩
    · exact ⟨⟨last, .inr ⟨place, rfl⟩, creates⟩, answers⟩

theorem logged_ordered {isReady : Bool} (logged : Logged script isReady calls) :
    Ordered script isReady calls := by
  induction logged with
  | opened => exact ⟨⟨nofun, fun ⟨_, ⟨_, there, _⟩, _⟩ => nomatch there⟩, nofun, nofun⟩
  | @refused calls last _ creates refused ih =>
    have never : ∀ number, ¬Created script (calls ++ [last]) number := by
      intro number created
      rcases created_snoc.mp created with earlier | ⟨rfl, _, answers⟩
      · cases ih.ready.mpr ⟨number, earlier⟩
      · cases refused.symm.trans answers
    refine ⟨⟨nofun, fun ⟨number, created⟩ => absurd created (never number)⟩,
      fun number call there uses => ?_, fun number later call created => absurd created (never number)⟩
    rcases getElem?_snoc.mp there with earlier | ⟨_, rfl⟩
    · obtain ⟨place, _, created⟩ := ih.prepared number call earlier uses
      cases ih.ready.mpr ⟨place, created⟩
    · cases uses.symm.trans creates
  | @readied calls last _ creates answers ih =>
    have first : ∀ number, Created script (calls ++ [last]) number ↔ number = calls.length := by
      intro number
      rw [created_snoc]
      refine ⟨?_, fun same => .inr ⟨same, creates, same ▸ answers⟩⟩
      rintro (earlier | ⟨same, _⟩)
      · cases ih.ready.mpr ⟨number, earlier⟩
      · exact same
    refine ⟨⟨fun _ => ⟨_, (first _).mpr rfl⟩, fun _ => rfl⟩, fun number call there uses => ?_,
      fun number later call created after there => ?_⟩
    · rcases getElem?_snoc.mp there with earlier | ⟨_, rfl⟩
      · obtain ⟨place, _, created⟩ := ih.prepared number call earlier uses
        cases ih.ready.mpr ⟨place, created⟩
      · cases uses.symm.trans creates
    · rw [(first number).mp created] at after
      rw [List.getElem?_eq_none (List.length_append ▸ after)] at there
      cases there
  | @used calls last _ uses ih =>
    have same : ∀ number, Created script (calls ++ [last]) number ↔ Created script calls number := by
      intro number
      rw [created_snoc]
      refine ⟨fun created => created.resolve_right fun ⟨_, creates, _⟩ => ?_, .inl⟩
      cases uses.symm.trans creates
    refine ⟨⟨fun _ => ?_, fun _ => rfl⟩, fun number call there other => ?_,
      fun number later call created after there => ?_⟩
    · obtain ⟨number, created⟩ := ih.ready.mp rfl
      exact ⟨number, (same number).mpr created⟩
    · rcases getElem?_snoc.mp there with earlier | ⟨rfl, _⟩
      · obtain ⟨place, before, created⟩ := ih.prepared number call earlier other
        exact ⟨place, before, (same place).mpr created⟩
      · obtain ⟨place, created⟩ := ih.ready.mp rfl
        exact ⟨place, created_lt created, (same place).mpr created⟩
    · rcases getElem?_snoc.mp there with earlier | ⟨_, rfl⟩
      · exact ih.once number later call ((same number).mp created) after earlier
      · exact uses

end ScriptedStore

inductive Container where
  | keyspace
  | table

namespace Container

def backend (cluster : String) : Container → Backend ScriptedStore
  | keyspace => ScriptedStore.keyValueClient.backend cluster
  | table => ScriptedStore.tableClient.backend cluster

def creation : Container → Asked
  | keyspace => .ensureKeyspace
  | table => .createTable

def opened (container : Container) (cluster : String) (retry : Retry) (script : List Reply) :
    Directory ScriptedStore :=
  ⟨container.backend cluster, retry, ⟨script, []⟩, false⟩

theorem offers_data {container : Container} {holds : ScriptedStore → Prop} {cluster : String}
    {α : Type} {call : Call ScriptedStore BackendFault α}
    (uses : ∀ {β : Type} (asked : Asked) (read : Reply → β), asked.makesContainer = false →
      Call.Keeps holds (ScriptedStore.ask asked read))
    (offers : (container.backend cluster).Offers call) : Call.Keeps holds call := by
  cases container with
  | keyspace =>
    exact KeyValueClient.offers_keeps (fun _ => uses _ _ rfl) (fun _ _ => uses _ _ rfl)
      (fun _ _ => uses _ _ rfl) offers
  | table =>
    exact TableClient.offers_keeps (fun _ => uses _ _ rfl) (fun _ _ => uses _ _ rfl)
      (fun _ _ _ => uses _ _ rfl) offers

theorem prepare_asks (container : Container) (cluster : String) (store : ScriptedStore) :
    ((container.backend cluster).prepare store).1.isOk =
        (ScriptedStore.ask container.creation (fun _ => ()) store).1.isOk ∧
      ((container.backend cluster).prepare store).2 =
        (ScriptedStore.ask container.creation (fun _ => ()) store).2 := by
  cases container with
  | keyspace | table =>
    simp only [backend, KeyValueClient.backend, TableClient.backend, ScriptedStore.keyValueClient,
      ScriptedStore.tableClient, creation]
    split <;> rename_i called <;> rw [called] <;> exact ⟨rfl, rfl⟩

theorem guarded (container : Container) (cluster : String) (script : List Reply) :
    (container.backend cluster).Guarded (ScriptedStore.Stage script) := by
  refine ⟨fun store staged => ?_, offers_data fun _ _ => ScriptedStore.ask_keeps⟩
  obtain ⟨result, next⟩ := container.prepare_asks cluster store
  rw [result, next]
  exact ScriptedStore.ask_prepares (by cases container <;> rfl) staged

theorem lengthens (container : Container) (cluster : String) (begun : List Asked) :
    (container.backend cluster).Upholds (begun <+: ScriptedStore.asked ·) := by
  refine Backend.upholds_of (fun store before => ?_)
    (offers_data fun asked read _ => ScriptedStore.ask_extends begun asked read)
  rw [(container.prepare_asks cluster store).2]
  exact ScriptedStore.ask_extends begun container.creation (fun _ => ()) store before

end Container

namespace Directory

variable {σ : Type}

def undergoAll (directory : Directory σ) (usages : List Usage) : Directory σ :=
  usages.foldl undergo directory

theorem undergoAll_backend (directory : Directory σ) (usages : List Usage) :
    (directory.undergoAll usages).backend = directory.backend := by
  induction usages generalizing directory with
  | nil => rfl
  | cons usage rest ih => exact (ih (directory.undergo usage)).trans (directory.undergo_backend usage)

theorem undergoAll_keeps {holds : σ → Prop} {directory : Directory σ}
    (upholds : directory.backend.Upholds holds) (held : holds directory.store)
    (usages : List Usage) : holds (directory.undergoAll usages).store := by
  induction usages generalizing directory with
  | nil => exact held
  | cons usage rest ih =>
    exact ih (directory.undergo_backend usage ▸ upholds) (undergo_keeps upholds held usage)

theorem undergoAll_staged {stage : Bool → σ → Prop} {directory : Directory σ}
    (guarded : directory.backend.Guarded stage) (staged : directory.Staged stage)
    (usages : List Usage) : (directory.undergoAll usages).Staged stage := by
  induction usages generalizing directory with
  | nil => exact staged
  | cons usage rest ih =>
    exact ih (directory.undergo_backend usage ▸ guarded) (undergo_staged guarded staged usage)

-- As long as the store is not ready, whatever needs it begins by making it so, and nothing else
-- calls it.
def Lazy (container : Container) (directory : Directory ScriptedStore) : Prop :=
  directory.isReady = false → ∀ usage : Usage,
    (usage.reaches = false → directory.undergo usage = directory) ∧
    (usage.reaches = true →
      directory.store.asked ++ [container.creation] <+: (directory.undergo usage).store.asked)

theorem lazily {container : Container} {cluster : String} {directory : Directory ScriptedStore}
    (own : directory.backend = container.backend cluster) : directory.Lazy container := by
  refine fun unready usage => ⟨undergo_unread, fun reaches => ?_⟩
  have begun : (directory.backend.prepare directory.store).2.asked =
      directory.store.asked ++ [container.creation] := by
    rw [own, (container.prepare_asks cluster directory.store).2, ScriptedStore.ask_asked]
  exact undergo_begun unready (own ▸ container.lengthens cluster _) reaches
    ⟨[], (List.append_nil _).trans begun.symm⟩

-- If the store cannot be made ready, one item of one operation fails for it, and the next begins
-- again.
def Recovers (container : Container) (directory : Directory ScriptedStore) : Prop :=
  ∀ fault waited next, directory.ensureReady = (⟨.error fault, waited⟩, next) →
    next.isReady = false ∧ next.Lazy container ∧
    Operation.registering.FailsAlone directory fault waited next ∧
    Operation.unregistering.FailsAlone directory fault waited next ∧
    Operation.lookingUp.FailsAlone directory fault waited next

theorem recovers {container : Container} {cluster : String} {directory : Directory ScriptedStore}
    (own : directory.backend = container.backend cluster) : directory.Recovers container := by
  intro fault waited next failed
  have isReady := directory.ensureReady_isReady
  have same := directory.ensureReady_backend
  rw [failed] at isReady same
  exact ⟨isReady, lazily (same.trans own), registering_failsAlone failed,
    unregistering_failsAlone failed, lookingUp_failsAlone failed⟩

theorem prepared_first_and_once (container : Container) (cluster : String) (retry : Retry)
    (script : List Reply) (usages : List Usage) :
    let directory := (container.opened cluster retry script).undergoAll usages
    directory.store.Follows script ∧
      ScriptedStore.Ordered script directory.isReady directory.store.asked ∧
      directory.Lazy container ∧ directory.Recovers container := by
  intro directory
  have start : (container.opened cluster retry script).Staged (ScriptedStore.Stage script) :=
    ⟨rfl, .opened⟩
  obtain ⟨follows, logged⟩ :=
    undergoAll_staged (container.guarded cluster script) start usages
  have own : directory.backend = container.backend cluster := undergoAll_backend _ usages
  exact ⟨follows, ScriptedStore.logged_ordered logged, lazily own, recovers own⟩

example : ((Container.keyspace.opened "a" ⟨1, 0⟩ [.fault .notFound, .yes, .nothing]).undergo
    (.lookupMany ["x/1", "x/2"])).store.asked =
      [.ensureKeyspace, .ensureKeyspace, .get "a-x/2"] := by decide

end Directory
end ActorDirectory
