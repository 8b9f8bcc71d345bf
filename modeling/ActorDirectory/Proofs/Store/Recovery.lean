import ActorDirectory.Proofs.Store.Batches

-- A batch whose store is not ready. One call makes the store ready while the others wait, so the
-- batch is what it would be if the store had been made ready before; if that fails, the call fails
-- and the others are a batch of their own.
namespace ActorDirectory

namespace Retry

variable {σ α : Type} {retry : Retry} {call : Call σ BackendFault α}

theorem runFrom_made (call : Call σ BackendFault α) (further made : Nat) (store : σ) :
    made + 1 ≤ (runFrom call further made store).2.1 := by
  induction further generalizing made store with
  | zero =>
    rw [runFrom]
    split
    · exact Nat.le_refl _
    · dsimp only
      split <;> exact Nat.le_refl _
  | succ further ih =>
    rw [runFrom]
    split
    · exact Nat.le_refl _
    · dsimp only
      split
      · exact Nat.le_of_succ_le (ih (made + 1) _)
      · exact Nat.le_refl _

inductive Part (retry : Retry) (call : Call σ BackendFault α) (further made : Nat) (store : σ) :
    Attempted α × σ → Prop where
  | whole {result : Except Fault α} {total : Nat} {last : σ} :
      runFrom call further made store = (result, total, last) →
      retry.delay = 0 ∨ total = made + 1 → Part retry call further made store (.done result, last)
  | first {less : Nat} {next : σ} : retry.delay ≠ 0 → further = less + 1 →
      runFrom call further made store = runFrom call less (made + 1) next →
      Part retry call further made store (.again (made + 1), next)

theorem attempt_part (retry : Retry) (call : Call σ BackendFault α) (further made : Nat)
    (store : σ) : Part retry call further made store (retry.attempt call further made store) := by
  induction further generalizing made store with
  | zero =>
    cases called : call store with
    | mk result next =>
      cases result with
      | ok value =>
        rw [attempt, called]
        exact .whole (by rw [runFrom, called]) (.inr rfl)
      | error fault =>
        cases transient : fault.isTransient with
        | true =>
          simp only [attempt, called, transient, ↓reduceIte]
          exact .whole (by simp [runFrom, called, transient]) (.inr rfl)
        | false =>
          simp only [attempt, called, transient, Bool.false_eq_true, ↓reduceIte]
          exact .whole (by simp [runFrom, called, transient]) (.inr rfl)
  | succ further ih =>
    cases called : call store with
    | mk result next =>
      cases result with
      | ok value =>
        rw [attempt, called]
        exact .whole (by rw [runFrom, called]) (.inr rfl)
      | error fault =>
        cases transient : fault.isTransient with
        | false =>
          simp only [attempt, called, transient, Bool.false_eq_true, ↓reduceIte]
          exact .whole (by simp [runFrom, called, transient]) (.inr rfl)
        | true =>
          have more : runFrom call (further + 1) made store = runFrom call further (made + 1) next := by
            rw [runFrom, called]
            simp only [transient, ↓reduceIte]
          by_cases none : retry.delay = 0
          · -- Without a delay all attempts are made at once.
            have tried : retry.attempt call (further + 1) made store =
                retry.attempt call further (made + 1) next := by
              rw [attempt, called]
              simp only [transient, none, ↓reduceIte]
            rw [tried]
            have later := ih (made + 1) next
            generalize retry.attempt call further (made + 1) next = ended at later ⊢
            cases later with
            | whole ran _ => exact .whole (more.trans ran) (.inl none)
            | first slow => exact absurd none slow
          · have tried : retry.attempt call (further + 1) made store = (.again (made + 1), next) := by
              rw [attempt, called]
              simp only [transient, none, ↓reduceIte]
            rw [tried]
            exact .first none rfl more

end Retry

namespace Element

variable {σ α : Type} {element : Element σ α} {shared : Shared σ}

theorem turn_finished (retry : Retry) (backend : Backend σ) (finished : element.phase.isDone = true)
    (shared : Shared σ) : element.turn retry backend shared = (element, shared) := by
  cases phase : element.phase with
  | done => simp [turn, phase]
  | _ =>
    rw [phase] at finished
    cases finished

def readied (element : Element σ α) (store : σ) : Except Fault Unit → Element σ α × Shared σ
  | .ok () => ({ element with phase := .waiting }, ⟨store, true, false⟩)
  | .error fault => ({ element with phase := .done (.error fault) }, ⟨store, false, false⟩)

theorem prepare_whole {retry : Retry} {backend : Backend σ} {made : Nat} {last : σ}
    {result : Except Fault Unit}
    (tried : retry.resume backend.prepare made shared.store = (.done result, last)) :
    element.prepare retry backend made shared =
      (element.readied last result).1.turn retry backend (element.readied last result).2 := by
  cases result with
  | ok =>
    simp only [prepare, tried, readied, turn, ↓reduceIte]
    rfl
  | error fault => simp only [prepare, tried, readied, turn]

end Element

namespace Batch

variable {σ α : Type} {retry : Retry} {backend : Backend σ} {elements rest : List (Element σ α)}
  {shared : Shared σ} {element : Element σ α} {fuel other : Nat}

theorem rounds_stable (held : Held (elements, shared)) (enough : left retry elements < fuel)
    (enough' : left retry elements < other) :
    rounds retry backend fuel elements shared = rounds retry backend other elements shared := by
  induction fuel generalizing elements shared other with
  | zero => omega
  | succ fuel ih =>
    obtain ⟨more, rfl⟩ : ∃ more, other = more + 1 := ⟨other - 1, by omega⟩
    have nearer := turns_left retry backend elements shared
    have works := turns_works retry backend elements shared
    rw [rounds, rounds]
    generalize turns retry backend elements shared = turned at nearer works ⊢
    obtain ⟨later, next⟩ := turned
    dsimp only at nearer ⊢
    split
    · rfl
    · rename_i unfinished
      rcases nearer with fewer | ⟨same, idle⟩
      · have same : rounds retry backend fuel later next = rounds retry backend more later next :=
          ih (works_held works held) (by omega) (by omega)
        rw [same]
      · cases same
        exact absurd (List.all_eq_true.mpr (idle_finished held idle)) unfinished

theorem rounds_done (finished : element.phase.isDone = true) (fuel : Nat)
    (rest : List (Element σ α)) (shared : Shared σ) :
    rounds retry backend fuel (element :: rest) shared =
      (element :: (rounds retry backend fuel rest shared).1,
        (rounds retry backend fuel rest shared).2) := by
  have still := fun shared => Element.turn_finished retry backend finished shared
  induction fuel generalizing rest shared with
  | zero => rfl
  | succ fuel ih =>
    rw [rounds, rounds]
    simp only [turns, still, List.all_cons, finished, Bool.true_and]
    split
    · rfl
    · rw [ih]

theorem turns_idle (idle : ∀ element ∈ elements, element.Idle shared)
    (unready : shared.isReady = false) :
    turns retry backend elements shared = (elements, shared) := by
  induction elements with
  | nil => rfl
  | cons element rest ih =>
    have still : element.turn retry backend shared = (element, shared) := by
      rcases idle element (List.mem_cons_self ..) with finished | ⟨waiting, held⟩
      · exact Element.turn_finished retry backend finished shared
      · simp [Element.turn, waiting, unready, held]
    simp only [turns, still, ih fun other present => idle other (List.mem_cons_of_mem _ present)]

def later (delays : Nat) (ended : List (Element σ α) × Shared σ × Nat) :
    List (Element σ α) × Shared σ × Nat := (ended.1, ended.2.1, ended.2.2 + delays)

theorem later_zero (ended : List (Element σ α) × Shared σ × Nat) : later 0 ended = ended := rfl

theorem later_later (delays : Nat) (ended : List (Element σ α) × Shared σ × Nat) :
    later 1 (later delays ended) = later (delays + 1) ended := rfl

theorem rounds_readied {made : Nat}
    (prepares : element.turn retry backend shared = element.prepare retry backend made shared)
    (others : ∀ other ∈ rest, other.phase = .waiting ∨ other.phase.isDone = true)
    (enough : left retry ({ element with phase := .waiting } :: rest) + (retry.further - made) < fuel) :
    let ran := Retry.runFrom backend.prepare (retry.further - made) made shared.store
    let readied := element.readied ran.2.2 ran.1
    ∃ delays fuel', left retry ({ element with phase := .waiting } :: rest) < fuel' ∧
      delays * retry.delay = (ran.2.1 - (made + 1)) * retry.delay ∧
      rounds retry backend fuel (element :: rest) shared =
        later delays (rounds retry backend fuel' (readied.1 :: rest) readied.2) := by
  generalize further : retry.further - made = tries at enough ⊢
  induction tries using Nat.strongRecOn generalizing made element shared fuel with
  | _ tries ih =>
    obtain ⟨fuel, rfl⟩ : ∃ fewer, fuel = fewer + 1 := ⟨fuel - 1, by omega⟩
    have part := Retry.attempt_part retry backend.prepare (retry.further - made) made shared.store
    change Retry.Part _ _ _ _ _ (retry.resume backend.prepare made shared.store) at part
    generalize tried : retry.resume backend.prepare made shared.store = ended at part
    rw [further] at part
    cases part with
    | @whole result total last ran ends =>
      have same : turns retry backend (element :: rest) shared =
          turns retry backend ((element.readied last result).1 :: rest)
            (element.readied last result).2 := by
        simp only [turns, prepares, Element.prepare_whole tried]
      rw [ran]
      refine ⟨0, fuel + 1, by omega, ?_, ?_⟩
      · rcases ends with none | rfl
        · simp [none]
        · simp
      · rw [later_zero, rounds, rounds, same]
    | @first less next slow _ ran =>
      -- All wait for the delay to pass, those behind because the store is held.
      have turned : turns retry backend (element :: rest) shared =
          ({ element with phase := .preparing (made + 1) } :: rest, ⟨next, false, true⟩) := by
        have idle : ∀ other ∈ rest, other.Idle (⟨next, false, true⟩ : Shared σ) := by
          intro other present
          rcases others other present with waiting | finished
          · exact .inr ⟨waiting, rfl⟩
          · exact .inl finished
        simp only [turns, prepares, Element.prepare, tried, turns_idle idle rfl]
      have fewer : left retry ({ element with phase := .waiting } :: rest) + less < fuel := by omega
      obtain ⟨delays, fuel', lasts, time, ended⟩ :=
        @ih less (by omega) ⟨next, false, true⟩ { element with phase := .preparing (made + 1) } fuel
          (made + 1) rfl (by omega) fewer
      have attempts := Retry.runFrom_made backend.prepare less (made + 1) next
      rw [ran]
      refine ⟨delays + 1, fuel', lasts, ?_, ?_⟩
      · rw [Nat.add_mul, time, Nat.one_mul, ← Nat.succ_mul]
        dsimp only
        congr 1
        omega
      · rw [rounds, turned]
        simp only [List.all_cons, Phase.isDone, Bool.false_and, Bool.false_eq_true, ↓reduceIte]
        exact (congrArg (later 1) ended).trans (later_later delays _)

end Batch

namespace Directory

variable {σ α : Type} {directory next : Directory σ} {call : Call σ BackendFault α}
  {calls : List (Except Fault (Call σ BackendFault α))} {fuel : Nat} {fault : Fault} {waited : Nat}

def concluded (directory : Directory σ) (ended : List (Element σ α) × Shared σ × Nat) :
    Timed (List (Except Fault α)) × Directory σ :=
  (⟨ended.1.map (·.phase.result), ended.2.2 * directory.retry.delay⟩,
    { directory with store := ended.2.1.store, isReady := ended.2.1.isReady })

theorem callMany_rounds (directory : Directory σ)
    (lasts : Batch.left directory.retry (directory.begun calls).1 < fuel) :
    directory.callMany calls = directory.concluded
      (Batch.rounds directory.retry directory.backend fuel (directory.begun calls).1
        (directory.begun calls).2) := by
  have same : Batch.rounds directory.retry directory.backend
        (Batch.enough directory.retry (directory.begun calls).1) (directory.begun calls).1
        (directory.begun calls).2 =
      Batch.rounds directory.retry directory.backend fuel (directory.begun calls).1
        (directory.begun calls).2 :=
    Batch.rounds_stable nofun (Batch.left_enough _ _) lasts
  rw [← same]
  rfl

theorem begun_idle (directory : Directory σ) (calls : List (Except Fault (Call σ BackendFault α))) :
    ∀ element ∈ (directory.begun calls).1,
      element.phase = .waiting ∨ element.phase.isDone = true := by
  intro element present
  obtain ⟨call, _, rfl⟩ := List.mem_map.mp present
  cases call with
  | ok call => exact .inl rfl
  | error fault => exact .inr rfl

theorem callMany_unreadable (directory : Directory σ) (fault : Fault)
    (calls : List (Except Fault (Call σ BackendFault α))) :
    directory.callMany (.error fault :: calls) =
      (⟨.error fault :: (directory.callMany calls).1.result, (directory.callMany calls).1.waited⟩,
        (directory.callMany calls).2) := by
  let element : Element σ α := ⟨fun store => (.error .serialization, store), .done (.error fault)⟩
  have begun : (directory.begun (.error fault :: calls)).1 = element :: (directory.begun calls).1 :=
    rfl
  have lasts : Batch.left directory.retry (directory.begun calls).1 <
      Batch.left directory.retry (directory.begun calls).1 + 1 := Nat.lt_succ_self _
  have longer : Batch.left directory.retry (directory.begun (.error fault :: calls)).1 <
      Batch.left directory.retry (directory.begun calls).1 + 1 := by
    rw [begun, Batch.left_cons]
    simp [element, Phase.left]
  have finished : element.phase.isDone = true := rfl
  rw [callMany_rounds directory longer, callMany_rounds directory lasts, begun,
    Batch.rounds_done finished]
  rfl

theorem callMany_unready (unready : directory.isReady = false) {result : Except Fault Unit}
    {total : Nat} {last : σ} (ran : Retry.runFrom directory.backend.prepare directory.retry.further
      0 directory.store = (result, total, last))
    (call : Call σ BackendFault α) (calls : List (Except Fault (Call σ BackendFault α))) :
    ∃ delays fuel, Batch.left directory.retry (directory.begun (.ok call :: calls)).1 < fuel ∧
      delays * directory.retry.delay = (total - 1) * directory.retry.delay ∧
      directory.callMany (.ok call :: calls) = directory.concluded (Batch.later delays
        (Batch.rounds directory.retry directory.backend fuel
          ((Element.readied ⟨call, .waiting⟩ last result).1 :: (directory.begun calls).1)
          (Element.readied ⟨call, .waiting⟩ last result).2)) := by
  have lasts : Batch.left directory.retry (directory.begun (.ok call :: calls)).1 <
      Batch.left directory.retry (directory.begun (.ok call :: calls)).1 +
        directory.retry.further + 1 := by omega
  have first : (⟨call, .waiting⟩ : Element σ α).turn directory.retry directory.backend
        ⟨directory.store, directory.isReady, false⟩ =
      (⟨call, .waiting⟩ : Element σ α).prepare directory.retry directory.backend 0
        ⟨directory.store, directory.isReady, false⟩ := by
    simp [Element.turn, unready]
  obtain ⟨delays, fuel, more, time, ended⟩ :=
    Batch.rounds_readied first (directory.begun_idle calls) (Nat.lt_succ_self _)
  simp only [Nat.sub_zero, ran] at time ended
  exact ⟨delays, fuel, more, time,
    (callMany_rounds directory lasts).trans (congrArg directory.concluded ended)⟩

theorem ensureReady_unready (unready : directory.isReady = false) {result : Except Fault Unit}
    {total : Nat} {last : σ} (ran : Retry.runFrom directory.backend.prepare directory.retry.further
      0 directory.store = (result, total, last)) :
    directory.ensureReady = (⟨result, (total - 1) * directory.retry.delay⟩,
      { directory with store := last, isReady := result.isOk }) := by
  simp [ensureReady, unready, Retry.run, ran]

theorem concluded_later {delays : Nat} (time : delays * directory.retry.delay = waited)
    (ended : List (Element σ α) × Shared σ × Nat) :
    directory.concluded (Batch.later delays ended) =
      (⟨(directory.concluded ended).1.result, waited + (directory.concluded ended).1.waited⟩,
        (directory.concluded ended).2) := by
  have sum : (ended.2.2 + delays) * directory.retry.delay =
      waited + ended.2.2 * directory.retry.delay := by
    rw [Nat.add_mul, time, Nat.add_comm]
  simp only [concluded, Batch.later, sum]

theorem callMany_failed (unready : directory.isReady = false)
    (failed : directory.ensureReady = (⟨.error fault, waited⟩, next))
    (call : Call σ BackendFault α) (calls : List (Except Fault (Call σ BackendFault α))) :
    directory.callMany (.ok call :: calls) =
      (⟨.error fault :: (next.callMany calls).1.result, waited + (next.callMany calls).1.waited⟩,
        (next.callMany calls).2) := by
  obtain ⟨⟨result, total, last⟩, ran⟩ : ∃ run, Retry.runFrom directory.backend.prepare
    directory.retry.further 0 directory.store = run := ⟨_, rfl⟩
  cases failed.symm.trans (ensureReady_unready unready ran)
  obtain ⟨delays, fuel, lasts, time, ended⟩ := callMany_unready unready ran call calls
  have fewer : Batch.left directory.retry (directory.begun calls).1 < fuel :=
    Nat.lt_of_le_of_lt (Nat.le_add_left ..) lasts
  have rest := callMany_rounds
    { directory with store := last, isReady := (.error fault : Except Fault Unit).isOk } fewer
  rw [rest, ended, concluded_later time, Element.readied, Batch.rounds_done rfl]
  rfl

theorem callMany_readied (unready : directory.isReady = false)
    (readied : directory.ensureReady = (⟨.ok (), waited⟩, next))
    (call : Call σ BackendFault α) (calls : List (Except Fault (Call σ BackendFault α))) :
    directory.callMany (.ok call :: calls) =
      (⟨(next.callMany (.ok call :: calls)).1.result,
          waited + (next.callMany (.ok call :: calls)).1.waited⟩,
        (next.callMany (.ok call :: calls)).2) := by
  obtain ⟨⟨result, total, last⟩, ran⟩ : ∃ run, Retry.runFrom directory.backend.prepare
    directory.retry.further 0 directory.store = run := ⟨_, rfl⟩
  cases readied.symm.trans (ensureReady_unready unready ran)
  obtain ⟨delays, fuel, lasts, time, ended⟩ := callMany_unready unready ran call calls
  have all := callMany_rounds
    { directory with store := last, isReady := (.ok () : Except Fault Unit).isOk } lasts
  rw [all, ended, concluded_later time, Element.readied]
  rfl

end Directory

-- What a directory does with one item and with many at once, what it answers for an item for
-- which a fault stands in the way, and whether that is so before the store is called.
structure Operation (σ α β : Type) where
  one : Directory σ → α → Timed β × Directory σ
  many : Directory σ → List α → Timed (List β) × Directory σ
  failed : α → Fault → β
  unread? : α → Option Fault

def Entry.unread? (entry : Entry) : Option Fault :=
  match entry.toAddress with
  | .ok _ => none
  | .error fault => some (.parse fault)

theorem Entry.unread?_eq_none {entry : Entry} :
    entry.unread? = none ↔ ∃ address, entry.toAddress = .ok address := by
  rw [unread?]
  cases entry.toAddress <;> simp

theorem Entry.unread?_eq_some {entry : Entry} {fault : Fault} :
    entry.unread? = some fault ↔ ∃ cause, entry.toAddress = .error cause ∧ .parse cause = fault := by
  rw [unread?]
  cases entry.toAddress <;> simp

namespace Operation

variable {σ α β : Type}

def registering : Operation σ Entry Outcome :=
  ⟨Directory.register, Directory.registerMany, .failure, Entry.unread?⟩

def unregistering : Operation σ Entry Outcome :=
  ⟨Directory.unregister, Directory.unregisterMany, .failure, Entry.unread?⟩

def lookingUp : Operation σ String (Except Fault (Option Entry)) :=
  ⟨Directory.lookup, Directory.lookupMany, fun _ => .error, fun _ => none⟩

-- The first item that needs the store gets the fault for an answer, after some time. The others
-- are dealt with as if they were asked of the directory that is left then.
structure FailsAlone (operation : Operation σ α β) (directory : Directory σ) (fault : Fault)
    (waited : Nat) (next : Directory σ) : Prop where
  one : ∀ item, operation.unread? item = none →
    operation.one directory item = (⟨operation.failed item fault, waited⟩, next)
  many : ∀ item items, operation.unread? item = none →
    operation.many directory (item :: items) =
      (⟨operation.failed item fault :: (operation.many next items).1.result,
        waited + (operation.many next items).1.waited⟩, (operation.many next items).2)
  unread : ∀ item items found, operation.unread? item = some found →
    operation.one directory item = (⟨operation.failed item found, 0⟩, directory) ∧
      operation.many directory (item :: items) =
        (⟨operation.failed item found :: (operation.many directory items).1.result,
          (operation.many directory items).1.waited⟩, (operation.many directory items).2)

end Operation

namespace Directory

variable {σ : Type} {directory next : Directory σ} {fault : Fault} {waited : Nat}

theorem addressOf_error {entry : Entry} {cause : ParseFault}
    (read : entry.toAddress = .error cause) : addressOf entry = .error (.parse cause) := by
  rw [addressOf, read]
  rfl

theorem ensureReady_backend (directory : Directory σ) :
    directory.ensureReady.2.backend = directory.backend := by
  rw [ensureReady]
  split <;> rfl

theorem ensureReady_isReady (directory : Directory σ) :
    directory.ensureReady.2.isReady = directory.ensureReady.1.result.isOk := by
  cases ready : directory.isReady <;> simp [ensureReady, ready, Except.isOk, Except.toBool]

theorem unready_of_failed (failed : directory.ensureReady = (⟨.error fault, waited⟩, next)) :
    directory.isReady = false := by
  cases ready : directory.isReady with
  | false => rfl
  | true => simp [ensureReady, ready] at failed

theorem call_failed (failed : directory.ensureReady = (⟨.error fault, waited⟩, next))
    {α : Type} (call : Call σ BackendFault α) :
    directory.call call = (⟨.error fault, waited⟩, next) := by
  rw [Directory.call, failed]

theorem registering_failsAlone (failed : directory.ensureReady = (⟨.error fault, waited⟩, next)) :
    Operation.registering.FailsAlone directory fault waited next := by
  have unready := unready_of_failed failed
  have same : next.backend = directory.backend := by
    simpa only [failed] using directory.ensureReady_backend
  refine ⟨fun entry reads => ?_, fun entry entries reads => ?_, fun entry entries found unread => ?_⟩
  · obtain ⟨address, read⟩ := Entry.unread?_eq_none.mp reads
    simp only [Operation.registering, register, read, call_failed failed, registered]
  · obtain ⟨address, read⟩ := Entry.unread?_eq_none.mp reads
    have called := addressOf_eq_ok.mpr read
    simp only [Operation.registering, registerMany, List.map_cons, called, Except.map,
      callMany_failed unready failed, List.zipWith_cons_cons, registered, same]
  · obtain ⟨cause, read, rfl⟩ := Entry.unread?_eq_some.mp unread
    have called := addressOf_error read
    refine ⟨by simp only [Operation.registering, register, read], ?_⟩
    simp only [Operation.registering, registerMany, List.map_cons, called, Except.map,
      callMany_unreadable, List.zipWith_cons_cons]

theorem unregistering_failsAlone
    (failed : directory.ensureReady = (⟨.error fault, waited⟩, next)) :
    Operation.unregistering.FailsAlone directory fault waited next := by
  have unready := unready_of_failed failed
  have same : next.backend = directory.backend := by
    simpa only [failed] using directory.ensureReady_backend
  refine ⟨fun entry reads => ?_, fun entry entries reads => ?_, fun entry entries found unread => ?_⟩
  · obtain ⟨address, read⟩ := Entry.unread?_eq_none.mp reads
    simp only [Operation.unregistering, unregister, read, call_failed failed, unregistered]
  · obtain ⟨address, read⟩ := Entry.unread?_eq_none.mp reads
    have called := addressOf_eq_ok.mpr read
    simp only [Operation.unregistering, unregisterMany, List.map_cons, called, Except.map,
      callMany_failed unready failed, List.zipWith_cons_cons, unregistered, same]
  · obtain ⟨cause, read, rfl⟩ := Entry.unread?_eq_some.mp unread
    have called := addressOf_error read
    refine ⟨by simp only [Operation.unregistering, unregister, read], ?_⟩
    simp only [Operation.unregistering, unregisterMany, List.map_cons, called, Except.map,
      callMany_unreadable, List.zipWith_cons_cons, unregistered]

theorem lookingUp_failsAlone (failed : directory.ensureReady = (⟨.error fault, waited⟩, next)) :
    Operation.lookingUp.FailsAlone directory fault waited next := by
  have unready := unready_of_failed failed
  have same : next.backend = directory.backend := by
    simpa only [failed] using directory.ensureReady_backend
  refine ⟨fun grain _ => ?_, fun grain grains _ => ?_, nofun⟩
  · simp only [Operation.lookingUp, lookup, call_failed failed, found]
  · simp only [Operation.lookingUp, lookupMany, List.map_cons, callMany_failed unready failed,
      found, same]

end Directory
end ActorDirectory
