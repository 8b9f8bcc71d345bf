import ActorDirectory.Store.Batch

-- The calls of a batch take turns, and in whatever order they do, each gets to its end.
namespace ActorDirectory

namespace Attempted

def value? {α : Type} : Attempted α → Option α
  | done (.ok value) => some value
  | _ => none

end Attempted

namespace Phase

variable {α : Type}

def value? : Phase α → Option α
  | done (.ok value) => some value
  | _ => none

theorem result_eq_ok {phase : Phase α} {value : α} :
    phase.result = .ok value ↔ phase.value? = some value := by
  cases phase with
  | done result => cases result <;> simp [result, value?]
  | _ => simp [result, value?]

-- A bound on the turns that a call needs, apart from those in which it only waits for another.
def left (retry : Retry) : Phase α → Nat
  | waiting => 2 * (retry.further + 1)
  | preparing made => (retry.further - made) + retry.further + 2
  | calling made => retry.further - made + 1
  | done _ => 0

end Phase

namespace Retry

variable {σ α : Type} {retry : Retry} {call : Call σ BackendFault α} {store after : σ}

inductive Attempts (call : Call σ BackendFault α) : σ → Option α × σ → Prop where
  | answered {store after : σ} {value : α} : call store = (.ok value, after) →
      Attempts call store (some value, after)
  | failed {store after : σ} {fault : BackendFault} : call store = (.error fault, after) →
      Attempts call store (none, after)
  | again {store next : σ} {fault : BackendFault} {result : Option α × σ} :
      call store = (.error fault, next) → Attempts call next result → Attempts call store result

theorem attempt_attempts (retry : Retry) (call : Call σ BackendFault α) (further made : Nat)
    (store : σ) : Attempts call store
      ((retry.attempt call further made store).1.value?,
        (retry.attempt call further made store).2) := by
  induction further generalizing made store with
  | zero =>
    rw [attempt]
    split
    · rename_i answered
      exact .answered answered
    · rename_i failed
      split
      · exact .failed failed
      · exact .failed failed
  | succ further ih =>
    rw [attempt]
    split
    · rename_i answered
      exact .answered answered
    · rename_i failed
      split
      · dsimp only
        split
        · exact .again failed (ih (made + 1) _)
        · exact .failed failed
      · exact .failed failed

theorem resume_attempts (retry : Retry) (call : Call σ BackendFault α) (made : Nat) (store : σ) :
    Attempts call store
      ((retry.resume call made store).1.value?, (retry.resume call made store).2) :=
  attempt_attempts retry call (retry.further - made) made store

theorem runFrom_attempts (call : Call σ BackendFault α) (further made : Nat) (store : σ) :
    Attempts call store ((runFrom call further made store).1.toOption,
      (runFrom call further made store).2.2) := by
  induction further generalizing made store with
  | zero =>
    rw [runFrom]
    split
    · rename_i answered
      exact .answered answered
    · rename_i failed
      dsimp only
      split <;> exact .failed failed
  | succ further ih =>
    rw [runFrom]
    split
    · rename_i answered
      exact .answered answered
    · rename_i failed
      dsimp only
      split
      · exact .again failed (ih (made + 1) _)
      · exact .failed failed

theorem attempt_again {further made later : Nat}
    (again : retry.attempt call further made store = (.again later, after)) :
    made < later ∧ later ≤ made + further := by
  induction further generalizing made store with
  | zero =>
    rw [attempt] at again
    split at again
    · cases again
    · split at again
      · cases again
      · cases again
  | succ further ih =>
    rw [attempt] at again
    split at again
    · cases again
    · split at again
      · dsimp only at again
        split at again
        · have bounds := ih again
          omega
        · cases again
          omega
      · cases again

theorem resume_again {made later : Nat}
    (again : retry.resume call made store = (.again later, after)) :
    made < later ∧ later ≤ retry.further := by
  have bounds := attempt_again again
  omega

end Retry

namespace Element

variable {σ α : Type} (retry : Retry) (backend : Backend σ) (element : Element σ α)
  (shared : Shared σ)

def Prepares (element : Element σ α) : Prop := ∃ made, element.phase = .preparing made

def Idle (element : Element σ α) (shared : Shared σ) : Prop :=
  element.phase.isDone = true ∨ element.phase = .waiting ∧ shared.isHeld = true

theorem callStore_left (made : Nat) :
    (element.callStore retry made shared).1.phase.left retry < retry.further - made + 1 := by
  rw [callStore]
  split
  · exact Nat.succ_pos _
  · rename_i later _ again
    have bounds := Retry.resume_again again
    simp only [Phase.left]
    omega

theorem callStore_held (made : Nat) :
    (element.callStore retry made shared).2.isHeld = shared.isHeld := by
  rw [callStore]
  split <;> rfl

theorem callStore_call (made : Nat) :
    (element.callStore retry made shared).1.call = element.call := by
  rw [callStore]
  split <;> rfl

theorem prepare_left (made : Nat) :
    (element.prepare retry backend made shared).1.phase.left retry <
      (retry.further - made) + retry.further + 2 := by
  rw [prepare]
  split
  · rename_i store _
    have called := callStore_left retry element ⟨store, true, false⟩ 0
    omega
  · exact Nat.succ_pos _
  · rename_i later _ again
    have bounds := Retry.resume_again again
    simp only [Phase.left]
    omega

theorem prepare_call (made : Nat) :
    (element.prepare retry backend made shared).1.call = element.call := by
  rw [prepare]
  split
  · exact callStore_call retry element _ 0
  · rfl
  · rfl

theorem turn_call : (element.turn retry backend shared).1.call = element.call := by
  rw [turn]
  split
  · rfl
  · exact callStore_call retry element shared _
  · exact prepare_call retry backend element shared _
  · split
    · exact callStore_call retry element shared 0
    · split
      · rfl
      · exact prepare_call retry backend element shared 0

variable {retry backend element shared}

theorem not_idle (prepares : element.Prepares) : ¬element.Idle shared := by
  obtain ⟨made, phase⟩ := prepares
  rintro (finished | ⟨waiting, _⟩)
  · simp [phase, Phase.isDone] at finished
  · cases phase.symm.trans waiting

theorem prepare_held {made : Nat}
    (held : (element.prepare retry backend made shared).2.isHeld = true) :
    (element.prepare retry backend made shared).1.Prepares := by
  rw [prepare] at held ⊢
  split at held
  · rw [callStore_held retry element _ 0] at held
    cases held
  · cases held
  · exact ⟨_, rfl⟩

-- A turn that does not bring the call nearer to its end changes nothing at all.
theorem turn_left (retry : Retry) (backend : Backend σ) (element : Element σ α)
    (shared : Shared σ) :
    (element.turn retry backend shared).1.phase.left retry < element.phase.left retry ∨
      element.turn retry backend shared = (element, shared) ∧ element.Idle shared := by
  cases phase : element.phase with
  | done result => exact .inr ⟨by simp [turn, phase], .inl (by simp [phase, Phase.isDone])⟩
  | calling made =>
    refine .inl ?_
    simp only [turn, phase]
    exact callStore_left retry element shared made
  | preparing made =>
    refine .inl ?_
    simp only [turn, phase]
    exact prepare_left retry backend element shared made
  | waiting =>
    have whole : retry.further + (retry.further + 2) ≤ Phase.left retry (.waiting : Phase α) := by
      simp only [Phase.left]
      omega
    simp only [turn, phase]
    split
    · have called := callStore_left retry element shared 0
      exact .inl (by omega)
    · split
      · rename_i held
        exact .inr ⟨rfl, .inr ⟨phase, held⟩⟩
      · have prepared := prepare_left retry backend element shared 0
        exact .inl (by omega)

theorem turn_held (held : (element.turn retry backend shared).2.isHeld = true) :
    (element.turn retry backend shared).1.Prepares ∨
      shared.isHeld = true ∧ ¬element.Prepares := by
  cases phase : element.phase with
  | done result =>
    simp only [turn, phase] at held
    exact .inr ⟨held, fun ⟨_, same⟩ => nomatch phase.symm.trans same⟩
  | calling made =>
    simp only [turn, phase, callStore_held retry element shared made] at held
    exact .inr ⟨held, fun ⟨_, same⟩ => nomatch phase.symm.trans same⟩
  | preparing made =>
    simp only [turn, phase] at held ⊢
    exact .inl (prepare_held held)
  | waiting =>
    simp only [turn, phase] at held ⊢
    split at held
    · rw [callStore_held retry element _ 0] at held
      exact .inr ⟨held, fun ⟨_, same⟩ => nomatch phase.symm.trans same⟩
    · split at held
      · exact .inr ⟨held, fun ⟨_, same⟩ => nomatch phase.symm.trans same⟩
      · rename_i unready free
        rw [if_neg unready, if_neg free]
        exact .inl (prepare_held held)

end Element

namespace Batch

variable {σ α : Type} {retry : Retry} {backend : Backend σ} {elements : List (Element σ α)}
  {shared : Shared σ} {state middle after : List (Element σ α) × Shared σ}

inductive Works (retry : Retry) (backend : Backend σ) :
    List (Element σ α) × Shared σ → List (Element σ α) × Shared σ → Prop where
  | done {state : List (Element σ α) × Shared σ} : Works retry backend state state
  | turn {elements : List (Element σ α)} {shared : Shared σ}
      {after : List (Element σ α) × Shared σ} (number : Nat) {element : Element σ α} :
      elements[number]? = some element →
      Works retry backend (elements.set number (element.turn retry backend shared).1,
        (element.turn retry backend shared).2) after →
      Works retry backend (elements, shared) after

theorem works_trans (one : Works retry backend state middle)
    (two : Works retry backend middle after) : Works retry backend state after := by
  induction one with
  | done => exact two
  | turn number found _ ih => exact .turn number found (ih two)

theorem works_induction {motive : List (Element σ α) × Shared σ → Prop}
    (turn : ∀ elements shared number element, elements[number]? = some element →
      motive (elements, shared) →
      motive (elements.set number (element.turn retry backend shared).1,
        (element.turn retry backend shared).2))
    (works : Works retry backend state after) (start : motive state) : motive after := by
  induction works with
  | done => exact start
  | turn number found _ ih => exact ih (turn _ _ number _ found start)

theorem turns_works (retry : Retry) (backend : Backend σ) (elements : List (Element σ α))
    (shared : Shared σ) :
    Works retry backend (elements, shared) (turns retry backend elements shared) := by
  suffices ∀ earlier : List (Element σ α), Works retry backend (earlier ++ elements, shared)
      (earlier ++ (turns retry backend elements shared).1,
        (turns retry backend elements shared).2) from this []
  induction elements generalizing shared with
  | nil => exact fun _ => .done
  | cons element rest ih =>
    intro earlier
    have found : (earlier ++ element :: rest)[earlier.length]? = some element := by simp
    refine .turn earlier.length found ?_
    have later := ih (element.turn retry backend shared).2
      (earlier ++ [(element.turn retry backend shared).1])
    simpa [turns] using later

theorem rounds_works (retry : Retry) (backend : Backend σ) (fuel : Nat)
    (elements : List (Element σ α)) (shared : Shared σ) :
    Works retry backend (elements, shared)
      ((rounds retry backend fuel elements shared).1,
        (rounds retry backend fuel elements shared).2.1) := by
  induction fuel generalizing elements shared with
  | zero => exact .done
  | succ fuel ih =>
    have turned := turns_works retry backend elements shared
    rw [rounds]
    generalize turns retry backend elements shared = round at turned ⊢
    dsimp only
    split
    · exact turned
    · exact works_trans turned (ih round.1 round.2)

def Held (state : List (Element σ α) × Shared σ) : Prop :=
  state.2.isHeld = true → ∃ element ∈ state.1, element.Prepares

theorem works_held (works : Works retry backend state after) (held : Held state) :
    Held after := by
  refine works_induction (fun elements shared number element found held busy => ?_) works held
  obtain ⟨inside, rfl⟩ := List.getElem?_eq_some_iff.mp found
  rcases Element.turn_held busy with prepares | ⟨before, idle⟩
  · exact ⟨_, List.mem_set inside _, prepares⟩
  · obtain ⟨other, present, prepares⟩ := held before
    refine ⟨other, ?_, prepares⟩
    obtain ⟨place, there, rfl⟩ := List.mem_iff_getElem.mp present
    refine List.mem_iff_getElem.mpr ⟨place, by simpa using there, ?_⟩
    rw [List.getElem_set_ne]
    exact fun same => idle (by simpa [same] using prepares)

def left (retry : Retry) (elements : List (Element σ α)) : Nat :=
  elements.foldr (fun element rest => element.phase.left retry + rest) 0

theorem left_cons (element : Element σ α) (rest : List (Element σ α)) :
    left retry (element :: rest) = element.phase.left retry + left retry rest := rfl

theorem turns_left (retry : Retry) (backend : Backend σ) (elements : List (Element σ α))
    (shared : Shared σ) :
    left retry (turns retry backend elements shared).1 < left retry elements ∨
      turns retry backend elements shared = (elements, shared) ∧
        ∀ element ∈ elements, element.Idle shared := by
  induction elements generalizing shared with
  | nil => exact .inr ⟨rfl, nofun⟩
  | cons element rest ih =>
    have later := ih (element.turn retry backend shared).2
    simp only [turns, left_cons]
    rcases element.turn_left retry backend shared with nearer | ⟨same, idle⟩
    · rcases later with fewer | ⟨unchanged, _⟩
      · exact .inl (by omega)
      · rw [unchanged]
        exact .inl (Nat.add_lt_add_right nearer _)
    · rw [same] at later ⊢
      rcases later with fewer | ⟨unchanged, others⟩
      · exact .inl (Nat.add_lt_add_left fewer _)
      · rw [unchanged]
        exact .inr ⟨rfl, by simpa using ⟨idle, others⟩⟩

theorem left_enough (retry : Retry) (elements : List (Element σ α)) :
    left retry elements < enough retry elements := by
  have each : ∀ phase : Phase α, phase.left retry ≤ 2 * (retry.further + 1) := by
    intro phase
    cases phase <;> simp only [Phase.left] <;> omega
  refine Nat.lt_succ_of_le ?_
  induction elements with
  | nil => exact Nat.zero_le _
  | cons element rest ih =>
    rw [left_cons, List.length_cons, Nat.mul_succ, Nat.add_comm]
    exact Nat.add_le_add ih (each element.phase)

theorem idle_finished (held : Held (elements, shared))
    (idle : ∀ element ∈ elements, element.Idle shared) :
    ∀ element ∈ elements, element.phase.isDone = true := by
  intro element present
  rcases idle element present with finished | ⟨_, busy⟩
  · exact finished
  · obtain ⟨other, there, prepares⟩ := held busy
    exact absurd (idle other there) (Element.not_idle prepares)

theorem rounds_finished {fuel : Nat} (held : Held (elements, shared))
    (enough : left retry elements < fuel) :
    ∀ element ∈ (rounds retry backend fuel elements shared).1, element.phase.isDone = true := by
  induction fuel generalizing elements shared with
  | zero => omega
  | succ fuel ih =>
    have nearer := turns_left retry backend elements shared
    have works := turns_works retry backend elements shared
    rw [rounds]
    generalize turns retry backend elements shared = turned at nearer works ⊢
    obtain ⟨later, next⟩ := turned
    dsimp only at nearer ⊢
    split
    · rename_i finished
      simpa using finished
    · rename_i unfinished
      refine ih (works_held works held) ?_
      rcases nearer with fewer | ⟨same, idle⟩
      · omega
      · cases same
        exact absurd (List.all_eq_true.mpr (idle_finished held idle)) unfinished

end Batch

namespace Directory

variable {σ α : Type}

def begun (directory : Directory σ)
    (calls : List (Except Fault (Call σ BackendFault α))) : List (Element σ α) × Shared σ :=
  (calls.map fun
    | .ok call => ⟨call, .waiting⟩
    | .error fault => ⟨fun store => (.error .serialization, store), .done (.error fault)⟩,
    ⟨directory.store, directory.isReady, false⟩)

structure Ends (directory : Directory σ)
    (calls : List (Except Fault (Call σ BackendFault α)))
    (after : List (Element σ α) × Shared σ) : Prop where
  works : Batch.Works directory.retry directory.backend (directory.begun calls) after
  finished : ∀ element ∈ after.1, element.phase.isDone = true

def resting (directory : Directory σ) (after : List (Element σ α) × Shared σ) :
    Directory σ :=
  { directory with store := after.2.store, isReady := after.2.isReady }

theorem callMany_ends (directory : Directory σ)
    (calls : List (Except Fault (Call σ BackendFault α))) :
    ∃ after, directory.Ends calls after ∧
      (directory.callMany calls).1.result = after.1.map (·.phase.result) ∧
      (directory.callMany calls).2 = directory.resting after :=
  ⟨_, ⟨Batch.rounds_works _ _ (Batch.enough directory.retry (directory.begun calls).1) _ _,
    Batch.rounds_finished nofun (Batch.left_enough _ _)⟩, rfl, rfl⟩

theorem addressOf_eq_ok {entry : Entry} {address : Address} :
    addressOf entry = .ok address ↔ entry.toAddress = .ok address := by
  rw [addressOf]
  cases entry.toAddress with
  | error fault => constructor <;> (intro read; cases read)
  | ok other => constructor <;> (intro read; cases read; rfl)

end Directory
end ActorDirectory
