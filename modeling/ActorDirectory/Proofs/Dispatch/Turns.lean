import ActorDirectory.Dispatch.Clock

-- Lanes that run in any order. What waits is seen as a relation between keys and operations:
-- neither the order of lanes nor the places within them matter to what is still to be done.
namespace ActorDirectory

theorem exists_modify {α : Type} {before after : α → Prop} {change : α → α} {items : List α}
    {place : Nat} (kept : ∀ a, before a → after a)
    (changed : ∀ a, items[place]? = some a → before a → after (change a)) :
    (∃ a ∈ items, before a) → ∃ a ∈ items.modify place change, after a := by
  rintro ⟨a, present, holds⟩
  obtain ⟨number, found⟩ := List.mem_iff_getElem?.mp present
  by_cases here : place = number
  · subst here
    exact ⟨change a, List.mem_of_getElem? (i := place) (by simp [found]), changed a found holds⟩
  · exact ⟨a, List.mem_of_getElem? (i := number) (by simp [here, found]), kept a holds⟩

theorem of_exists_modify {α : Type} {before after : α → Prop} {change : α → α} {items : List α}
    {place : Nat} (kept : ∀ a, after a → before a)
    (changed : ∀ a, items[place]? = some a → after (change a) → before a) :
    (∃ a ∈ items.modify place change, after a) → ∃ a ∈ items, before a := by
  rintro ⟨b, present, holds⟩
  obtain ⟨number, found⟩ := List.mem_iff_getElem?.mp present
  by_cases here : place = number
  · subst here
    simp only [List.getElem?_modify_eq, Option.map_eq_map, Option.map_eq_some_iff] at found
    obtain ⟨a, found, rfl⟩ := found
    exact ⟨a, List.mem_of_getElem? found, changed a found holds⟩
  · rw [List.getElem?_modify_ne _ _ here] at found
    exact ⟨b, List.mem_of_getElem? found, kept b holds⟩

namespace Lane

variable {κ ω : Type}

def Awaits (lane : Lane κ ω) (key : κ) (operation : ω) : Prop :=
  lane.key = key ∧ lane.isHalted = false ∧ operation ∈ lane.waiting

def Refuses (lane : Lane κ ω) (key : κ) : Prop :=
  lane.key = key ∧ lane.isOpen = true ∧ lane.isHalted = true

def next? (lane : Lane κ ω) : Option ω := if lane.isHalted then none else lane.waiting.head?

end Lane

namespace Dispatch

variable {κ ω σ : Type}

def Pending (dispatch : Dispatch κ ω σ) (key : κ) (operation : ω) : Prop :=
  ∃ lane ∈ dispatch.lanes, lane.Awaits key operation

def IsDrained (dispatch : Dispatch κ ω σ) : Prop :=
  ∀ key operation, ¬dispatch.Pending key operation

theorem drained_of_idle {dispatch : Dispatch κ ω σ}
    (idle : ∀ lane ∈ dispatch.lanes, lane.waiting = []) : dispatch.IsDrained := by
  rintro key operation ⟨lane, present, _, _, waits⟩
  rw [idle lane present] at waits
  cases waits

def Accepting (dispatch : Dispatch κ ω σ) (key : κ) : Prop :=
  ¬∃ lane ∈ dispatch.lanes, lane.Refuses key

def next? (dispatch : Dispatch κ ω σ) (number : Nat) : Option (Lane κ ω × ω) := do
  let lane ← dispatch.lanes[number]?
  let operation ← lane.next?
  some (lane, operation)

@[simp] theorem wake_lanes (dispatch : Dispatch κ ω σ) (number : Nat) :
    (dispatch.wake number).lanes = dispatch.lanes := by
  unfold wake
  split <;> rfl

@[simp] theorem wake_world (dispatch : Dispatch κ ω σ) (number : Nat) :
    (dispatch.wake number).world = dispatch.world := by
  unfold wake
  split <;> rfl

theorem setLane_lanes (dispatch : Dispatch κ ω σ) (number : Nat) (lane : Lane κ ω) :
    (dispatch.setLane number lane).lanes = dispatch.lanes.modify number fun _ => lane := by
  refine List.ext_getElem? fun place => ?_
  simp only [setLane, List.getElem?_set', List.getElem?_modify]
  split
  · rfl
  · simp

section SetLane

variable {dispatch : Dispatch κ ω σ} {number : Nat} {lane changed : Lane κ ω} {key : κ} {task : ω}

theorem setLane_accepting (found : dispatch.lanes[number]? = some lane)
    (same : changed.key = lane.key ∧ changed.isOpen = lane.isOpen ∧ changed.isHalted = lane.isHalted)
    (accepting : dispatch.Accepting key) : (dispatch.setLane number changed).Accepting key := by
  intro refused
  rw [setLane_lanes] at refused
  refine accepting (of_exists_modify (fun _ => id) ?_ refused)
  rintro other here ⟨keyed, opened, halted⟩
  rw [found] at here
  cases here
  exact ⟨same.1 ▸ keyed, same.2.1 ▸ opened, same.2.2 ▸ halted⟩

theorem setLane_keeps (found : dispatch.lanes[number]? = some lane)
    (kept : lane.Awaits key task → changed.Awaits key task)
    (pending : dispatch.Pending key task) : (dispatch.setLane number changed).Pending key task := by
  rw [Pending, setLane_lanes]
  refine exists_modify (fun _ => id) ?_ pending
  intro other here waits
  rw [found] at here
  cases here
  exact kept waits

theorem of_setLane (found : dispatch.lanes[number]? = some lane)
    (kept : changed.Awaits key task → lane.Awaits key task)
    (pending : (dispatch.setLane number changed).Pending key task) : dispatch.Pending key task := by
  rw [Pending, setLane_lanes] at pending
  refine of_exists_modify (fun _ => id) ?_ pending
  intro other here waits
  rw [found] at here
  cases here
  exact kept waits

end SetLane

section Stop

variable {dispatch : Dispatch κ ω σ} {chosen : κ → Bool} {key : κ} {task : ω}

theorem halt_accepting (other : chosen key = false) (accepting : dispatch.Accepting key) :
    (dispatch.halt chosen).Accepting key := by
  rintro ⟨_, halted, same, opened, stopped⟩
  obtain ⟨lane, present, rfl⟩ := List.mem_map.mp halted
  split at same
  · rename_i here
    exact Bool.noConfusion (here.symm.trans ((congrArg chosen same).trans other))
  · rename_i elsewhere
    simp only [elsewhere, Bool.false_eq_true, ↓reduceIte] at opened stopped
    exact accepting ⟨lane, present, same, opened, stopped⟩

theorem blank_accepting (either : chosen key = true ∨ dispatch.Accepting key) :
    (dispatch.blank chosen).Accepting key := by
  rintro ⟨_, blanked, same, opened, halted⟩
  obtain ⟨lane, present, rfl⟩ := List.mem_map.mp blanked
  split at opened
  · cases opened
  · rename_i other
    simp only [other, Bool.false_eq_true, ↓reduceIte] at same halted
    rcases either with here | accepting
    · exact other (same ▸ here)
    · exact accepting ⟨lane, present, same, opened, halted⟩

end Stop

variable [DecidableEq κ]

theorem openLane_key {dispatch : Dispatch κ ω σ} {key : κ} {number : Nat} {lane : Lane κ ω}
    (found : dispatch.openLane? key = some number) (here : dispatch.lanes[number]? = some lane) :
    lane.key = key ∧ lane.isOpen = true := by
  obtain ⟨bound, holds, _⟩ := List.findIdx?_eq_some_iff_getElem.mp found
  obtain ⟨_, same⟩ := List.getElem?_eq_some_iff.mp here
  simpa [same, and_comm] using holds

section Enqueue

variable (dispatch : Dispatch κ ω σ) (key : κ) (operation : ω) {other : κ} {task : ω}

theorem enqueue_world : (dispatch.enqueue key operation).world = dispatch.world := by
  unfold enqueue
  split <;> simp

theorem enqueue_keeps (pending : dispatch.Pending other task) :
    (dispatch.enqueue key operation).Pending other task := by
  unfold enqueue
  split
  · simp only [Pending, wake_lanes]
    refine exists_modify (fun _ => id) ?_ pending
    rintro lane _ ⟨same, live, waits⟩
    exact ⟨same, live, List.mem_append_left _ waits⟩
  · obtain ⟨lane, present, waits⟩ := pending
    exact ⟨lane, by simp [present], waits⟩

theorem of_enqueue (pending : (dispatch.enqueue key operation).Pending other task) :
    dispatch.Pending other task ∨ other = key ∧ task = operation := by
  unfold enqueue at pending
  split at pending
  · rename_i number found
    simp only [Pending, wake_lanes] at pending
    have earlier : ∃ lane ∈ dispatch.lanes,
        lane.Awaits other task ∨ other = key ∧ task = operation := by
      refine of_exists_modify (fun _ => .inl) ?_ pending
      rintro lane here ⟨same, live, waits⟩
      rcases List.mem_append.mp waits with waits | last
      · exact .inl ⟨same, live, waits⟩
      · exact .inr ⟨same ▸ (openLane_key found here).1, List.mem_singleton.mp last⟩
    obtain ⟨lane, present, waits | new⟩ := earlier
    · exact .inl ⟨lane, present, waits⟩
    · exact .inr new
  · obtain ⟨lane, present, waits⟩ := pending
    simp only [wake_lanes, List.mem_append, List.mem_singleton] at present
    rcases present with present | rfl
    · exact .inl ⟨lane, present, waits⟩
    · obtain ⟨same, _, waits⟩ := waits
      exact .inr ⟨same.symm, List.mem_singleton.mp waits⟩

theorem enqueue_pending (accepting : dispatch.Accepting key) :
    (dispatch.enqueue key operation).Pending key operation := by
  unfold enqueue
  split
  · rename_i number found
    obtain ⟨bound, _⟩ := List.findIdx?_eq_some_iff_getElem.mp found
    have here := List.getElem?_eq_getElem bound
    have opened := openLane_key found here
    have live : dispatch.lanes[number].isHalted = false := by
      cases halted : dispatch.lanes[number].isHalted with
      | false => rfl
      | true =>
        exact absurd ⟨_, List.getElem_mem bound, opened.1, opened.2, halted⟩ accepting
    refine ⟨{ dispatch.lanes[number] with
      waiting := dispatch.lanes[number].waiting ++ [operation] }, ?_, opened.1, live, by simp⟩
    simp only [wake_lanes]
    exact List.mem_of_getElem? (i := number) (by simp [here])
  · exact ⟨Lane.opened key operation, by simp, rfl, rfl, by simp [Lane.opened]⟩

theorem enqueue_accepting (accepting : dispatch.Accepting other) :
    (dispatch.enqueue key operation).Accepting other := by
  intro refused
  apply accepting
  unfold enqueue at refused
  split at refused
  · simp only [wake_lanes] at refused
    refine of_exists_modify (fun _ => id) ?_ refused
    exact fun _ _ refuses => refuses
  · obtain ⟨lane, present, same, opened, halted⟩ := refused
    simp only [wake_lanes, List.mem_append, List.mem_singleton] at present
    rcases present with present | rfl
    · exact ⟨lane, present, same, opened, halted⟩
    · cases halted

theorem close_world : (dispatch.close key).world = dispatch.world := by
  unfold close
  split <;> simp

theorem close_pending :
    (dispatch.close key).Pending other task ↔ dispatch.Pending other task := by
  unfold close
  split
  · rfl
  · simp only [Pending, wake_lanes]
    exact ⟨of_exists_modify (fun _ => id) fun _ _ => id, exists_modify (fun _ => id) fun _ _ => id⟩

theorem close_accepting (accepting : dispatch.Accepting other) :
    (dispatch.close key).Accepting other := by
  intro refused
  apply accepting
  unfold close at refused
  split at refused
  · exact refused
  · simp only [wake_lanes] at refused
    refine of_exists_modify (fun _ => id) ?_ refused
    rintro lane _ ⟨_, opened, _⟩
    cases opened

end Enqueue

section Requests

variable {dispatch : Dispatch κ ω σ} {key : κ} {operation : ω}

theorem requestAll_world (dispatch : Dispatch κ ω σ) (requests : List (Request κ ω)) :
    (dispatch.requestAll requests).world = dispatch.world := by
  induction requests generalizing dispatch with
  | nil => rfl
  | cons request rest ih =>
    refine (ih _).trans ?_
    cases request with
    | enqueue key operation => exact enqueue_world dispatch key operation
    | close key => exact close_world dispatch key

theorem requestAll_now (dispatch : Dispatch κ ω σ) (requests : List (Request κ ω)) :
    (dispatch.requestAll requests).now = dispatch.now := by
  induction requests generalizing dispatch with
  | nil => rfl
  | cons request rest ih =>
    refine (ih _).trans ?_
    cases request with
    | enqueue key operation =>
      simp only [request, enqueue, wake]
      split <;> split <;> rfl
    | close key =>
      simp only [request, close, wake]
      split
      · rfl
      · split <;> rfl

theorem requestAll_keeps (requests : List (Request κ ω)) (pending : dispatch.Pending key operation) :
    (dispatch.requestAll requests).Pending key operation := by
  induction requests generalizing dispatch with
  | nil => exact pending
  | cons request rest ih =>
    apply ih
    cases request with
    | enqueue other task => exact enqueue_keeps dispatch other task pending
    | close other => exact (close_pending dispatch other).mpr pending

theorem of_requestAll {requests : List (Request κ ω)}
    (pending : (dispatch.requestAll requests).Pending key operation) :
    dispatch.Pending key operation ∨ .enqueue key operation ∈ requests := by
  induction requests generalizing dispatch with
  | nil => exact .inl pending
  | cons request rest ih =>
    rcases ih pending with earlier | later
    · cases request with
      | enqueue other task =>
        rcases of_enqueue dispatch other task earlier with earlier | ⟨rfl, rfl⟩
        · exact .inl earlier
        · exact .inr (List.mem_cons_self ..)
      | close other => exact .inl ((close_pending dispatch other).mp earlier)
    · exact .inr (List.mem_cons_of_mem _ later)

theorem requestAll_accepting (requests : List (Request κ ω)) (accepting : dispatch.Accepting key) :
    (dispatch.requestAll requests).Accepting key := by
  induction requests generalizing dispatch with
  | nil => exact accepting
  | cons request rest ih =>
    apply ih
    cases request with
    | enqueue other task => exact enqueue_accepting dispatch other task accepting
    | close other => exact close_accepting dispatch other accepting

theorem requestAll_pending {requests : List (Request κ ω)} (accepting : dispatch.Accepting key)
    (asked : .enqueue key operation ∈ requests) :
    (dispatch.requestAll requests).Pending key operation := by
  induction requests generalizing dispatch with
  | nil => cases asked
  | cons request rest ih =>
    rcases List.mem_cons.mp asked with rfl | later
    · exact requestAll_keeps rest (enqueue_pending dispatch key operation accepting)
    · refine ih ?_ later
      exact requestAll_accepting [request] accepting

end Requests

def turn (rules : Rules κ ω σ) (dispatch : Dispatch κ ω σ) (number : Nat) : Dispatch κ ω σ :=
  { dispatch with ready := number :: dispatch.ready.erase number }.step rules

theorem step_turn (rules : Rules κ ω σ) {dispatch : Dispatch κ ω σ} {number : Nat}
    {rest : List Nat} (ready : dispatch.ready = number :: rest) :
    dispatch.step rules = dispatch.turn rules number := by
  have first : number :: dispatch.ready.erase number = dispatch.ready := by simp [ready]
  rw [turn, first]

section Turn

variable {rules : Rules κ ω σ} {dispatch : Dispatch κ ω σ} {number : Nat} {lane : Lane κ ω}
  {operation : ω}

theorem turn_idle (idle : dispatch.next? number = none) :
    (dispatch.turn rules number).world = dispatch.world ∧
      (∀ key task, (dispatch.turn rules number).Pending key task ↔ dispatch.Pending key task) ∧
      ∀ key, dispatch.Accepting key → (dispatch.turn rules number).Accepting key := by
  cases found : dispatch.lanes[number]? with
  | none =>
    have turned : dispatch.turn rules number = { dispatch with
        ready := number :: dispatch.ready.erase number }.yieldLane := by
      simp [turn, step, found]
    rw [turned]
    exact ⟨rfl, fun _ _ => Iff.rfl, fun _ => id⟩
  | some lane =>
    cases halted : lane.isHalted with
    | true =>
      have turned : dispatch.turn rules number = ({ dispatch with
          ready := number :: dispatch.ready.erase number }.setLane number lane.giveUp).yieldLane := by
        simp [turn, step, found, halted]
      rw [turned]
      refine ⟨rfl, fun key task => ⟨of_setLane found ?_, setLane_keeps found ?_⟩,
        fun key => setLane_accepting found ⟨rfl, rfl, rfl⟩⟩
      · rintro ⟨_, live, _⟩
        exact Bool.noConfusion (halted.symm.trans live)
      · rintro ⟨_, live, _⟩
        exact Bool.noConfusion (halted.symm.trans live)
    | false =>
      have empty : lane.waiting = [] := by
        simp only [next?, found, Lane.next?, halted, Bool.false_eq_true, ↓reduceIte,
          Option.bind_eq_bind, Option.bind_some] at idle
        cases waiting : lane.waiting with
        | nil => rfl
        | cons operation rest => simp [waiting] at idle
      have turned : dispatch.turn rules number = ({ dispatch with
          ready := number :: dispatch.ready.erase number }.setLane number lane.rest).yieldLane := by
        simp [turn, step, found, halted, empty]
      rw [turned]
      exact ⟨rfl, fun _ _ => ⟨of_setLane found id, setLane_keeps found id⟩,
        fun _ => setLane_accepting found ⟨rfl, rfl, rfl⟩⟩

theorem turn_now (rules : Rules κ ω σ) (dispatch : Dispatch κ ω σ) (number : Nat) :
    (dispatch.turn rules number).now = dispatch.now := by
  simp only [turn, step, attempt]
  split
  · rfl
  · split
    · rfl
    · split
      · rfl
      · split
        · exact requestAll_now _ _
        · split
          · split <;> rfl
          · rfl

theorem turn_attempt (rules : Rules κ ω σ)
    (next : dispatch.next? number = some (lane, operation)) :
    dispatch.lanes[number]? = some lane ∧ lane.isHalted = false ∧
      (∃ rest, lane.waiting = operation :: rest) ∧
      dispatch.turn rules number =
        { dispatch with ready := number :: dispatch.ready.erase number }.attempt rules number lane
          operation := by
  simp only [next?, Option.bind_eq_bind, Option.bind_eq_some_iff, Option.some.injEq,
    Prod.mk.injEq] at next
  obtain ⟨_, found, _, head, rfl, rfl⟩ := next
  rename_i lane operation
  cases halted : lane.isHalted with
  | true => simp [Lane.next?, halted] at head
  | false =>
    simp only [Lane.next?, halted, Bool.false_eq_true, ↓reduceIte, List.head?_eq_some_iff] at head
    obtain ⟨rest, waiting⟩ := head
    exact ⟨found, rfl, ⟨rest, waiting⟩, by simp [turn, step, found, halted, waiting]⟩

-- A turn with an operation to do carries it out. Whatever else waited still waits, and what
-- waits afterwards waited before or was asked for.
theorem turn_performs (next : dispatch.next? number = some (lane, operation)) :
    let result := rules.perform dispatch.world lane.key operation lane.made
    (dispatch.turn rules number).world = result.world ∧
      (∀ key task, (dispatch.turn rules number).Pending key task → dispatch.Pending key task ∨
        result.succeeded = true ∧ .enqueue key task ∈ result.requests) ∧
      (∀ key task, dispatch.Pending key task → (dispatch.turn rules number).Pending key task ∨
        key = lane.key ∧ task = operation) ∧
      (∀ key task, result.succeeded = true → dispatch.Accepting key →
        .enqueue key task ∈ result.requests → (dispatch.turn rules number).Pending key task) ∧
      ∀ key, dispatch.Accepting key → (dispatch.turn rules number).Accepting key := by
  obtain ⟨found, live, ⟨rest, waiting⟩, turned⟩ := turn_attempt rules next
  rw [turned]
  -- The lane is set to one that waits for the same things, with or without the first of them.
  have kept : ∀ (before : Dispatch κ ω σ) (changed : Lane κ ω), before.lanes = dispatch.lanes →
      changed.key = lane.key → changed.isOpen = lane.isOpen → changed.isHalted = lane.isHalted →
      changed.waiting = lane.waiting ∨ changed.waiting = rest →
      (∀ key task, (before.setLane number changed).Pending key task →
        dispatch.Pending key task) ∧
        (∀ key task, dispatch.Pending key task →
          (before.setLane number changed).Pending key task ∨ key = lane.key ∧ task = operation) ∧
        ∀ key, dispatch.Accepting key → (before.setLane number changed).Accepting key := by
    intro before changed lanes same opened halted left
    have here : before.lanes[number]? = some lane := lanes ▸ found
    have sameKey : ∀ key task, before.Pending key task ↔ dispatch.Pending key task := by
      simp only [Pending, lanes, implies_true]
    have sameAccepting : ∀ key, before.Accepting key ↔ dispatch.Accepting key := by
      simp only [Accepting, lanes, implies_true]
    refine ⟨fun key task pending => ?_, fun key task pending => ?_, fun key accepting => ?_⟩
    · refine (sameKey key task).mp (of_setLane here ?_ pending)
      rintro ⟨keyed, live, waits⟩
      refine ⟨same ▸ keyed, halted ▸ live, ?_⟩
      rcases left with left | left
      · exact left ▸ waits
      · exact waiting ▸ List.mem_cons_of_mem _ (left ▸ waits)
    · by_cases performed : key = lane.key ∧ task = operation
      · exact .inr performed
      · refine .inl (setLane_keeps here ?_ ((sameKey key task).mpr pending))
        rintro ⟨keyed, live, waits⟩
        refine ⟨same.trans keyed, halted.trans live, ?_⟩
        rcases left with left | left
        · exact left ▸ waits
        · rw [waiting] at waits
          rcases List.mem_cons.mp waits with first | later
          · exact absurd ⟨keyed.symm, first⟩ performed
          · exact left ▸ later
    · exact setLane_accepting here ⟨same, opened, halted⟩ ((sameAccepting key).mpr accepting)
  have advanced : lane.advance.waiting = lane.waiting ∨ lane.advance.waiting = rest :=
    .inr (by simp [Lane.advance, waiting])
  cases succeeded : (rules.perform dispatch.world lane.key operation lane.made).succeeded with
  | true =>
    simp only [attempt, succeeded, ↓reduceIte, requestAll_world]
    obtain ⟨earlier, later, accepts⟩ := kept _ lane.advance rfl rfl rfl rfl advanced
    refine ⟨rfl, fun key task pending => ?_, fun key task pending => ?_,
      fun key task _ accepting asked => ?_, fun key accepting => ?_⟩
    · rcases of_requestAll pending with pending | asked
      · exact .inl (earlier key task pending)
      · exact .inr ⟨trivial, asked⟩
    · rcases later key task pending with pending | performed
      · exact .inl (requestAll_keeps _ pending)
      · exact .inr performed
    · exact requestAll_pending (accepts key accepting) asked
    · exact requestAll_accepting _ (accepts key accepting)
  | false =>
    simp only [attempt, succeeded, Bool.false_eq_true, ↓reduceIte, false_and, or_false,
      false_implies, implies_true, true_and]
    split
    · split
      · obtain ⟨earlier, later, accepts⟩ := kept _ { lane with made := lane.made + 1 }
          rfl rfl rfl rfl (.inl rfl)
        exact ⟨rfl, earlier, later, accepts⟩
      · obtain ⟨earlier, later, accepts⟩ := kept _ { lane with made := lane.made + 1 }
          rfl rfl rfl rfl (.inl rfl)
        exact ⟨rfl, earlier, later, accepts⟩
    · obtain ⟨earlier, later, accepts⟩ := kept _ lane.drop rfl rfl rfl rfl advanced
      exact ⟨rfl, earlier, later, accepts⟩

end Turn

end Dispatch
end ActorDirectory
