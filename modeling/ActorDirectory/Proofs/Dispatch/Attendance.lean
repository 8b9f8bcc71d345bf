import ActorDirectory.Proofs.Dispatch.Serial

-- What can come of a turn, and that no lane with something to do is forgotten.
namespace ActorDirectory

theorem Lane.Put.set_eq {κ ω : Type} {lanes after : List (Lane κ ω)} {number : Nat}
    {lane found : Lane κ ω} (put : Put lanes number lane after)
    (present : lanes[number]? = some found) :
    after = lanes.set number lane := by
  have bound := (List.getElem?_eq_some_iff.mp present).1
  refine List.ext_getElem? fun place => ?_
  by_cases here : place = number
  · subst here
    simp [put.here, bound]
  · rw [put.elsewhere place here, List.getElem?_set_ne (Ne.symm here)]

namespace Dispatch

variable {κ ω σ : Type} {rules : Rules κ ω σ} {dispatch after : Dispatch κ ω σ} {number : Nat}
  {changed : Lane κ ω}

def Busy (dispatch : Dispatch κ ω σ) (number : Nat) : Prop :=
  number ∈ dispatch.ready ∨ ∃ due, (number, due) ∈ dispatch.asleep

theorem isIdle_iff : dispatch.isIdle number = true ↔ ¬dispatch.Busy number := by
  simp [isIdle, Busy]

structure Roused (before after : Dispatch κ ω σ) : Prop where
  world : after.world = before.world
  now : after.now = before.now
  asleep : after.asleep = before.asleep
  history : after.history = before.history
  ready : after.ready = before.ready ∨
    ∃ number, ¬before.Busy number ∧ after.ready = before.ready ++ [number]

theorem wake_roused (number : Nat) (lanes : List (Lane κ ω)) :
    Roused dispatch ({ dispatch with lanes }.wake number) ∧
      ({ dispatch with lanes }.wake number).Busy number := by
  unfold wake
  split
  · rename_i idle
    exact ⟨⟨rfl, rfl, rfl, rfl, .inr ⟨number, isIdle_iff.mp idle, rfl⟩⟩, .inl (by simp)⟩
  · rename_i busy
    refine ⟨⟨rfl, rfl, rfl, rfl, .inl rfl⟩, ?_⟩
    exact Classical.not_not.mp fun idle => busy (isIdle_iff.mpr idle)

theorem Roused.busy (roused : Roused dispatch after) (busy : dispatch.Busy number) :
    after.Busy number := by
  rcases busy with ready | ⟨due, asleep⟩
  · rcases roused.ready with same | ⟨_, _, more⟩
    · exact .inl (same ▸ ready)
    · exact .inl (more ▸ List.mem_append_left _ ready)
  · exact .inr ⟨due, roused.asleep ▸ asleep⟩

theorem Roused.length (roused : Roused dispatch after) :
    after.ready.length ≤ dispatch.ready.length + 1 := by
  rcases roused.ready with same | ⟨_, _, more⟩
  · simp [same]
  · simp [more]

-- A lane with something to do waits for its turn or for its time, and has attempts left.
structure Attended (rules : Rules κ ω σ) (dispatch : Dispatch κ ω σ) : Prop where
  live : ∀ (number : Nat) (lane : Lane κ ω), dispatch.lanes[number]? = some lane →
    lane.isHalted = false
  spare : ∀ (number : Nat) (lane : Lane κ ω), dispatch.lanes[number]? = some lane →
    lane.made < rules.attempts
  busy : ∀ (number : Nat) (lane : Lane κ ω), dispatch.lanes[number]? = some lane →
    lane.waiting ≠ [] → dispatch.Busy number
  ahead : ∀ sleeper ∈ dispatch.asleep, dispatch.now < sleeper.2

theorem attended_set (attended : dispatch.Attended rules)
    (lanes : after.lanes = dispatch.lanes.set number changed)
    (fit : changed.isHalted = false ∧ changed.made < rules.attempts)
    (others : ∀ other, other ≠ number → dispatch.Busy other → after.Busy other)
    (busy : changed.waiting ≠ [] → after.Busy number)
    (ahead : ∀ sleeper ∈ after.asleep, after.now < sleeper.2) : after.Attended rules := by
  have either : ∀ (other : Nat) (found : Lane κ ω), after.lanes[other]? = some found →
      other = number ∧ found = changed ∨ other ≠ number ∧ dispatch.lanes[other]? = some found := by
    intro other found present
    rw [lanes] at present
    by_cases same : other = number
    · subst same
      obtain ⟨bound, here⟩ := List.getElem?_eq_some_iff.mp present
      simp only [List.getElem_set_self] at here
      exact .inl ⟨rfl, here.symm⟩
    · exact .inr ⟨same, (List.getElem?_set_ne (Ne.symm same)).symm.trans present⟩
  refine ⟨fun other found present => ?_, fun other found present => ?_,
    fun other found present waits => ?_, ahead⟩
  · rcases either other found present with ⟨_, rfl⟩ | ⟨_, present⟩
    · exact fit.1
    · exact attended.live other found present
  · rcases either other found present with ⟨_, rfl⟩ | ⟨_, present⟩
    · exact fit.2
    · exact attended.spare other found present
  · rcases either other found present with ⟨rfl, rfl⟩ | ⟨different, present⟩
    · exact busy waits
    · exact others other different (attended.busy other found present waits)

def tried (dispatch : Dispatch κ ω σ) (number : Nat) (changed : Lane κ ω) (world : σ)
    (attempt : Attempt κ ω) : Dispatch κ ω σ :=
  { dispatch with
    world
    lanes := dispatch.lanes.set number changed
    ready := number :: dispatch.ready.erase number
    history := dispatch.history ++ [attempt] }

theorem attended_tried (attended : dispatch.Attended rules) (changed : Lane κ ω)
    (fit : changed.isHalted = false ∧ changed.made < rules.attempts) (world : σ)
    (attempt : Attempt κ ω) : (dispatch.tried number changed world attempt).Attended rules := by
  refine attended_set attended rfl fit (fun other different busy => ?_)
    (fun _ => .inl (List.mem_cons_self ..)) attended.ahead
  exact busy.imp_left fun ready =>
    List.mem_cons_of_mem _ ((List.mem_erase_of_ne different).mpr ready)

theorem attended_fire (time : Nat) (attended : dispatch.Attended rules) :
    (dispatch.fire time).Attended rules := by
  refine ⟨attended.live, attended.spare, fun number lane found waits => ?_, fun sleeper present => ?_⟩
  · rcases attended.busy number lane found waits with ready | ⟨due, asleep⟩
    · exact .inl (List.mem_append_left _ ready)
    · by_cases now : due ≤ time
      · refine .inl (List.mem_append_right _ (List.mem_map.mpr ⟨(number, due), ?_, rfl⟩))
        simp [asleep, now]
      · exact .inr ⟨due, by simpa [fire, asleep] using Nat.lt_of_not_le now⟩
  · exact of_decide_eq_true (List.mem_filter.mp present).2

variable [DecidableEq κ]

theorem enqueue_roused (dispatch : Dispatch κ ω σ) (key : κ) (operation : ω) :
    Roused dispatch (dispatch.enqueue key operation) ∧
      (dispatch.enqueue key operation).Busy (dispatch.ticketFor key).lane := by
  cases found : dispatch.openLane? key with
  | none => simpa [enqueue, ticketFor, found] using wake_roused dispatch.lanes.length _
  | some number => simpa [enqueue, ticketFor, found] using wake_roused number _

theorem close_roused (dispatch : Dispatch κ ω σ) (key : κ) :
    Roused dispatch (dispatch.close key) := by
  simp only [close]
  split
  · exact ⟨rfl, rfl, rfl, rfl, .inl rfl⟩
  · exact (wake_roused _ _).1

theorem request_roused (dispatch : Dispatch κ ω σ) (request : Request κ ω) :
    Roused dispatch (dispatch.request request) := by
  cases request with
  | enqueue key operation => exact (enqueue_roused dispatch key operation).1
  | close key => exact close_roused dispatch key

theorem attended_request (request : Request κ ω) (tries : 0 < rules.attempts)
    (attended : dispatch.Attended rules) : (dispatch.request request).Attended rules := by
  have roused := request_roused dispatch request
  have ahead : ∀ sleeper ∈ (dispatch.request request).asleep,
      (dispatch.request request).now < sleeper.2 := by
    rw [roused.asleep, roused.now]
    exact attended.ahead
  cases request with
  | enqueue key operation =>
    obtain ⟨_, busy⟩ := enqueue_roused dispatch key operation
    obtain ⟨base, room, put⟩ := enqueue_room dispatch key operation
    have fit : base.isHalted = false ∧ base.made < rules.attempts := by
      generalize dispatch.ticketFor key = ticket at room
      cases room with
      | found here => exact ⟨attended.live _ _ here, attended.spare _ _ here⟩
      | fresh => exact ⟨rfl, tries⟩
    refine ⟨fun other found present => ?_, fun other found present => ?_,
      fun other found present waits => ?_, ahead⟩
    · rcases put.or present with ⟨_, rfl⟩ | ⟨_, present⟩
      · exact fit.1
      · exact attended.live other found present
    · rcases put.or present with ⟨_, rfl⟩ | ⟨_, present⟩
      · exact fit.2
      · exact attended.spare other found present
    · rcases put.or present with ⟨rfl, rfl⟩ | ⟨_, present⟩
      · exact busy
      · exact roused.busy (attended.busy other found present waits)
  | close key =>
    rcases close_lanes dispatch key with ⟨same, _⟩ | ⟨number, lane, here, _, _, put⟩
    · rw [Dispatch.request, same]
      exact attended
    · exact attended_set attended (put.set_eq here)
        ⟨attended.live number lane here, attended.spare number lane here⟩
        (fun _ _ => roused.busy) (fun waits => roused.busy (attended.busy number lane here waits))
        ahead

theorem attended_requestAll (requests : List (Request κ ω)) (tries : 0 < rules.attempts)
    (attended : dispatch.Attended rules) : (dispatch.requestAll requests).Attended rules := by
  induction requests generalizing dispatch with
  | nil => exact attended
  | cons request rest ih => exact ih (attended_request request tries attended)

-- All that can come of a turn, with its events, where no lane is halted.
inductive Turns (rules : Rules κ ω σ) (dispatch : Dispatch κ ω σ) (number : Nat) :
    List (Event κ ω) → Dispatch κ ω σ → Prop where
  | missing : dispatch.lanes[number]? = none →
      Turns rules dispatch number [] { dispatch with ready := dispatch.ready.erase number }
  | rests (lane : Lane κ ω) : dispatch.lanes[number]? = some lane → lane.waiting = [] →
      Turns rules dispatch number []
        { dispatch with
          lanes := dispatch.lanes.set number lane.rest
          ready := dispatch.ready.erase number }
  | succeeds (lane : Lane κ ω) (operation : ω) (rest : List ω) (result : Performed κ ω σ)
      (attempt : Attempt κ ω) : dispatch.lanes[number]? = some lane →
      lane.waiting = operation :: rest →
      result = rules.perform dispatch.world lane.key operation lane.made →
      attempt = ⟨number, lane.key, operation, dispatch.now, result.succeeded⟩ →
      result.succeeded = true →
      Turns rules dispatch number
        (.attempted ⟨number, lane.finished⟩ attempt true ::
          (dispatch.tried number lane.advance result.world attempt).requestEvents result.requests)
        ((dispatch.tried number lane.advance result.world attempt).requestAll result.requests)
  | retries (lane : Lane κ ω) (operation : ω) (rest : List ω) (result : Performed κ ω σ)
      (attempt : Attempt κ ω) : dispatch.lanes[number]? = some lane →
      lane.waiting = operation :: rest →
      result = rules.perform dispatch.world lane.key operation lane.made →
      attempt = ⟨number, lane.key, operation, dispatch.now, result.succeeded⟩ →
      result.succeeded = false → lane.made + 1 < rules.attempts → rules.delay = 0 →
      Turns rules dispatch number [.attempted ⟨number, lane.finished⟩ attempt false]
        (dispatch.tried number { lane with made := lane.made + 1 } result.world attempt)
  | sleeps (lane : Lane κ ω) (operation : ω) (rest : List ω) (result : Performed κ ω σ)
      (attempt : Attempt κ ω) : dispatch.lanes[number]? = some lane →
      lane.waiting = operation :: rest →
      result = rules.perform dispatch.world lane.key operation lane.made →
      attempt = ⟨number, lane.key, operation, dispatch.now, result.succeeded⟩ →
      result.succeeded = false → lane.made + 1 < rules.attempts → rules.delay ≠ 0 →
      Turns rules dispatch number [.attempted ⟨number, lane.finished⟩ attempt false]
        { dispatch.tried number { lane with made := lane.made + 1 } result.world attempt with
          ready := dispatch.ready.erase number
          asleep := dispatch.asleep ++ [(number, dispatch.now + rules.delay)] }
  | drops (lane : Lane κ ω) (operation : ω) (rest : List ω) (result : Performed κ ω σ)
      (attempt : Attempt κ ω) : dispatch.lanes[number]? = some lane →
      lane.waiting = operation :: rest →
      result = rules.perform dispatch.world lane.key operation lane.made →
      attempt = ⟨number, lane.key, operation, dispatch.now, result.succeeded⟩ →
      result.succeeded = false → rules.attempts ≤ lane.made + 1 →
      Turns rules dispatch number [.attempted ⟨number, lane.finished⟩ attempt true]
        (dispatch.tried number lane.drop result.world attempt)

theorem requestEvents_same {one other : Dispatch κ ω σ} (same : one.lanes = other.lanes)
    (requests : List (Request κ ω)) : one.requestEvents requests = other.requestEvents requests := by
  induction requests generalizing one other with
  | nil => rfl
  | cons request rest ih =>
    have event : one.requestEvent request = other.requestEvent request := by
      cases request <;> simp [requestEvent, ticketFor, openLane?, same]
    rw [requestEvents, requestEvents, event, ih (request_lanes same request)]

theorem turn_turns (rules : Rules κ ω σ) (number : Nat)
    (live : ∀ lane, dispatch.lanes[number]? = some lane → lane.isHalted = false) :
    Turns rules dispatch number (dispatch.turnEvents rules number)
      (dispatch.turn rules number) := by
  cases next : dispatch.next? number with
  | none =>
    simp only [turnEvents, next]
    cases found : dispatch.lanes[number]? with
    | none =>
      have turned : dispatch.turn rules number =
          { dispatch with ready := dispatch.ready.erase number } := by
        simp [turn, step, found, yieldLane]
      rw [turned]
      exact .missing found
    | some lane =>
      have isOpen := live lane found
      have empty : lane.waiting = [] := by
        refine List.head?_eq_none_iff.mp (Option.eq_none_iff_forall_ne_some.mpr ?_)
        simpa [next?, found, Lane.next?, isOpen] using next
      have turned : dispatch.turn rules number = { dispatch with
          lanes := dispatch.lanes.set number lane.rest
          ready := dispatch.ready.erase number } := by
        simp [turn, step, found, isOpen, empty, setLane, yieldLane]
      rw [turned]
      exact .rests lane found empty
  | some next' =>
    obtain ⟨lane, operation⟩ := next'
    obtain ⟨found, _, ⟨rest, first⟩, turned⟩ := turn_attempt rules next
    simp only [turnEvents, next, turned, attempt]
    cases succeeded : (rules.perform dispatch.world lane.key operation lane.made).succeeded with
    | true =>
      simp only [↓reduceIte, Bool.true_or]
      have told : Turns rules dispatch number _ _ := .succeeds lane operation rest _ _ found first rfl rfl
        succeeded
      rw [succeeded] at told
      have same : (dispatch.setLane number lane.advance).lanes = (dispatch.tried number lane.advance
          (rules.perform dispatch.world lane.key operation lane.made).world
          ⟨number, lane.key, operation, dispatch.now, true⟩).lanes := rfl
      rw [requestEvents_same same]
      exact told
    | false =>
      simp only [Bool.false_eq_true, ↓reduceIte, Bool.false_or]
      by_cases again : lane.made + 1 < rules.attempts
      · simp only [again, ↓reduceIte, decide_true, Bool.not_true]
        by_cases soon : rules.delay = 0
        · have told : Turns rules dispatch number _ _ := .retries lane operation rest _ _ found first rfl rfl
            succeeded again soon
          rw [succeeded] at told
          rw [if_pos soon]
          exact told
        · have told : Turns rules dispatch number _ _ := .sleeps lane operation rest _ _ found first rfl rfl
            succeeded again soon
          rw [succeeded] at told
          rw [if_neg soon]
          exact told
      · simp only [again, ↓reduceIte, decide_false, Bool.not_false]
        have told : Turns rules dispatch number _ _ := .drops lane operation rest _ _ found first rfl rfl
          succeeded (Nat.le_of_not_lt again)
        rw [succeeded] at told
        exact told

theorem attended_turn (number : Nat) (tries : 0 < rules.attempts)
    (attended : dispatch.Attended rules) : (dispatch.turn rules number).Attended rules := by
  have elsewhere : ∀ other, other ≠ number → dispatch.Busy other →
      other ∈ dispatch.ready.erase number ∨ ∃ due, (other, due) ∈ dispatch.asleep :=
    fun other different busy => busy.imp_left (List.mem_erase_of_ne different).mpr
  have turns := turn_turns rules number (attended.live number)
  generalize dispatch.turnEvents rules number = told at turns
  generalize dispatch.turn rules number = after at turns ⊢
  cases turns with
  | missing absent =>
    refine ⟨attended.live, attended.spare, fun other found present waits => ?_, attended.ahead⟩
    refine elsewhere other ?_ (attended.busy other found present waits)
    rintro rfl
    cases absent.symm.trans present
  | rests lane found empty =>
    exact attended_set attended rfl ⟨attended.live number lane found, attended.spare number lane found⟩
      elsewhere (fun waits => absurd empty waits) attended.ahead
  | succeeds lane operation rest result attempt found =>
    exact attended_requestAll _ tries
      (attended_tried attended lane.advance ⟨attended.live number lane found, tries⟩ _ _)
  | retries lane operation rest result attempt found _ _ _ _ again =>
    exact attended_tried attended { lane with made := lane.made + 1 }
      ⟨attended.live number lane found, again⟩ _ _
  | sleeps lane operation rest result attempt found _ _ _ _ again later =>
    refine attended_set attended rfl ⟨attended.live number lane found, again⟩
      (fun other different busy => ?_) (fun _ => .inr ⟨_, by simp; exact .inr rfl⟩) ?_
    · exact (elsewhere other different busy).imp_right fun ⟨due, asleep⟩ =>
        ⟨due, List.mem_append_left _ asleep⟩
    · intro sleeper present
      rcases List.mem_append.mp present with present | new
      · exact attended.ahead sleeper present
      · cases List.mem_singleton.mp new
        exact Nat.lt_add_of_pos_right (Nat.pos_of_ne_zero later)
  | drops lane operation rest result attempt found =>
    exact attended_tried attended lane.drop ⟨attended.live number lane found, tries⟩ _ _

theorem recorded_attended {asked : List (Request κ ω)} {events : List (Event κ ω)}
    (tries : 0 < rules.attempts) (recorded : Recorded rules asked events dispatch) :
    dispatch.Attended rules := by
  induction recorded with
  | fresh => exact ⟨nofun, nofun, nofun, nofun⟩
  | asked request _ ih => exact attended_request request tries ih
  | turn number _ ih => exact attended_turn number tries ih
  | pass time _ ih => exact attended_fire time ih

end Dispatch
end ActorDirectory
