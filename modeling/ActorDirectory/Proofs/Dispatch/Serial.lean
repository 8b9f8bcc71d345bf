import ActorDirectory.Dispatch.Jobs
import ActorDirectory.Proofs.Dispatch.Records

namespace ActorDirectory

namespace Dispatch

open Lane (Put OpenAt Room)
open Event (Ledger Doors)

variable {κ ω σ : Type} [DecidableEq κ] {rules : Rules κ ω σ} {dispatch : Dispatch κ ω σ}
  {events : List (Event κ ω)} {asked : List (Request κ ω)} {number : Nat} {key : κ}

theorem openAt_of_openLane (found : dispatch.openLane? key = some number) :
    OpenAt dispatch.lanes key number := by
  obtain ⟨bound, _⟩ := List.findIdx?_eq_some_iff_getElem.mp found
  have here := List.getElem?_eq_getElem bound
  exact ⟨_, here, openLane_key found here⟩

theorem not_openAt_of_openLane (none : dispatch.openLane? key = none) (number : Nat) :
    ¬OpenAt dispatch.lanes key number := by
  rintro ⟨lane, present, same, isOpen⟩
  have shut := List.findIdx?_eq_none_iff.mp none lane (List.mem_of_getElem? present)
  simp [same, isOpen] at shut

theorem enqueue_room (dispatch : Dispatch κ ω σ) (key : κ) (operation : ω) :
    ∃ base, Room dispatch.lanes key (dispatch.ticketFor key) base ∧
      Put dispatch.lanes (dispatch.ticketFor key).lane (base.push operation)
        (dispatch.enqueue key operation).lanes := by
  cases found : dispatch.openLane? key with
  | none =>
    have ticket : dispatch.ticketFor key = ⟨dispatch.lanes.length, 0⟩ := by
      simp [ticketFor, found]
    have after : (dispatch.enqueue key operation).lanes =
        dispatch.lanes ++ [Lane.opened key operation] := by
      simp [enqueue, found]
    rw [ticket, after]
    refine ⟨{ key }, .fresh (not_openAt_of_openLane found), by simp [Lane.opened, Lane.push], ?_⟩
    intro other elsewhere
    rcases Nat.lt_or_gt_of_ne elsewhere with before | beyond
    · exact List.getElem?_append_left before
    · have beyond : dispatch.lanes.length < other := beyond
      rw [List.getElem?_eq_none (by simp; omega), List.getElem?_eq_none (Nat.le_of_lt beyond)]
  | some number =>
    obtain ⟨lane, here, same, isOpen⟩ := openAt_of_openLane found
    have ticket : dispatch.ticketFor key = ⟨number, lane.accepted⟩ := by
      simp [ticketFor, found, here]
    have after : (dispatch.enqueue key operation).lanes =
        dispatch.lanes.modify number (·.push operation) := by
      simp [enqueue, found, Lane.push]
    rw [ticket, after]
    exact ⟨lane, .found here same isOpen, by simp [here],
      fun other elsewhere => List.getElem?_modify_ne _ _ elsewhere.symm⟩

theorem close_lanes (dispatch : Dispatch κ ω σ) (key : κ) :
    dispatch.close key = dispatch ∧ (∀ number, ¬OpenAt dispatch.lanes key number) ∨
      ∃ number lane, dispatch.lanes[number]? = some lane ∧ lane.key = key ∧ lane.isOpen = true ∧
        Put dispatch.lanes number { lane with isOpen := false } (dispatch.close key).lanes := by
  cases found : dispatch.openLane? key with
  | none => exact .inl ⟨by simp [close, found], not_openAt_of_openLane found⟩
  | some number =>
    obtain ⟨lane, here, same, isOpen⟩ := openAt_of_openLane found
    have after : (dispatch.close key).lanes =
        dispatch.lanes.modify number fun lane => { lane with isOpen := false } := by
      simp [close, found]
    rw [after]
    exact .inr ⟨number, lane, here, same, isOpen, by simp [here],
      fun other elsewhere => List.getElem?_modify_ne _ _ elsewhere.symm⟩

structure Account (events : List (Event κ ω)) (lanes : List (Lane κ ω)) : Prop where
  ledger : Ledger events lanes
  doors : Doors events lanes

theorem account_request (request : Request κ ω) (account : Account events dispatch.lanes) :
    Account (events ++ [dispatch.requestEvent request]) (dispatch.request request).lanes := by
  cases request with
  | enqueue key operation =>
    obtain ⟨base, room, put⟩ := enqueue_room dispatch key operation
    exact ⟨Event.ledger_accepted room put account.ledger, Event.doors_accepted room put account.doors⟩
  | close key =>
    have other : ∀ key' ticket operation,
        (Event.closed key : Event κ ω) ≠ .accepted key' ticket operation := nofun
    rcases close_lanes dispatch key with ⟨same, none⟩ | ⟨number, lane, found, rfl, isOpen, put⟩
    · rw [request, same]
      exact ⟨Event.ledger_closed account.ledger,
        Event.doors_other other (fun _ _ => id) (fun _ _ _ => id) account.doors⟩
    · refine ⟨Event.ledger_closed (Event.ledger_kept found put ⟨rfl, rfl, rfl, rfl⟩ account.ledger),
        Event.doors_other other ?_ ?_ account.doors⟩
      · rintro key number ⟨there, present, same, opened⟩
        rcases put.or present with ⟨rfl, rfl⟩ | ⟨_, present⟩
        · cases opened
        · exact ⟨there, present, same, opened⟩
      · rintro key place different ⟨there, present, same, opened⟩
        refine ⟨there, (put.elsewhere place ?_).trans present, same, opened⟩
        rintro rfl
        cases found.symm.trans present
        exact different (congrArg _ same)

theorem request_lanes {one other : Dispatch κ ω σ} (same : one.lanes = other.lanes)
    (request : Request κ ω) : (one.request request).lanes = (other.request request).lanes := by
  have found : ∀ key, one.openLane? key = other.openLane? key := fun key => by
    simp [openLane?, same]
  cases request with
  | enqueue key operation =>
    simp only [Dispatch.request, enqueue, found]
    split <;> simp [same]
  | close key =>
    simp only [Dispatch.request, close, found]
    split <;> simp [same]

theorem account_requests {one other : Dispatch κ ω σ} (same : one.lanes = other.lanes)
    (requests : List (Request κ ω)) (account : Account events one.lanes) :
    Account (events ++ one.requestEvents requests) (other.requestAll requests).lanes := by
  induction requests generalizing one other events with
  | nil => simpa [requestEvents, requestAll, ← same] using account
  | cons request rest ih =>
    have later := ih (request_lanes same request) (account_request request account)
    rwa [List.append_assoc, List.singleton_append] at later

theorem account_idle (idle : dispatch.next? number = none) (account : Account events dispatch.lanes) :
    Account events (dispatch.turn rules number).lanes := by
  cases found : dispatch.lanes[number]? with
  | none => simpa [turn, step, found, yieldLane] using account
  | some lane =>
    have live := account.ledger.live number lane found
    have empty : lane.waiting = [] := by
      refine List.head?_eq_none_iff.mp (Option.eq_none_iff_forall_ne_some.mpr ?_)
      simpa [next?, found, Lane.next?, live] using idle
    have turned : (dispatch.turn rules number).lanes = dispatch.lanes.set number lane.rest := by
      simp [turn, step, found, live, empty, setLane, yieldLane]
    rw [turned]
    have put := Lane.put_set lane.rest found
    refine ⟨Event.ledger_kept found put ⟨rfl, rfl, rfl, rfl⟩ account.ledger, ?_⟩
    have same : ∀ key place, OpenAt (dispatch.lanes.set number lane.rest) key place ↔
        OpenAt dispatch.lanes key place := fun key place => Event.openAt_kept found put rfl rfl
    exact
      { single := fun key one other isOpen alsoOpen =>
          account.doors.single key one other ((same _ _).mp isOpen) ((same _ _).mp alsoOpen)
        still := fun before key ticket operation after split unclosed =>
          (same _ _).mpr (account.doors.still before key ticket operation after split unclosed)
        gathered := account.doors.gathered }

omit [DecidableEq κ] in
theorem account_attempted {lane : Lane κ ω} {operation : ω} {rest : List ω} {isLast : Bool}
    (changed : Lane κ ω) (attempt : Attempt κ ω) (found : dispatch.lanes[number]? = some lane)
    (first : lane.waiting = operation :: rest)
    (same : changed.key = lane.key ∧ changed.isHalted = lane.isHalted ∧ changed.isOpen = lane.isOpen)
    (left : isLast = false ∧ changed.waiting = lane.waiting ∧ changed.finished = lane.finished ∨
      isLast = true ∧ changed.waiting = rest ∧ changed.finished = lane.finished + 1)
    (named : attempt.key = lane.key ∧ attempt.operation = operation)
    (account : Account events dispatch.lanes) :
    Account (events ++ [.attempted ⟨number, lane.finished⟩ attempt isLast])
      (dispatch.lanes.set number changed) := by
  have put := Lane.put_set changed found
  refine ⟨Event.ledger_attempted found first put same.1 same.2.1 left named account.ledger, ?_⟩
  exact Event.doors_other nofun (fun _ _ => (Event.openAt_kept found put same.1 same.2.2).mp)
    (fun _ _ _ => (Event.openAt_kept found put same.1 same.2.2).mpr) account.doors

theorem account_turn (number : Nat) (account : Account events dispatch.lanes) :
    Account (events ++ dispatch.turnEvents rules number) (dispatch.turn rules number).lanes := by
  cases next : dispatch.next? number with
  | none =>
    simp only [turnEvents, next, List.append_nil]
    exact account_idle next account
  | some next' =>
    obtain ⟨lane, operation⟩ := next'
    obtain ⟨found, _, ⟨rest, first⟩, turned⟩ := turn_attempt rules next
    have advanced : lane.advance.waiting = rest := by simp [Lane.advance, first]
    simp only [turnEvents, next, turned, attempt]
    cases succeeded : (rules.perform dispatch.world lane.key operation lane.made).succeeded with
    | true =>
      simp only [↓reduceIte, Bool.true_or]
      have left : Account _ (dispatch.setLane number lane.advance).lanes :=
        account_attempted lane.advance ⟨number, lane.key, operation, dispatch.now, true⟩
          found first ⟨rfl, rfl, rfl⟩ (.inr ⟨rfl, advanced, rfl⟩) ⟨rfl, rfl⟩ account
      rw [List.append_cons]
      exact account_requests (by rfl) _ left
    | false =>
      simp only [Bool.false_eq_true, ↓reduceIte, Bool.false_or]
      by_cases again : lane.made + 1 < rules.attempts
      · simp only [again, ↓reduceIte, decide_true, Bool.not_true]
        have more := account_attempted { lane with made := lane.made + 1 }
          ⟨number, lane.key, operation, dispatch.now, false⟩ found first ⟨rfl, rfl, rfl⟩
          (.inl ⟨rfl, rfl, rfl⟩) ⟨rfl, rfl⟩ account
        split <;> exact more
      · simp only [again, ↓reduceIte, decide_false, Bool.not_false]
        exact account_attempted lane.drop ⟨number, lane.key, operation, dispatch.now, false⟩
          found first ⟨rfl, rfl, rfl⟩ (.inr ⟨rfl, advanced, rfl⟩) ⟨rfl, rfl⟩ account

theorem recorded_account (recorded : Recorded rules asked events dispatch) :
    Account events dispatch.lanes := by
  induction recorded with
  | fresh =>
    refine ⟨⟨.nil, nofun, nofun, nofun, nofun, nofun, nofun⟩, ⟨?_, ?_, ?_⟩⟩
    · rintro key one other ⟨lane, present, _⟩
      cases present
    · intro before key ticket operation after split
      simp at split
    · intro before key first one between second two after split
      simp at split
  | asked request _ ih => exact account_request request ih
  | turn number _ ih => exact account_turn number ih
  | pass _ _ ih => exact ih

theorem requestEvents_attempts (requests : List (Request κ ω)) (dispatch : Dispatch κ ω σ) :
    (dispatch.requestEvents requests).filterMap Event.attempt? = [] := by
  induction requests generalizing dispatch with
  | nil => rfl
  | cons request rest ih => cases request <;> exact ih _

theorem requestAll_history (requests : List (Request κ ω)) (dispatch : Dispatch κ ω σ) :
    (dispatch.requestAll requests).history = dispatch.history := by
  have wake_history : ∀ (dispatch : Dispatch κ ω σ) number,
      (dispatch.wake number).history = dispatch.history := by
    intro dispatch number
    unfold wake
    split <;> rfl
  induction requests generalizing dispatch with
  | nil => rfl
  | cons request rest ih =>
    refine (ih _).trans ?_
    cases request with
    | enqueue key operation =>
      simp only [Dispatch.request, enqueue]
      split <;> exact wake_history _ _
    | close key =>
      simp only [Dispatch.request, close]
      split
      · rfl
      · exact wake_history _ _

theorem turn_history (rules : Rules κ ω σ) (dispatch : Dispatch κ ω σ) (number : Nat) :
    (dispatch.turn rules number).history =
      dispatch.history ++ (dispatch.turnEvents rules number).filterMap Event.attempt? := by
  cases next : dispatch.next? number with
  | none =>
    simp only [turnEvents, next, List.filterMap_nil, List.append_nil]
    cases found : dispatch.lanes[number]? with
    | none => simp [turn, step, found, yieldLane]
    | some lane =>
      simp only [turn, step, found]
      split
      · rfl
      · rename_i live
        cases waiting : lane.waiting with
        | nil => rfl
        | cons operation rest => simp [next?, found, Lane.next?, live, waiting] at next
  | some next' =>
    obtain ⟨lane, operation⟩ := next'
    obtain ⟨_, _, _, turned⟩ := turn_attempt rules next
    simp only [turned, attempt, turnEvents, next, List.filterMap_cons, Event.attempt?]
    split
    · simp [requestAll_history, requestEvents_attempts, setLane]
    · split
      · split <;> rfl
      · rfl

theorem recorded_history (recorded : Recorded rules asked events dispatch) :
    events.filterMap Event.attempt? = dispatch.history := by
  induction recorded with
  | fresh => rfl
  | @asked _ _ dispatch request _ ih =>
    rw [List.filterMap_append, ih]
    have same := requestAll_history [request] dispatch
    cases request <;> exact (List.append_nil _).trans same.symm
  | turn number _ ih => rw [List.filterMap_append, ih, turn_history]
  | pass _ _ ih => exact ih

theorem recorded_works {after : Dispatch κ ω σ} (works : Works rules dispatch after)
    (recorded : Recorded rules asked events dispatch) :
    ∃ events, Recorded rules asked events after := by
  induction works generalizing events with
  | done => exact ⟨events, recorded⟩
  | turn number _ ih => exact ih (.turn number recorded)
  | pass time _ ih => exact ih (.pass time recorded)

end Dispatch

namespace Event

open Lane (OpenAt)

variable {κ ω : Type} {events before after : List (Event κ ω)} {lanes : List (Lane κ ω)}
  {item : Event κ ω} {key : κ} {first second ticket : Ticket}

-- Every operation is put in once and attempted after that. All attempts at an operation are over
-- before the next one of its key is begun, unless the key was closed in between and the first was
-- not over when the second was put in. Only then two operations of a key can be under way at once.
structure Serial (events : List (Event κ ω)) : Prop where
  once : ∀ before key ticket operation after,
    events = before ++ .accepted key ticket operation :: after →
      ∀ other task, .accepted other ticket task ∉ after
  named : ∀ before ticket attempt isLast after,
    events = before ++ .attempted ticket attempt isLast :: after →
      .accepted attempt.key ticket attempt.operation ∈ before
  inTurn : ∀ before key first one between second two after,
    events = before ++ .accepted key first one :: between ++ .accepted key second two :: after →
      .closed key ∉ between ∨ Over (before ++ .accepted key first one :: between) first →
        Precedes events first second
  alone : ∀ past future before key first one between second two after, events = past ++ future →
    past = before ++ .accepted key first one :: between ++ .accepted key second two :: after →
      UnderWay past first → UnderWay past second →
        .closed key ∈ between ∧ ¬Over (before ++ .accepted key first one :: between) first

section Order

theorem follows_split (inOrder : events.Pairwise Follows) (split : events = before ++ item :: after) :
    (∀ earlier ∈ before, Follows earlier item) ∧ ∀ later ∈ after, Follows item later := by
  subst split
  obtain ⟨_, behind, across⟩ := List.pairwise_append.mp inOrder
  exact ⟨fun earlier present => across earlier present item (List.mem_cons_self ..),
    (List.pairwise_cons.mp behind).1⟩

theorem follows_across (inOrder : (before ++ after).Pairwise Follows) :
    ∀ earlier ∈ before, ∀ later ∈ after, Follows earlier later :=
  (List.pairwise_append.mp inOrder).2.2

theorem ended_of_over (inOrder : (before ++ after).Pairwise Follows) (ended : Over before ticket) :
    ∀ attempt isLast, .attempted ticket attempt isLast ∉ after := by
  intro attempt isLast present
  obtain ⟨final, earlier⟩ := ended
  rcases follows_across inOrder _ earlier _ present rfl with less | ⟨_, again⟩
  · exact Nat.lt_irrefl _ less
  · cases again

-- What is behind in the same lane waits for what is ahead.
theorem precedes_of_place (ledger : Ledger events lanes) (lane_eq : first.lane = second.lane)
    (ahead : first.place < second.place) : Precedes events first second := by
  intro before attempt isLast after split
  have inOrder := ledger.inOrder
  have absent : ∀ other last, .attempted first other last ∉ after := by
    intro other last present
    rcases (follows_split inOrder split).2 _ present lane_eq.symm with less | ⟨same, _⟩
    · exact Nat.lt_asymm ahead less
    · exact Nat.ne_of_gt ahead same
  refine ⟨?_, absent⟩
  have begun : .attempted second attempt isLast ∈ events := by simp [split]
  obtain ⟨lane, found, within, _⟩ := ledger.reached _ _ _ begun
  obtain ⟨final, present⟩ :=
    ledger.through _ lane first.place found (Nat.lt_of_lt_of_le ahead within)
  rw [← lane_eq, split] at present
  rcases List.mem_append.mp present with earlier | later
  · exact ⟨final, earlier⟩
  · rcases List.mem_cons.mp later with same | later
    · cases same
      exact absurd ahead (Nat.lt_irrefl _)
    · exact absurd later (absent final true)

-- What is over when the other is put in is over when that is begun.
theorem precedes_of_over {operation : ω} (inOrder : events.Pairwise Follows)
    (split : events = before ++ .accepted key second operation :: after) (ended : Over before first) :
    Precedes events first second := by
  intro earlier attempt isLast later begun
  have sooner : Over earlier first := by
    rcases List.append_eq_append_iff.mp (split.symm.trans begun) with
      ⟨between, rfl, _⟩ | ⟨between, rfl, rest⟩
    · exact over_append ended
    · -- An attempt cannot come before its operation is put in.
      cases between with
      | nil => cases rest
      | cons event between =>
        cases rest
        have late := (follows_split inOrder split).1 (.attempted second attempt isLast) (by simp) rfl
        exact absurd late (Nat.lt_irrefl _)
  refine ⟨sooner, fun other last present => ?_⟩
  exact ended_of_over (begun ▸ inOrder) sooner other last (List.mem_cons_of_mem _ present)

theorem serial_of_ledger (ledger : Ledger events lanes) (doors : Doors events lanes) :
    Serial events := by
  have inOrder := ledger.inOrder
  have inTurn : ∀ before key first one between second two after,
      events = before ++ .accepted key first one :: between ++ .accepted key second two :: after →
        .closed key ∉ between ∨ Over (before ++ .accepted key first one :: between) first →
          Precedes events first second := by
    intro before key first one between second two after split either
    rcases either with unclosed | ended
    · have same := doors.gathered _ _ _ _ _ _ _ _ split unclosed
      have ahead := (follows_split inOrder split).1 (.accepted key first one) (by simp) same
      exact precedes_of_place ledger same ahead.2
    · exact precedes_of_over inOrder split ended
  refine { once := ?_, named := ?_, inTurn := inTurn, alone := ?_ }
  · intro before key ticket operation after split other task present
    exact Nat.lt_irrefl _ ((follows_split inOrder split).2 _ present rfl).2
  · intro before ticket attempt isLast after split
    have present := ledger.named ticket attempt isLast (by simp [split])
    rw [split] at present
    rcases List.mem_append.mp present with earlier | later
    · exact earlier
    · rcases List.mem_cons.mp later with same | later
      · cases same
      · exact absurd ((follows_split inOrder split).2 _ later rfl) (Nat.lt_irrefl _)
  · intro past future before key first one between second two after whole split under underWay
    refine Classical.byContradiction fun neither => ?_
    have either : .closed key ∉ between ∨
        Over (before ++ .accepted key first one :: between) first := by
      by_cases closed : .closed key ∈ between
      · exact .inr (Classical.byContradiction fun unfinished => neither ⟨closed, unfinished⟩)
      · exact .inl closed
    have order := inTurn before key first one between second two (after ++ future)
      (by simp [whole, split]) either
    obtain ⟨⟨attempt, isLast, begun⟩, _⟩ := underWay
    obtain ⟨sooner, later, parts⟩ := List.append_of_mem begun
    have ended := (order sooner attempt isLast (later ++ future) (by simp [whole, parts])).1
    exact under.2 (parts ▸ over_append ended)

end Order

end Event

theorem Dispatch.recorded_serial {κ ω σ : Type} [DecidableEq κ] {rules : Rules κ ω σ}
    {asked : List (Request κ ω)} {events : List (Event κ ω)} {dispatch : Dispatch κ ω σ}
    (recorded : Recorded rules asked events dispatch) : Event.Serial events :=
  have account := recorded_account recorded
  Event.serial_of_ledger account.ledger account.doors

inductive JobStep where
  | enqueue (target : Silo) (job : Job)
  | forget (target : Silo)
  | quiesce
  | sleep (duration : Nat)

def JobStep.request? : JobStep → Option (Request Silo Job)
  | enqueue target job => some (.enqueue target job)
  | forget target => some (.close target)
  | _ => none

namespace JobQueues

def take (queues : JobQueues) : JobStep → JobQueues
  | .enqueue target job => queues.enqueue target job
  | .forget target => queues.forget target
  | .quiesce => queues.quiesce
  | .sleep duration => queues.sleep duration

def play (queues : JobQueues) (script : List JobStep) : JobQueues := script.foldl take queues

variable {queues : JobQueues} {asked : List (Request Silo Job)} {events : List (Event Silo Job)}

theorem take_recorded (step : JobStep) (live : queues.isCancelled = false)
    (recorded : Dispatch.Recorded queues.rules asked events queues.dispatch) :
    (queues.take step).isCancelled = false ∧ (queues.take step).rules = queues.rules ∧
      ∃ events, Dispatch.Recorded queues.rules (asked ++ step.request?.toList) events
        (queues.take step).dispatch := by
  cases step with
  | enqueue target job =>
    have taken : queues.take (.enqueue target job) =
        { queues with dispatch := queues.dispatch.enqueue target job } := by
      simp [take, enqueue, live]
    rw [taken]
    exact ⟨live, rfl, _, recorded.asked (.enqueue target job)⟩
  | forget target => exact ⟨live, rfl, _, recorded.asked (.close target)⟩
  | quiesce =>
    simp only [JobStep.request?, Option.toList_none, List.append_nil]
    exact ⟨live, rfl, Dispatch.recorded_works (Dispatch.quiesce_works _ _) recorded⟩
  | sleep duration =>
    simp only [JobStep.request?, Option.toList_none, List.append_nil]
    exact ⟨live, rfl, Dispatch.recorded_works (Dispatch.sleep_works _ _) recorded⟩

theorem play_recorded (script : List JobStep) (live : queues.isCancelled = false)
    (recorded : Dispatch.Recorded queues.rules asked events queues.dispatch) :
    ∃ events, Dispatch.Recorded queues.rules (asked ++ script.filterMap JobStep.request?) events
      (queues.play script).dispatch := by
  induction script generalizing queues asked events with
  | nil => exact ⟨events, by simpa [play] using recorded⟩
  | cons step rest ih =>
    obtain ⟨live, rules, _, recorded⟩ := take_recorded step live recorded
    obtain ⟨events, recorded⟩ := ih live (rules ▸ recorded)
    refine ⟨events, ?_⟩
    rw [rules, List.append_assoc] at recorded
    have parts : (step :: rest).filterMap JobStep.request? =
        step.request?.toList ++ rest.filterMap JobStep.request? := by
      cases here : step.request? <;> simp [here]
    rw [parts]
    exact recorded

theorem serial_unless_forgotten (attempts delay : Nat) (script : List JobStep) :
    (∃ events, Dispatch.Recorded (empty attempts delay).rules (script.filterMap JobStep.request?)
        events ((empty attempts delay).play script).dispatch) ∧
      ∀ asked events dispatch,
        Dispatch.Recorded (empty attempts delay).rules asked events dispatch →
          events.filterMap Event.attempt? = dispatch.history ∧ Event.Serial events :=
  ⟨play_recorded script rfl
      (.fresh () : Dispatch.Recorded (empty attempts delay).rules [] []
        (empty attempts delay).dispatch),
    fun _ _ _ recorded => ⟨Dispatch.recorded_history recorded, Dispatch.recorded_serial recorded⟩⟩

def reopened : List JobStep :=
  let target : Silo := ⟨.v4 ⟨10, 0, 0, 1⟩, 100, 1⟩
  [.enqueue target (.mk "first" 1 []), .sleep 1, .forget target,
    .enqueue target (.mk "second" 1 []), .sleep 300]

theorem reopened_interleaves :
    (∃ events, Dispatch.Recorded (empty 2 100).rules (reopened.filterMap JobStep.request?) events
        ((empty 2 100).play reopened).dispatch ∧ Event.Serial events) ∧
      ((empty 2 100).play reopened).dispatch.history.map
          (fun attempt => (attempt.operation.name, attempt.time, attempt.succeeded)) =
        [("first", 0, false), ("second", 1, false), ("first", 100, true), ("second", 101, true)] := by
  obtain ⟨⟨events, recorded⟩, serial⟩ := serial_unless_forgotten 2 100 reopened
  exact ⟨⟨events, recorded, (serial _ _ _ recorded).2⟩, by decide⟩

end JobQueues

end ActorDirectory
