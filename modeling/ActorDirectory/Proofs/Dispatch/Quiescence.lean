import ActorDirectory.Proofs.Dispatch.Tallies

-- Waiting until nothing is left to do: rounds of waiting for what was there when the round began,
-- until a round has put in nothing new. Every round ends, and so do the rounds.
namespace ActorDirectory

namespace Lane

variable {κ ω : Type} {lanes after later : List (Lane κ ω)} {number : Nat} {lane changed : Lane κ ω}

theorem grows_refl (lanes : List (Lane κ ω)) : Grows lanes lanes :=
  fun _ lane present => ⟨lane, present, rfl, Nat.le_refl _, Nat.le_refl _⟩

theorem grows_trans (one : Grows lanes after) (two : Grows after later) : Grows lanes later := by
  intro number lane present
  obtain ⟨middle, present, key, accepted, finished⟩ := one number lane present
  obtain ⟨last, present, key', accepted', finished'⟩ := two number middle present
  exact ⟨last, present, key'.trans key, Nat.le_trans accepted accepted',
    Nat.le_trans finished finished'⟩

theorem grows_set (found : lanes[number]? = some lane) (changed : Lane κ ω)
    (key : changed.key = lane.key) (accepted : lane.accepted ≤ changed.accepted)
    (finished : lane.finished ≤ changed.finished) : Grows lanes (lanes.set number changed) := by
  refine (put_set changed found).grows fun earlier present => ?_
  cases found.symm.trans present
  exact ⟨key, accepted, finished⟩

end Lane

namespace Dispatch

open Lane (Grows Put Room OpenAt)
open Event (Over Ledger Doors)

variable {κ ω σ : Type} {rules : Rules κ ω σ} {dispatch middle after : Dispatch κ ω σ}
  {events : List (Event κ ω)} {marks : List (Nat × Nat)} {chosen : κ → Bool}

section Marks

def Attainable (dispatch : Dispatch κ ω σ) (marks : List (Nat × Nat)) : Prop :=
  ∀ mark ∈ marks, ∃ lane, dispatch.lanes[mark.1]? = some lane ∧ mark.2 ≤ lane.accepted

theorem mem_marks {number count : Nat} : (number, count) ∈ dispatch.marks chosen ↔
    ∃ lane, dispatch.lanes[number]? = some lane ∧ lane.isOpen = true ∧ chosen lane.key = true ∧
      count = lane.accepted := by
  simp only [marks, List.mem_filterMap, List.mem_range, Option.bind_eq_bind,
    Option.bind_eq_some_iff]
  constructor
  · rintro ⟨place, _, lane, found, marked⟩
    split at marked
    · rename_i fits
      cases marked
      simp only [Bool.and_eq_true] at fits
      exact ⟨lane, found, fits.1, fits.2, rfl⟩
    · cases marked
  · rintro ⟨lane, found, isOpen, fits, rfl⟩
    exact ⟨number, (List.getElem?_eq_some_iff.mp found).1, lane, found, by simp [isOpen, fits]⟩

theorem marks_attainable (dispatch : Dispatch κ ω σ) (chosen : κ → Bool) :
    dispatch.Attainable (dispatch.marks chosen) := by
  rintro ⟨number, count⟩ marked
  obtain ⟨lane, found, _, _, rfl⟩ := mem_marks.mp marked
  exact ⟨lane, found, Nat.le_refl _⟩

theorem attainable_grows (grows : Grows dispatch.lanes after.lanes)
    (attainable : dispatch.Attainable marks) : after.Attainable marks := by
  intro mark marked
  obtain ⟨lane, found, within⟩ := attainable mark marked
  obtain ⟨later, found, _, more, _⟩ := grows mark.1 lane found
  exact ⟨later, found, Nat.le_trans within more⟩

theorem passed_of_idle (attended : dispatch.Attended rules) (attainable : dispatch.Attainable marks)
    (rest : dispatch.ready = []) (none : dispatch.asleep = []) :
    marks.all dispatch.hasPassed = true := by
  refine List.all_eq_true.mpr fun mark marked => ?_
  obtain ⟨lane, found, within⟩ := attainable mark marked
  have empty : lane.waiting = [] := Classical.byContradiction fun waits => by
    rcases attended.busy mark.1 lane found waits with ready | ⟨due, asleep⟩
    · simp [rest] at ready
    · simp [none] at asleep
  have finished : lane.accepted = lane.finished := by simp [Lane.accepted, empty]
  simp [hasPassed, found, ← finished, within]

end Marks

theorem accepted_once {key other : κ} {ticket : Ticket} {operation task : ω}
    (inOrder : events.Pairwise Event.Follows) (one : .accepted key ticket operation ∈ events)
    (two : .accepted other ticket task ∈ events) : task = operation := by
  obtain ⟨before, after, split⟩ := List.append_of_mem one
  obtain ⟨earlier, later⟩ := Event.follows_split inOrder split
  rw [split] at two
  rcases List.mem_append.mp two with sooner | same
  · exact absurd (earlier _ sooner rfl).2 (Nat.lt_irrefl _)
  · rcases List.mem_cons.mp same with same | behind
    · cases same
      rfl
    · exact absurd (later _ behind rfl).2 (Nat.lt_irrefl _)

variable [DecidableEq κ] {asked : List (Request κ ω)}

section Growth

theorem request_grows (dispatch : Dispatch κ ω σ) (request : Request κ ω) :
    Grows dispatch.lanes (dispatch.request request).lanes := by
  cases request with
  | enqueue key operation =>
    obtain ⟨base, room, put⟩ := enqueue_room dispatch key operation
    refine put.grows fun earlier present => ?_
    obtain ⟨rfl, _⟩ := room.only present
    exact ⟨rfl, by simp [Lane.push_accepted], Nat.le_refl _⟩
  | close key =>
    rcases close_lanes dispatch key with ⟨same, _⟩ | ⟨number, lane, here, _, _, put⟩
    · rw [request, same]
      exact Lane.grows_refl _
    · refine put.grows fun earlier present => ?_
      cases here.symm.trans present
      exact ⟨rfl, Nat.le_refl _, Nat.le_refl _⟩

theorem requestAll_grows (dispatch : Dispatch κ ω σ) (requests : List (Request κ ω)) :
    Grows dispatch.lanes (dispatch.requestAll requests).lanes := by
  induction requests generalizing dispatch with
  | nil => exact Lane.grows_refl _
  | cons request rest ih => exact Lane.grows_trans (request_grows dispatch request) (ih _)

theorem turn_grows (number : Nat) (attended : dispatch.Attended rules) :
    Grows dispatch.lanes (dispatch.turn rules number).lanes := by
  have turns := turn_turns rules number (attended.live number)
  generalize dispatch.turnEvents rules number = told at turns
  generalize dispatch.turn rules number = after at turns ⊢
  cases turns with
  | missing => exact Lane.grows_refl _
  | rests lane found => exact Lane.grows_set found lane.rest rfl (Nat.le_refl _) (Nat.le_refl _)
  | succeeds lane operation rest result attempt found first =>
    have advances := Lane.grows_set found lane.advance rfl
      (Nat.le_of_eq (Lane.advance_accepted first).symm) (Nat.le_succ _)
    exact Lane.grows_trans advances
      (requestAll_grows (dispatch.tried number lane.advance result.world attempt) result.requests)
  | retries lane operation rest result attempt found =>
    exact Lane.grows_set found _ rfl (Nat.le_refl _) (Nat.le_refl _)
  | sleeps lane operation rest result attempt found =>
    exact Lane.grows_set found _ rfl (Nat.le_refl _) (Nat.le_refl _)
  | drops lane operation rest result attempt found first =>
    exact Lane.grows_set found lane.drop rfl
      (Nat.le_of_eq (Lane.advance_accepted first).symm) (Nat.le_succ _)

theorem proceeds_grows (tries : 0 < rules.attempts) (proceeds : Proceeds rules dispatch after)
    (attended : dispatch.Attended rules) : Grows dispatch.lanes after.lanes := by
  induction proceeds with
  | done => exact Lane.grows_refl _
  | turn number _ _ ih =>
    exact Lane.grows_trans (turn_grows number attended) (ih (attended_turn number tries attended))
  | pass time _ _ _ _ ih => exact ih (attended_fire time attended)

end Growth

section Loops

inductive Rests (rules : Rules κ ω σ) : Dispatch κ ω σ → Dispatch κ ω σ → Prop where
  | rest {dispatch : Dispatch κ ω σ} : dispatch.ready = [] → Rests rules dispatch dispatch
  | step {dispatch after : Dispatch κ ω σ} : dispatch.ready ≠ [] →
      Rests rules (dispatch.step rules) after → Rests rules dispatch after

inductive Outlasts (rules : Rules κ ω σ) (marks : List (Nat × Nat)) :
    Dispatch κ ω σ → Dispatch κ ω σ → Prop where
  | through {dispatch after : Dispatch κ ω σ} : Rests rules dispatch after →
      marks.all after.hasPassed = true → Outlasts rules marks dispatch after
  | waits {dispatch rested after : Dispatch κ ω σ} {due : Nat} : Rests rules dispatch rested →
      marks.all rested.hasPassed = false → rested.nextDue? = some due →
      Outlasts rules marks (rested.fire due) after → Outlasts rules marks dispatch after

inductive Quiesces (rules : Rules κ ω σ) (chosen : κ → Bool) :
    Dispatch κ ω σ → Dispatch κ ω σ → Prop where
  | still {dispatch after : Dispatch κ ω σ} : Outlasts rules (dispatch.marks chosen) dispatch after →
      after.accepted chosen = dispatch.accepted chosen → Quiesces rules chosen dispatch after
  | again {dispatch middle after : Dispatch κ ω σ} :
      Outlasts rules (dispatch.marks chosen) dispatch middle →
      middle.accepted chosen ≠ dispatch.accepted chosen →
      Quiesces rules chosen middle after → Quiesces rules chosen dispatch after

theorem rests_works (rests : Rests rules dispatch after) : Works rules dispatch after := by
  induction rests with
  | rest => exact .done
  | @step dispatch _ nonempty _ ih =>
    obtain ⟨number, others, ready⟩ := List.exists_cons_of_ne_nil nonempty
    rw [step_turn rules ready] at ih
    exact .turn number ih

theorem outlasts_works (outlasts : Outlasts rules marks dispatch after) :
    Works rules dispatch after := by
  induction outlasts with
  | through rests => exact rests_works rests
  | waits rests _ _ _ ih => exact works_trans (rests_works rests) (.pass _ ih)

theorem steps_rests (fuel : Nat) (rest : (steps rules fuel dispatch).ready = []) :
    Rests rules dispatch (steps rules fuel dispatch) := by
  induction fuel generalizing dispatch with
  | zero => exact .rest rest
  | succ fuel ih =>
    rw [steps] at rest ⊢
    split at rest
    · rename_i empty
      rw [if_pos empty]
      exact .rest rest
    · rename_i nonempty
      rw [if_neg nonempty]
      exact .step (by simpa using nonempty) (ih rest)

theorem runsPast_ends (affordable : rules.Affordable) (fuel : Nat)
    (attended : dispatch.Attended rules) (attainable : dispatch.Attainable marks)
    (enough : dispatch.effort rules ≤ fuel) :
    Proceeds rules dispatch (runsPast rules marks fuel dispatch) ∧
      (runsPast rules marks fuel dispatch).ready = [] ∧
      Outlasts rules marks dispatch (runsPast rules marks fuel dispatch) := by
  induction fuel generalizing dispatch with
  | zero => exact absurd (effort_pos rules dispatch) (Nat.not_lt.mpr enough)
  | succ fuel ih =>
    obtain ⟨proceeds, rest, less⟩ := quiet_rests affordable attended
    have later := proceeds_attended affordable.tries proceeds attended
    have left := attainable_grows (proceeds_grows affordable.tries proceeds attended) attainable
    have rests : Rests rules dispatch (dispatch.quiet rules) := steps_rests _ rest
    rw [runsPast]
    split
    · rename_i passed
      exact ⟨proceeds, rest, .through rests passed⟩
    · rename_i pending
      split
      · rename_i none
        exact absurd (passed_of_idle later left rest (nextDue_none none)) pending
      · rename_i due next
        obtain ⟨passes, same⟩ := wakes later rest next
        obtain ⟨goes, ends, outlasts⟩ := ih (attended_fire due later) left (by omega)
        exact ⟨proceeds_trans proceeds (proceeds_trans passes goes), ends,
          .waits rests (by simpa using pending) next outlasts⟩

-- A round that puts something in uses up work, so the last round comes.
theorem settles_ends (affordable : rules.Affordable) (chosen : κ → Bool) (fuel : Nat)
    (attended : dispatch.Attended rules) (enough : dispatch.work rules < fuel) :
    Proceeds rules dispatch (settles rules chosen fuel dispatch) ∧
      (settles rules chosen fuel dispatch).ready = [] ∧
      Quiesces rules chosen dispatch (settles rules chosen fuel dispatch) := by
  induction fuel generalizing dispatch with
  | zero => exact absurd enough (Nat.not_lt_zero _)
  | succ fuel ih =>
    obtain ⟨proceeds, rest, outlasts⟩ := runsPast_ends affordable (dispatch.work rules + 1) attended
      (marks_attainable dispatch chosen) (effort_le rules dispatch)
    rw [settles]
    split
    · rename_i same
      exact ⟨proceeds, rest, .still outlasts same⟩
    · rename_i more
      have less : (runsPast rules (dispatch.marks chosen) (dispatch.work rules + 1) dispatch).work
          rules < dispatch.work rules := by
        rcases proceeds_work affordable proceeds attended with less | ⟨_, same⟩
        · exact less
        · exact absurd (by simp only [accepted, same]) more
      obtain ⟨goes, ends, quiesces⟩ :=
        ih (proceeds_attended affordable.tries proceeds attended) (by omega)
      exact ⟨proceeds_trans proceeds goes, ends, .again outlasts more quiesces⟩

theorem quiesce_ends (affordable : rules.Affordable) (chosen : κ → Bool)
    (attended : dispatch.Attended rules) :
    Proceeds rules dispatch (dispatch.quiesce rules chosen) ∧
      (dispatch.quiesce rules chosen).ready = [] ∧
      Quiesces rules chosen dispatch (dispatch.quiesce rules chosen) :=
  settles_ends affordable chosen _ attended (Nat.lt_succ_self _)

end Loops

section Drained

theorem works_recorded (works : Works rules dispatch after)
    (recorded : Recorded rules asked events dispatch) :
    ∃ more, Recorded rules asked (events ++ more) after := by
  induction works generalizing events with
  | done => exact ⟨[], by rwa [List.append_nil]⟩
  | turn number _ ih =>
    obtain ⟨more, recorded⟩ := ih (.turn number recorded)
    exact ⟨_, by rwa [List.append_assoc] at recorded⟩
  | pass time _ ih => exact ih (.pass time recorded)

theorem outlasts_passed (outlasts : Outlasts rules marks dispatch after) :
    marks.all after.hasPassed = true := by
  induction outlasts with
  | through _ passed => exact passed
  | waits _ _ _ _ ih => exact ih

def Drained (chosen : κ → Bool) (events : List (Event κ ω)) : Prop :=
  ∀ before key ticket operation after, events = before ++ .accepted key ticket operation :: after →
    chosen key = true → .closed key ∉ after →
      ∃ attempt, .attempted ticket attempt true ∈ events ∧ attempt.operation = operation

theorem round_drains {more : List (Event κ ω)} (one : Recorded rules asked events dispatch)
    (two : Recorded rules asked (events ++ more) after)
    (passed : (dispatch.marks chosen).all after.hasPassed = true)
    (nothing : ∀ event ∈ more, Event.isAccepted chosen event = false) :
    Drained chosen (events ++ more) := by
  intro before key ticket operation later split fits unclosed
  have account := recorded_account one
  have ledger := (recorded_account two).ledger
  -- It was put in before the round.
  obtain ⟨between, earlier⟩ : ∃ between,
      events = before ++ .accepted key ticket operation :: between ∧ .closed key ∉ between := by
    rcases List.append_eq_append_iff.mp split with ⟨between, rfl, inside⟩ | ⟨between, rfl, inside⟩
    · have new : Event.accepted key ticket operation ∈ more := by
        rw [inside]
        exact List.mem_append_right _ (List.mem_cons_self ..)
      exact absurd (nothing _ new) (by simp [Event.isAccepted, fits])
    · cases between with
      | nil =>
        have new : Event.accepted key ticket operation ∈ more := by
          rw [List.nil_append] at inside
          rw [← inside]
          exact List.mem_cons_self ..
        exact absurd (nothing _ new) (by simp [Event.isAccepted, fits])
      | cons event between =>
        rw [List.cons_append] at inside
        obtain ⟨rfl, rfl⟩ := List.cons.inj inside
        exact ⟨between, rfl, fun closed => unclosed (List.mem_append_left _ closed)⟩
  obtain ⟨split, unclosed⟩ := earlier
  obtain ⟨lane, found, same, isOpen⟩ := account.doors.still _ _ _ _ _ split unclosed
  obtain ⟨_, again, _, within⟩ := account.ledger.placed key ticket operation (by simp [split])
  cases found.symm.trans again
  have marked : (ticket.lane, lane.accepted) ∈ dispatch.marks chosen :=
    mem_marks.mpr ⟨lane, found, isOpen, same ▸ fits, rfl⟩
  have past := List.all_eq_true.mp passed _ marked
  obtain ⟨later, there, _, _⟩ := ledger.placed key ticket operation (by simp [split])
  have finished : lane.accepted ≤ later.finished := by
    simpa [hasPassed, there, ledger.live _ later there] using past
  obtain ⟨attempt, last⟩ :=
    ledger.through _ later ticket.place there (Nat.lt_of_lt_of_le within finished)
  have accepted : .accepted key ticket operation ∈ events ++ more := by simp [split]
  exact ⟨attempt, last, accepted_once ledger.inOrder accepted (ledger.named _ _ _ last)⟩

theorem quiesces_drains (quiesces : Quiesces rules chosen dispatch after)
    (recorded : Recorded rules asked events dispatch) :
    ∃ more, Recorded rules asked (events ++ more) after ∧ Drained chosen (events ++ more) := by
  induction quiesces generalizing events with
  | still outlasts same =>
    obtain ⟨more, later⟩ := works_recorded (outlasts_works outlasts) recorded
    have none : more.countP (Event.isAccepted chosen) = 0 := by
      rw [recorded_accepted later, recorded_accepted recorded, List.countP_append] at same
      omega
    have nothing : ∀ event ∈ more, Event.isAccepted chosen event = false := fun event present =>
      Bool.eq_false_iff.mpr (List.countP_eq_zero.mp none event present)
    exact ⟨more, later, round_drains recorded later (outlasts_passed outlasts) nothing⟩
  | again outlasts _ _ ih =>
    obtain ⟨more, later⟩ := works_recorded (outlasts_works outlasts) recorded
    obtain ⟨rest, ends, drained⟩ := ih later
    rw [List.append_assoc] at ends drained
    exact ⟨more ++ rest, ends, drained⟩

end Drained

end Dispatch

namespace JobQueues

open Dispatch (Recorded Quiesces Drained)

-- Waiting ends in every state that jobs can lead to. Whatever was put in by then, also by the jobs
-- that ran meanwhile, has succeeded or is dropped, unless its target was forgotten since.
theorem quiesce_drains (attempts delay : Nat) {asked : List (Request Silo Job)}
    {events : List (Event Silo Job)} {dispatch : Dispatch Silo Job Unit}
    (recorded : Recorded (empty attempts delay).rules asked events dispatch) :
    let queues := { empty attempts delay with dispatch }
    Quiesces queues.rules (fun _ => true) dispatch queues.quiesce.dispatch ∧
      ∃ meanwhile, Recorded queues.rules asked (events ++ meanwhile) queues.quiesce.dispatch ∧
        Drained (fun _ => true) (events ++ meanwhile) ∧
        queues.quiesce.dropped = (events ++ meanwhile).countP Event.isDrop := by
  have affordable := affordable attempts delay
  have attended := Dispatch.recorded_attended affordable.tries recorded
  obtain ⟨_, _, quiesces⟩ := Dispatch.quiesce_ends affordable (fun _ => true) attended
  obtain ⟨meanwhile, later, drained⟩ := Dispatch.quiesces_drains quiesces recorded
  exact ⟨quiesces, meanwhile, later, drained, Dispatch.recorded_dropped later⟩

def chained : List JobStep :=
  let one : Silo := ⟨.v4 ⟨10, 0, 0, 1⟩, 100, 1⟩
  let two : Silo := ⟨.v4 ⟨10, 0, 0, 2⟩, 100, 1⟩
  let child : Job := .mk "child" 5 [(one, .mk "never" 0 [])]
  let leaf : Job := .mk "leaf" 0 []
  [.enqueue one (.mk "root" 1 [(two, child), (two, .mk "last" 0 [(one, leaf)])]),
    .enqueue two (.mk "forgotten" 1 []), .sleep 1, .forget two]

theorem chained_drains :
    let queues := (empty 2 100).play chained
    (Quiesces queues.rules (fun _ => true) queues.dispatch queues.quiesce.dispatch ∧
      ∃ events, Recorded queues.rules (chained.filterMap JobStep.request?) events
          queues.quiesce.dispatch ∧
        Drained (fun _ => true) events ∧ queues.quiesce.dropped = events.countP Event.isDrop) ∧
      queues.quiesce.dropped = 1 ∧
      queues.quiesce.dispatch.history.map
          (fun attempt => (attempt.operation.name, attempt.time, attempt.succeeded)) =
        [("root", 0, false), ("forgotten", 0, false), ("root", 100, true),
          ("forgotten", 100, true), ("child", 100, false), ("child", 200, false),
          ("last", 200, true), ("leaf", 200, true)] := by
  obtain ⟨events, recorded⟩ := play_recorded chained rfl
    (.fresh () : Recorded (empty 2 100).rules [] [] (empty 2 100).dispatch)
  obtain ⟨quiesces, meanwhile, ends⟩ := quiesce_drains 2 100 recorded
  exact ⟨⟨quiesces, _, ends⟩, by decide, by decide⟩

end JobQueues
end ActorDirectory
