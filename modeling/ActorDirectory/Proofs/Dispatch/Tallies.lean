import ActorDirectory.Proofs.Dispatch.Progress

-- What lanes have counted is what the events of their run come to.
namespace ActorDirectory

namespace Event

variable {κ ω : Type}

def isAccepted (chosen : κ → Bool) : Event κ ω → Bool
  | accepted key _ _ => chosen key
  | _ => false

def isSuccess : Event κ ω → Bool
  | attempted _ attempt isLast => isLast && attempt.succeeded
  | _ => false

def isDrop : Event κ ω → Bool
  | attempted _ attempt isLast => isLast && !attempt.succeeded
  | _ => false

def isOver (event : Event κ ω) : Bool := event.isSuccess || event.isDrop

theorem countP_isOver (events : List (Event κ ω)) :
    events.countP isOver = events.countP isSuccess + events.countP isDrop := by
  induction events with
  | nil => rfl
  | cons event rest ih =>
    have one : [event].countP isOver = [event].countP isSuccess + [event].countP isDrop := by
      cases event with
      | attempted ticket attempt isLast =>
        cases isLast <;> cases succeeded : attempt.succeeded <;>
          simp [isOver, isSuccess, isDrop, succeeded]
      | _ => rfl
    simp only [← List.singleton_append (l := rest), List.countP_append, one, ih]
    omega

end Event

namespace Lane

variable {κ ω : Type}

structure Tallies (measure : Lane κ ω → Nat) (counts : Event κ ω → Bool) : Prop where
  opened : ∀ key, measure { key } = 0
  accepted : ∀ lane ticket operation,
    measure (lane.push operation) = measure lane + [.accepted lane.key ticket operation].countP counts
  closed : ∀ lane, measure { lane with isOpen := false } = measure lane
  uncounted : ∀ key, counts (.closed key) = false
  rested : ∀ lane, measure lane.rest = measure lane
  advanced : ∀ lane operation rest ticket attempt, lane.waiting = operation :: rest →
    attempt.succeeded = true →
      measure lane.advance = measure lane + [.attempted ticket attempt true].countP counts
  retried : ∀ lane ticket attempt, measure { lane with made := lane.made + 1 } =
    measure lane + [.attempted ticket attempt false].countP counts
  gone : ∀ lane operation rest ticket attempt, lane.waiting = operation :: rest →
    attempt.succeeded = false →
      measure lane.drop = measure lane + [.attempted ticket attempt true].countP counts

theorem advance_accepted {lane : Lane κ ω} {operation : ω} {rest : List ω}
    (first : lane.waiting = operation :: rest) : lane.advance.accepted = lane.accepted := by
  simp only [accepted, advance, first, List.tail_cons, List.length_cons]
  omega

theorem accepted_tallies (chosen : κ → Bool) :
    Tallies (fun lane : Lane κ ω => if chosen lane.key then lane.accepted else 0)
      (Event.isAccepted chosen) where
  opened := fun _ => by simp [accepted]
  accepted := fun lane ticket operation => by
    have key : (lane.push operation).key = lane.key := rfl
    cases fits : chosen lane.key <;> simp [key, fits, push_accepted, Event.isAccepted]
  closed := fun _ => rfl
  uncounted := fun _ => rfl
  rested := fun _ => rfl
  advanced := fun lane _ _ _ _ first _ => by
    have key : lane.advance.key = lane.key := rfl
    rw [key, advance_accepted first]
    rfl
  retried := fun _ _ _ => rfl
  gone := fun lane _ _ _ _ first _ => by
    have key : lane.drop.key = lane.key := rfl
    have same : lane.drop.accepted = lane.accepted := advance_accepted first
    rw [key, same]
    rfl

theorem finished_tallies : Tallies (finished : Lane κ ω → Nat) Event.isOver where
  opened := fun _ => rfl
  accepted := fun _ _ _ => rfl
  closed := fun _ => rfl
  uncounted := fun _ => rfl
  rested := fun _ => rfl
  advanced := fun _ _ _ _ _ _ succeeded => by
    simp [advance, Event.isOver, Event.isSuccess, succeeded]
  retried := fun _ _ _ => rfl
  gone := fun _ _ _ _ _ _ failed => by
    simp [drop, advance, Event.isOver, Event.isDrop, failed]

theorem dropped_tallies : Tallies (dropped : Lane κ ω → Nat) Event.isDrop where
  opened := fun _ => rfl
  accepted := fun _ _ _ => rfl
  closed := fun _ => rfl
  uncounted := fun _ => rfl
  rested := fun _ => rfl
  advanced := fun _ _ _ _ _ _ succeeded => by simp [advance, Event.isDrop, succeeded]
  retried := fun _ _ _ => rfl
  gone := fun _ _ _ _ _ _ failed => by simp [drop, Event.isDrop, failed]

end Lane

namespace Dispatch

open Lane (Tallies)

variable {κ ω σ : Type} {rules : Rules κ ω σ} {dispatch after : Dispatch κ ω σ}
  {measure : Lane κ ω → Nat} {counts : Event κ ω → Bool}

def tally (measure : Lane κ ω → Nat) (dispatch : Dispatch κ ω σ) : Nat :=
  total (dispatch.lanes.map measure)

theorem accepted_tally (chosen : κ → Bool) (dispatch : Dispatch κ ω σ) :
    dispatch.accepted chosen =
      dispatch.tally fun lane => if chosen lane.key then lane.accepted else 0 := by
  have lanes : ∀ lanes : List (Lane κ ω), total ((lanes.filter (chosen ·.key)).map Lane.accepted) =
      total (lanes.map fun lane => if chosen lane.key then lane.accepted else 0) := by
    intro lanes
    induction lanes with
    | nil => rfl
    | cons lane rest ih => cases fits : chosen lane.key <;> simp [fits, ih]
  exact lanes dispatch.lanes

theorem tally_set {number count : Nat} {lane changed : Lane κ ω}
    (found : dispatch.lanes[number]? = some lane)
    (lanes : after.lanes = dispatch.lanes.set number changed)
    (more : measure changed = measure lane + count) :
    after.tally measure = dispatch.tally measure + count := by
  have moved := total_set measure changed found
  rw [tally, tally, lanes]
  omega

variable [DecidableEq κ]

theorem request_tally (tallies : Tallies measure counts) (dispatch : Dispatch κ ω σ)
    (request : Request κ ω) : (dispatch.request request).tally measure =
      dispatch.tally measure + [dispatch.requestEvent request].countP counts := by
  cases request with
  | enqueue key operation =>
    obtain ⟨base, room, put⟩ := enqueue_room dispatch key operation
    have more := tallies.accepted base (dispatch.ticketFor key) operation
    have moved := room.total_put measure (tallies.opened key) put
    rw [room.key_eq] at more
    simp only [tally, request, requestEvent]
    omega
  | close key =>
    have nothing : [dispatch.requestEvent (.close key)].countP counts = 0 := by
      simp [requestEvent, tallies.uncounted]
    rw [nothing]
    rcases close_lanes dispatch key with ⟨same, _⟩ | ⟨number, lane, here, _, _, put⟩
    · exact congrArg (tally measure) same
    · exact tally_set here (put.set_eq here) (tallies.closed lane)

theorem requestAll_tally (tallies : Tallies measure counts) (dispatch : Dispatch κ ω σ)
    (requests : List (Request κ ω)) : (dispatch.requestAll requests).tally measure =
      dispatch.tally measure + (dispatch.requestEvents requests).countP counts := by
  induction requests generalizing dispatch with
  | nil => rfl
  | cons request rest ih =>
    refine (ih (dispatch.request request)).trans ?_
    rw [request_tally tallies, requestEvents]
    simp only [List.countP_cons, List.countP_nil]
    omega

theorem turn_tally (tallies : Tallies measure counts) (rules : Rules κ ω σ) (number : Nat)
    (live : ∀ lane, dispatch.lanes[number]? = some lane → lane.isHalted = false) :
    (dispatch.turn rules number).tally measure =
      dispatch.tally measure + (dispatch.turnEvents rules number).countP counts := by
  have turns := turn_turns rules number live
  generalize dispatch.turnEvents rules number = told at turns ⊢
  generalize dispatch.turn rules number = after at turns ⊢
  cases turns with
  | missing => rfl
  | rests lane found => exact tally_set found rfl (tallies.rested lane)
  | succeeds lane operation rest result attempt found first _ made succeeded =>
    have advanced : (dispatch.tried number lane.advance result.world attempt).tally measure = _ :=
      tally_set found rfl (tallies.advanced lane operation rest ⟨number, lane.finished⟩ attempt first
        (made ▸ succeeded))
    rw [requestAll_tally tallies, advanced]
    simp only [List.countP_cons, List.countP_nil]
    omega
  | retries lane operation rest result attempt found =>
    exact tally_set found rfl (tallies.retried lane ⟨number, lane.finished⟩ attempt)
  | sleeps lane operation rest result attempt found =>
    exact tally_set found rfl (tallies.retried lane ⟨number, lane.finished⟩ attempt)
  | drops lane operation rest result attempt found first _ made failed =>
    exact tally_set found rfl (tallies.gone lane operation rest ⟨number, lane.finished⟩ attempt first
      (made ▸ failed))

variable {asked : List (Request κ ω)} {events : List (Event κ ω)}

theorem recorded_tally (tallies : Tallies measure counts)
    (recorded : Recorded rules asked events dispatch) :
    dispatch.tally measure = events.countP counts := by
  induction recorded with
  | fresh => rfl
  | asked request _ ih => rw [request_tally tallies, ih, List.countP_append]
  | turn number earlier ih =>
    rw [turn_tally tallies rules number ((recorded_account earlier).ledger.live number), ih,
      List.countP_append]
  | pass time _ ih => exact ih

theorem recorded_accepted (recorded : Recorded rules asked events dispatch) (chosen : κ → Bool) :
    dispatch.accepted chosen = events.countP (Event.isAccepted chosen) :=
  (accepted_tally chosen dispatch).trans (recorded_tally (Lane.accepted_tallies chosen) recorded)

theorem recorded_dropped (recorded : Recorded rules asked events dispatch) :
    dispatch.tally Lane.dropped = events.countP Event.isDrop :=
  recorded_tally Lane.dropped_tallies recorded

theorem recorded_balance (recorded : Recorded rules asked events dispatch) :
    events.countP (Event.isAccepted fun _ => true) =
      events.countP Event.isSuccess + events.countP Event.isDrop +
        dispatch.tally fun lane => lane.waiting.length := by
  rw [← Event.countP_isOver, ← recorded_tally Lane.finished_tallies recorded,
    ← recorded_tally (Lane.accepted_tallies fun _ => true) recorded]
  simp only [tally, ↓reduceIte, Lane.accepted]
  induction dispatch.lanes with
  | nil => rfl
  | cons lane rest ih =>
    simp only [List.map_cons, total_cons, ih]
    omega

end Dispatch
end ActorDirectory
