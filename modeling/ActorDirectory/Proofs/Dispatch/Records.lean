import ActorDirectory.Proofs.Dispatch.Schedules

-- The operations of one key, in whatever order lanes take their turns. A lane makes all attempts
-- at one operation before the first attempt at the next. A key whose lane was closed gets another
-- lane, and the two know nothing of each other.
namespace ActorDirectory

structure Ticket where
  lane : Nat
  place : Nat
  deriving DecidableEq, Repr

-- What happens to a dispatch, in order. After the last attempt at an operation it is over: it has
-- succeeded or it is dropped.
inductive Event (κ ω : Type) where
  | accepted (key : κ) (ticket : Ticket) (operation : ω)
  | closed (key : κ)
  | attempted (ticket : Ticket) (attempt : Attempt κ ω) (isLast : Bool)
  deriving DecidableEq, Repr

namespace Event

variable {κ ω : Type}

def attempt? : Event κ ω → Option (Attempt κ ω)
  | attempted _ attempt _ => some attempt
  | _ => none

end Event

namespace Dispatch

variable {κ ω σ : Type} [DecidableEq κ]

def ticketFor (dispatch : Dispatch κ ω σ) (key : κ) : Ticket :=
  let number := (dispatch.openLane? key).getD dispatch.lanes.length
  ⟨number, ((dispatch.lanes[number]?).map Lane.accepted).getD 0⟩

def requestEvent (dispatch : Dispatch κ ω σ) : Request κ ω → Event κ ω
  | .enqueue key operation => .accepted key (dispatch.ticketFor key) operation
  | .close key => .closed key

def requestEvents (dispatch : Dispatch κ ω σ) : List (Request κ ω) → List (Event κ ω)
  | [] => []
  | request :: rest =>
    dispatch.requestEvent request :: (dispatch.request request).requestEvents rest

def turnEvents (rules : Rules κ ω σ) (dispatch : Dispatch κ ω σ) (number : Nat) :
    List (Event κ ω) :=
  match dispatch.next? number with
  | none => []
  | some (lane, operation) =>
    let result := rules.perform dispatch.world lane.key operation lane.made
    .attempted ⟨number, lane.finished⟩
        ⟨number, lane.key, operation, dispatch.now, result.succeeded⟩
        (result.succeeded || !decide (lane.made + 1 < rules.attempts)) ::
      if result.succeeded then
        (dispatch.setLane number lane.advance).requestEvents result.requests
      else []

-- A run in which nothing is halted, with what was asked for from outside and all that happened.
-- Any lane may take its turn at any time, and any time may pass.
inductive Recorded (rules : Rules κ ω σ) :
    List (Request κ ω) → List (Event κ ω) → Dispatch κ ω σ → Prop where
  | fresh (world : σ) : Recorded rules [] [] { world }
  | asked {asked : List (Request κ ω)} {events : List (Event κ ω)} {dispatch : Dispatch κ ω σ}
      (request : Request κ ω) : Recorded rules asked events dispatch →
      Recorded rules (asked ++ [request]) (events ++ [dispatch.requestEvent request])
        (dispatch.request request)
  | turn {asked : List (Request κ ω)} {events : List (Event κ ω)} {dispatch : Dispatch κ ω σ}
      (number : Nat) : Recorded rules asked events dispatch →
      Recorded rules asked (events ++ dispatch.turnEvents rules number)
        (dispatch.turn rules number)
  | pass {asked : List (Request κ ω)} {events : List (Event κ ω)} {dispatch : Dispatch κ ω σ}
      (time : Nat) : Recorded rules asked events dispatch →
      Recorded rules asked events (dispatch.fire time)

end Dispatch

namespace Event

variable {κ ω : Type} {events before after : List (Event κ ω)} {first second ticket : Ticket}

def Over (events : List (Event κ ω)) (ticket : Ticket) : Prop :=
  ∃ attempt, .attempted ticket attempt true ∈ events

def UnderWay (events : List (Event κ ω)) (ticket : Ticket) : Prop :=
  (∃ attempt isLast, .attempted ticket attempt isLast ∈ events) ∧ ¬Over events ticket

def Precedes (events : List (Event κ ω)) (first second : Ticket) : Prop :=
  ∀ before attempt isLast after, events = before ++ .attempted second attempt isLast :: after →
    Over before first ∧ ∀ other last, .attempted first other last ∉ after

def Follows : Event κ ω → Event κ ω → Prop
  | accepted key ticket _, accepted key' ticket' _ =>
    ticket.lane = ticket'.lane → key = key' ∧ ticket.place < ticket'.place
  | attempted ticket _ _, accepted _ ticket' _ =>
    ticket.lane = ticket'.lane → ticket.place < ticket'.place
  | attempted ticket _ isLast, attempted ticket' _ _ =>
    ticket.lane = ticket'.lane →
      ticket.place < ticket'.place ∨ ticket.place = ticket'.place ∧ isLast = false
  | _, _ => True

theorem split_concat {α : Type} {items before after : List α} {last item : α}
    (split : items ++ [last] = before ++ item :: after) :
    after = [] ∧ item = last ∧ before = items ∨
      ∃ between, after = between ++ [last] ∧ items = before ++ item :: between := by
  rcases List.eq_nil_or_concat after with rfl | ⟨between, other, rfl⟩
  · obtain ⟨same, here⟩ := List.append_inj' split rfl
    exact .inl ⟨rfl, (List.cons.inj here).1.symm, same.symm⟩
  · rw [List.concat_eq_append, ← List.cons_append, ← List.append_assoc] at split
    obtain ⟨same, here⟩ := List.append_inj' split rfl
    cases here
    exact .inr ⟨between, List.concat_eq_append, same⟩

end Event

namespace Lane

variable {κ ω : Type}

def push (lane : Lane κ ω) (operation : ω) : Lane κ ω :=
  { lane with waiting := lane.waiting ++ [operation] }

structure Put (lanes : List (Lane κ ω)) (number : Nat) (lane : Lane κ ω)
    (after : List (Lane κ ω)) : Prop where
  here : after[number]? = some lane
  elsewhere : ∀ other, other ≠ number → after[other]? = lanes[other]?

def OpenAt (lanes : List (Lane κ ω)) (key : κ) (number : Nat) : Prop :=
  ∃ lane : Lane κ ω, lanes[number]? = some lane ∧ lane.key = key ∧ lane.isOpen = true

inductive Room (lanes : List (Lane κ ω)) (key : κ) : Ticket → Lane κ ω → Prop where
  | found {number : Nat} {lane : Lane κ ω} (here : lanes[number]? = some lane)
      (same : lane.key = key) (isOpen : lane.isOpen = true) :
      Room lanes key ⟨number, lane.accepted⟩ lane
  | fresh (none : ∀ number, ¬OpenAt lanes key number) :
      Room lanes key ⟨lanes.length, 0⟩ { key }

def Grows (lanes after : List (Lane κ ω)) : Prop :=
  ∀ (number : Nat) (lane : Lane κ ω), lanes[number]? = some lane →
    ∃ later : Lane κ ω, after[number]? = some later ∧
      later.key = lane.key ∧ lane.accepted ≤ later.accepted ∧
        lane.finished ≤ later.finished

variable {lanes after : List (Lane κ ω)} {number other : Nat} {lane found base : Lane κ ω} {key : κ}
  {ticket : Ticket}

theorem put_set (lane : Lane κ ω) (present : lanes[number]? = some found) :
    Put lanes number lane (lanes.set number lane) where
  here := by simp [(List.getElem?_eq_some_iff.mp present).1]
  elsewhere := fun _ elsewhere => List.getElem?_set_ne elsewhere.symm

theorem Put.or (put : Put lanes number lane after) (present : after[other]? = some found) :
    other = number ∧ found = lane ∨ other ≠ number ∧ lanes[other]? = some found := by
  by_cases same : other = number
  · subst same
    exact .inl ⟨rfl, Option.some.inj (present.symm.trans put.here)⟩
  · exact .inr ⟨same, (put.elsewhere other same).symm.trans present⟩

theorem Put.grows (put : Put lanes number lane after)
    (grown : ∀ earlier, lanes[number]? = some earlier → lane.key = earlier.key ∧
      earlier.accepted ≤ lane.accepted ∧ earlier.finished ≤ lane.finished) : Grows lanes after := by
  intro other earlier present
  by_cases same : other = number
  · subst same
    exact ⟨lane, put.here, grown earlier present⟩
  · exact ⟨earlier, (put.elsewhere other same).trans present, rfl, Nat.le_refl _, Nat.le_refl _⟩

theorem Room.only (room : Room lanes key ticket base)
    (present : lanes[ticket.lane]? = some found) : found = base ∧ base.accepted = ticket.place := by
  cases room with
  | found here => exact ⟨Option.some.inj (present.symm.trans here), rfl⟩
  | fresh => simp at present

theorem Room.key_eq (room : Room lanes key ticket base) : base.key = key := by
  cases room with
  | found _ same => exact same
  | fresh => rfl

theorem Room.opened (room : Room lanes key ticket base) : base.isOpen = true := by
  cases room with
  | found _ _ isOpen => exact isOpen
  | fresh => rfl

theorem Room.place_eq (room : Room lanes key ticket base) : ticket.place = base.accepted := by
  cases room with
  | found => rfl
  | fresh => rfl

theorem push_accepted (lane : Lane κ ω) (operation : ω) :
    (lane.push operation).accepted = lane.accepted + 1 := by
  simp [push, accepted, Nat.add_assoc]

end Lane

namespace Event

open Lane (Put OpenAt Room Grows)

variable {κ ω : Type} {events : List (Event κ ω)} {lanes after : List (Lane κ ω)} {number : Nat}
  {lane base changed : Lane κ ω} {key : κ} {ticket : Ticket} {operation : ω}

-- What the operations of lanes and the events say of each other.
structure Ledger (events : List (Event κ ω)) (lanes : List (Lane κ ω)) : Prop where
  inOrder : events.Pairwise Follows
  live : ∀ (number : Nat) (lane : Lane κ ω), lanes[number]? = some lane → lane.isHalted = false
  placed : ∀ key ticket operation, .accepted key ticket operation ∈ events →
    ∃ lane : Lane κ ω, lanes[ticket.lane]? = some lane ∧ lane.key = key ∧
      ticket.place < lane.accepted
  taken : ∀ (number : Nat) (lane : Lane κ ω) (place : Nat) (operation : ω),
    lanes[number]? = some lane → lane.waiting[place]? = some operation →
      .accepted lane.key ⟨number, lane.finished + place⟩ operation ∈ events
  named : ∀ ticket attempt isLast, .attempted ticket attempt isLast ∈ events →
    .accepted attempt.key ticket attempt.operation ∈ events
  reached : ∀ ticket attempt isLast, .attempted ticket attempt isLast ∈ events →
    ∃ lane : Lane κ ω, lanes[ticket.lane]? = some lane ∧ ticket.place ≤ lane.finished ∧
      (isLast = true → ticket.place < lane.finished)
  through : ∀ (number : Nat) (lane : Lane κ ω) (place : Nat), lanes[number]? = some lane →
    place < lane.finished → Over events ⟨number, place⟩

structure Doors (events : List (Event κ ω)) (lanes : List (Lane κ ω)) : Prop where
  single : ∀ key one other, OpenAt lanes key one → OpenAt lanes key other → one = other
  still : ∀ before key ticket operation after,
    events = before ++ .accepted key ticket operation :: after → .closed key ∉ after →
      OpenAt lanes key ticket.lane
  gathered : ∀ before key first one between second two after,
    events = before ++ .accepted key first one :: between ++ .accepted key second two :: after →
      .closed key ∉ between → first.lane = second.lane

theorem over_append {before after : List (Event κ ω)} (ended : Over before ticket) :
    Over (before ++ after) ticket := by
  obtain ⟨attempt, present⟩ := ended
  exact ⟨attempt, List.mem_append_left _ present⟩

section Ledger

theorem placed_grows (grows : Grows lanes after) {place : Nat}
    (placed : ∃ lane : Lane κ ω, lanes[number]? = some lane ∧ lane.key = key ∧ place < lane.accepted) :
    ∃ lane : Lane κ ω, after[number]? = some lane ∧ lane.key = key ∧ place < lane.accepted := by
  obtain ⟨lane, present, same, within⟩ := placed
  obtain ⟨later, present, kept, more, _⟩ := grows number lane present
  exact ⟨later, present, kept.trans same, Nat.lt_of_lt_of_le within more⟩

theorem reached_grows (grows : Grows lanes after) {place : Nat} {isLast : Bool}
    (reached : ∃ lane : Lane κ ω, lanes[number]? = some lane ∧ place ≤ lane.finished ∧
      (isLast = true → place < lane.finished)) :
    ∃ lane : Lane κ ω, after[number]? = some lane ∧ place ≤ lane.finished ∧
      (isLast = true → place < lane.finished) := by
  obtain ⟨lane, present, within, last⟩ := reached
  obtain ⟨later, present, _, _, more⟩ := grows number lane present
  exact ⟨later, present, Nat.le_trans within more, fun isLast => Nat.lt_of_lt_of_le (last isLast) more⟩

theorem ledger_accepted (room : Room lanes key ticket base)
    (put : Put lanes ticket.lane (base.push operation) after) (ledger : Ledger events lanes) :
    Ledger (events ++ [.accepted key ticket operation]) after := by
  have grows : Grows lanes after := put.grows fun earlier present => by
    obtain ⟨rfl, _⟩ := room.only present
    exact ⟨rfl, by simp [Lane.push_accepted], Nat.le_refl _⟩
  -- Whatever is known of the lane so far is about operations before this one.
  have ahead : ∀ key' ticket' operation', .accepted key' ticket' operation' ∈ events →
      ticket'.lane = ticket.lane → key' = key ∧ ticket'.place < ticket.place := by
    intro key' ticket' operation' present same
    obtain ⟨lane, found, rfl, within⟩ := ledger.placed key' ticket' operation' present
    obtain ⟨rfl, place⟩ := room.only (same ▸ found)
    exact ⟨room.key_eq, place ▸ within⟩
  refine
    { inOrder := ?_, live := ?_, placed := ?_, taken := ?_, named := ?_, reached := ?_, through := ?_ }
  · refine List.pairwise_append.mpr ⟨ledger.inOrder, List.pairwise_singleton .., ?_⟩
    intro earlier present last isLast
    cases List.mem_singleton.mp isLast
    cases earlier with
    | accepted key' ticket' operation' => exact ahead key' ticket' operation' present
    | closed => trivial
    | attempted ticket' attempt isLast =>
      exact fun same => (ahead _ _ _ (ledger.named ticket' attempt isLast present) same).2
  · intro number lane present
    rcases put.or present with ⟨rfl, rfl⟩ | ⟨_, present⟩
    · cases room with
      | found here => exact ledger.live _ base here
      | fresh => rfl
    · exact ledger.live number lane present
  · intro key' ticket' operation' present
    rcases List.mem_append.mp present with present | new
    · exact placed_grows grows (ledger.placed key' ticket' operation' present)
    · cases List.mem_singleton.mp new
      refine ⟨_, put.here, room.key_eq, ?_⟩
      rw [Lane.push_accepted, room.place_eq]
      exact Nat.lt_succ_self _
  · intro number lane place waits present here
    rcases put.or present with ⟨rfl, rfl⟩ | ⟨_, present⟩
    · simp only [Lane.push, List.getElem?_append] at here
      split at here
      · refine List.mem_append_left _ ?_
        cases room with
        | found found => exact ledger.taken _ base _ _ found here
        | fresh => simp at here
      · rename_i beyond
        rw [List.getElem?_singleton] at here
        split at here
        · rename_i first
          cases here
          have place_eq : ticket.place = base.finished + place := by
            rw [room.place_eq, Lane.accepted]
            omega
          simp [Lane.push, room.key_eq, ← place_eq]
        · cases here
    · exact List.mem_append_left _ (ledger.taken number lane place waits present here)
  · intro ticket' attempt isLast present
    simp only [List.mem_append, List.mem_singleton, reduceCtorEq, or_false] at present
    exact List.mem_append_left _ (ledger.named ticket' attempt isLast present)
  · intro ticket' attempt isLast present
    simp only [List.mem_append, List.mem_singleton, reduceCtorEq, or_false] at present
    exact reached_grows grows (ledger.reached ticket' attempt isLast present)
  · intro number lane place present within
    refine over_append ?_
    rcases put.or present with ⟨rfl, rfl⟩ | ⟨_, present⟩
    · cases room with
      | found here => exact ledger.through _ _ place here within
      | fresh => cases within
    · exact ledger.through number lane place present within

theorem ledger_kept (found : lanes[number]? = some lane) (put : Put lanes number changed after)
    (kept : changed.key = lane.key ∧ changed.isHalted = lane.isHalted ∧
      changed.waiting = lane.waiting ∧ changed.finished = lane.finished)
    (ledger : Ledger events lanes) : Ledger events after := by
  obtain ⟨sameKey, halted, waiting, finished⟩ := kept
  have grows : Grows lanes after := put.grows fun earlier present => by
    cases found.symm.trans present
    exact ⟨sameKey, by simp [Lane.accepted, waiting, finished], Nat.le_of_eq finished.symm⟩
  refine { ledger with
    live := ?_
    placed := fun key' ticket' operation' present =>
      placed_grows grows (ledger.placed key' ticket' operation' present)
    taken := ?_
    reached := fun ticket' attempt isLast present =>
      reached_grows grows (ledger.reached ticket' attempt isLast present)
    through := ?_ }
  · intro number lane present
    rcases put.or present with ⟨rfl, rfl⟩ | ⟨_, present⟩
    · exact halted.trans (ledger.live _ _ found)
    · exact ledger.live number lane present
  · intro number lane place waits present here
    rcases put.or present with ⟨rfl, rfl⟩ | ⟨_, present⟩
    · rw [sameKey, finished]
      exact ledger.taken _ _ place waits found (waiting ▸ here)
    · exact ledger.taken number lane place waits present here
  · intro number lane place present within
    rcases put.or present with ⟨rfl, rfl⟩ | ⟨_, present⟩
    · exact ledger.through _ _ place found (finished ▸ within)
    · exact ledger.through number lane place present within

theorem ledger_closed (ledger : Ledger events lanes) : Ledger (events ++ [.closed key]) lanes := by
  refine
    { ledger with
      inOrder := List.pairwise_append.mpr ⟨ledger.inOrder, List.pairwise_singleton .., ?_⟩
      placed := ?_, taken := ?_, named := ?_, reached := ?_, through := ?_ }
  · intro earlier _ last isLast
    cases List.mem_singleton.mp isLast
    cases earlier <;> trivial
  · intro key' ticket' operation' present
    simp only [List.mem_append, List.mem_singleton, reduceCtorEq, or_false] at present
    exact ledger.placed key' ticket' operation' present
  · exact fun number lane place waits present here =>
      List.mem_append_left _ (ledger.taken number lane place waits present here)
  · intro ticket' attempt isLast present
    simp only [List.mem_append, List.mem_singleton, reduceCtorEq, or_false] at present
    exact List.mem_append_left _ (ledger.named ticket' attempt isLast present)
  · intro ticket' attempt isLast present
    simp only [List.mem_append, List.mem_singleton, reduceCtorEq, or_false] at present
    exact ledger.reached ticket' attempt isLast present
  · exact fun number lane place present within =>
      over_append (ledger.through number lane place present within)

theorem ledger_attempted {rest : List ω} {attempt : Attempt κ ω} {isLast : Bool}
    (found : lanes[number]? = some lane) (first : lane.waiting = operation :: rest)
    (put : Put lanes number changed after) (sameKey : changed.key = lane.key)
    (halted : changed.isHalted = lane.isHalted)
    (left : isLast = false ∧ changed.waiting = lane.waiting ∧ changed.finished = lane.finished ∨
      isLast = true ∧ changed.waiting = rest ∧ changed.finished = lane.finished + 1)
    (named : attempt.key = lane.key ∧ attempt.operation = operation) (ledger : Ledger events lanes) :
    Ledger (events ++ [.attempted ⟨number, lane.finished⟩ attempt isLast]) after := by
  have grows : Grows lanes after := put.grows fun earlier present => by
    cases found.symm.trans present
    refine ⟨sameKey, ?_, ?_⟩
    · rcases left with ⟨_, waiting, finished⟩ | ⟨_, waiting, finished⟩
      · simp [Lane.accepted, waiting, finished]
      · simp only [Lane.accepted, waiting, finished, first, List.length_cons]
        omega
    · rcases left with ⟨_, _, finished⟩ | ⟨_, _, finished⟩ <;> omega
  have here : .accepted lane.key ⟨number, lane.finished⟩ operation ∈ events :=
    ledger.taken number lane 0 operation found (by simp [first])
  refine
    { inOrder := List.pairwise_append.mpr ⟨ledger.inOrder, List.pairwise_singleton .., ?_⟩
      live := ?_, placed := ?_, taken := ?_, named := ?_, reached := ?_, through := ?_ }
  · intro earlier present last new
    cases List.mem_singleton.mp new
    cases earlier with
    | accepted => trivial
    | closed => trivial
    | attempted ticket' attempt' wasLast =>
      intro same
      obtain ⟨earlier, there, within, passed⟩ := ledger.reached ticket' attempt' wasLast present
      rw [same] at there
      cases found.symm.trans there
      rcases Nat.lt_or_eq_of_le within with sooner | equal
      · exact .inl sooner
      · refine .inr ⟨equal, ?_⟩
        cases wasLast with
        | false => rfl
        | true => exact absurd (passed rfl) (Nat.not_lt_of_ge (Nat.le_of_eq equal.symm))
  · intro number lane present
    rcases put.or present with ⟨rfl, rfl⟩ | ⟨_, present⟩
    · exact halted.trans (ledger.live _ _ found)
    · exact ledger.live number lane present
  · intro key' ticket' operation' present
    simp only [List.mem_append, List.mem_singleton, reduceCtorEq, or_false] at present
    exact placed_grows grows (ledger.placed key' ticket' operation' present)
  · intro number lane place waits present there
    refine List.mem_append_left _ ?_
    rcases put.or present with ⟨rfl, rfl⟩ | ⟨_, present⟩
    · rw [sameKey]
      rcases left with ⟨_, waiting, finished⟩ | ⟨_, waiting, finished⟩
      · rw [finished]
        exact ledger.taken _ _ place waits found (waiting ▸ there)
      · rw [finished, Nat.add_assoc, Nat.add_comm 1]
        refine ledger.taken _ _ (place + 1) waits found ?_
        rw [first, List.getElem?_cons_succ, ← waiting, there]
    · exact ledger.taken number lane place waits present there
  · intro ticket' attempt' last present
    refine List.mem_append_left _ ?_
    rcases List.mem_append.mp present with present | new
    · exact ledger.named ticket' attempt' last present
    · cases List.mem_singleton.mp new
      rw [named.1, named.2]
      exact here
  · intro ticket' attempt' last present
    rcases List.mem_append.mp present with present | new
    · exact reached_grows grows (ledger.reached ticket' attempt' last present)
    · cases List.mem_singleton.mp new
      refine ⟨changed, put.here, ?_⟩
      rcases left with ⟨rfl, _, finished⟩ | ⟨rfl, _, finished⟩
      · exact ⟨Nat.le_of_eq finished.symm, Bool.noConfusion⟩
      · have passed : lane.finished < changed.finished := finished ▸ Nat.lt_succ_self _
        exact ⟨Nat.le_of_lt passed, fun _ => passed⟩
  · intro number' lane' place present within
    rcases put.or present with ⟨rfl, rfl⟩ | ⟨_, present⟩
    · by_cases before : place < lane.finished
      · exact over_append (ledger.through _ _ place found before)
      · rcases left with ⟨_, _, finished⟩ | ⟨rfl, _, finished⟩
        · exact absurd (finished ▸ within) before
        · have equal : place = lane.finished := by omega
          exact ⟨attempt, by simp [equal]⟩
    · exact over_append (ledger.through number' lane' place present within)

end Ledger

section Doors

theorem openAt_accepted {other : κ} (room : Room lanes key ticket base)
    (put : Put lanes ticket.lane (base.push operation) after) :
    OpenAt after other number ↔ OpenAt lanes other number ∨ other = key ∧ number = ticket.lane := by
  constructor
  · rintro ⟨lane, present, same, isOpen⟩
    rcases put.or present with ⟨here, rfl⟩ | ⟨_, present⟩
    · exact .inr ⟨same.symm.trans room.key_eq, here⟩
    · exact .inl ⟨lane, present, same, isOpen⟩
  · rintro (⟨lane, present, same, isOpen⟩ | ⟨rfl, rfl⟩)
    · by_cases here : number = ticket.lane
      · subst here
        obtain ⟨rfl, _⟩ := room.only present
        exact ⟨_, put.here, same, isOpen⟩
      · exact ⟨lane, (put.elsewhere number here).trans present, same, isOpen⟩
    · exact ⟨_, put.here, room.key_eq, room.opened⟩

theorem doors_accepted (room : Room lanes key ticket base)
    (put : Put lanes ticket.lane (base.push operation) after) (doors : Doors events lanes) :
    Doors (events ++ [.accepted key ticket operation]) after := by
  have alone : ∀ number, OpenAt lanes key number → number = ticket.lane := by
    intro number isOpen
    cases room with
    | found here same alsoOpen => exact doors.single key _ _ isOpen ⟨_, here, same, alsoOpen⟩
    | fresh none => exact absurd isOpen (none number)
  have still : ∀ before key' ticket' operation' between,
      events = before ++ .accepted key' ticket' operation' :: between → .closed key' ∉ between →
        OpenAt after key' ticket'.lane :=
    fun before key' ticket' operation' between split unclosed =>
      (openAt_accepted room put).mpr (.inl (doors.still _ _ _ _ _ split unclosed))
  have single : ∀ key' one other, OpenAt after key' one → OpenAt after key' other → one = other := by
    intro key' one other isOpen alsoOpen
    rcases (openAt_accepted room put).mp isOpen with isOpen | ⟨rfl, rfl⟩
    · rcases (openAt_accepted room put).mp alsoOpen with alsoOpen | ⟨rfl, rfl⟩
      · exact doors.single key' one other isOpen alsoOpen
      · exact alone one isOpen
    · rcases (openAt_accepted room put).mp alsoOpen with alsoOpen | ⟨_, rfl⟩
      · exact (alone other alsoOpen).symm
      · rfl
  refine { single := single, still := ?_, gathered := ?_ }
  · intro before key' ticket' operation' rest split unclosed
    rcases split_concat split with ⟨rfl, last, _⟩ | ⟨between, rfl, earlier⟩
    · cases last
      exact (openAt_accepted room put).mpr (.inr ⟨rfl, rfl⟩)
    · exact still _ _ _ _ _ earlier fun closed => unclosed (List.mem_append_left _ closed)
  · intro before key' first one between second two rest split unclosed
    rcases split_concat split with ⟨rfl, last, earlier⟩ | ⟨behind, rfl, earlier⟩
    · cases last
      exact alone _ (doors.still _ _ _ _ _ earlier.symm unclosed)
    · exact doors.gathered _ _ _ _ _ _ _ _ earlier unclosed

theorem doors_other {event : Event κ ω}
    (other : ∀ key ticket operation, event ≠ .accepted key ticket operation)
    (shut : ∀ key number, OpenAt after key number → OpenAt lanes key number)
    (kept : ∀ key number, event ≠ .closed key → OpenAt lanes key number → OpenAt after key number)
    (doors : Doors events lanes) : Doors (events ++ [event]) after where
  single := fun key one other isOpen alsoOpen =>
    doors.single key one other (shut _ _ isOpen) (shut _ _ alsoOpen)
  still := by
    intro before key' ticket' operation' rest split unclosed
    rcases split_concat split with ⟨_, last, _⟩ | ⟨between, rfl, earlier⟩
    · exact absurd last.symm (other _ _ _)
    · refine kept _ _ (fun closed => unclosed (by simp [closed])) ?_
      exact doors.still _ _ _ _ _ earlier fun closed => unclosed (List.mem_append_left _ closed)
  gathered := by
    intro before key' first one between second two rest split unclosed
    rcases split_concat split with ⟨_, last, _⟩ | ⟨behind, rfl, earlier⟩
    · exact absurd last.symm (other _ _ _)
    · exact doors.gathered _ _ _ _ _ _ _ _ earlier unclosed

theorem openAt_kept {other : κ} {place : Nat} (found : lanes[number]? = some lane)
    (put : Put lanes number changed after) (sameKey : changed.key = lane.key)
    (isOpen : changed.isOpen = lane.isOpen) :
    OpenAt after other place ↔ OpenAt lanes other place := by
  constructor
  · rintro ⟨there, present, same, opened⟩
    rcases put.or present with ⟨rfl, rfl⟩ | ⟨_, present⟩
    · exact ⟨lane, found, sameKey.symm.trans same, isOpen.symm.trans opened⟩
    · exact ⟨there, present, same, opened⟩
  · rintro ⟨there, present, same, opened⟩
    by_cases here : place = number
    · subst here
      cases found.symm.trans present
      exact ⟨changed, put.here, sameKey.trans same, isOpen.trans opened⟩
    · exact ⟨there, (put.elsewhere place here).trans present, same, opened⟩

end Doors

end Event

end ActorDirectory
