namespace ActorDirectory

def total (counts : List Nat) : Nat := counts.foldr (· + ·) 0

-- A serial queue of operations. The first one waiting is under way once attempts were made at
-- it. A closed lane takes no more operations but works off those it has; a halted one gives
-- them up. Lanes that are closed or halted end when they next find nothing to do.
structure Lane (κ ω : Type) where
  key : κ
  waiting : List ω := []
  made : Nat := 0
  finished : Nat := 0
  dropped : Nat := 0
  isOpen : Bool := true
  isHalted : Bool := false
  hasEnded : Bool := false
  deriving DecidableEq, Repr

structure Attempt (κ ω : Type) where
  lane : Nat
  key : κ
  operation : ω
  time : Nat
  succeeded : Bool
  deriving DecidableEq, Repr

inductive Request (κ ω : Type) where
  | enqueue (key : κ) (operation : ω)
  | close (key : κ)
  deriving DecidableEq, Repr

structure Performed (κ ω σ : Type) where
  world : σ
  succeeded : Bool
  requests : List (Request κ ω)

-- How operations are carried out. An operation costs at least its attempts, and for each
-- operation that it asks for the cost of that and two more, which pay for opening and waking a
-- lane.
structure Rules (κ ω σ : Type) where
  attempts : Nat
  delay : Nat
  perform : σ → κ → ω → Nat → Performed κ ω σ
  cost : σ → κ → ω → Nat

-- Lanes by number, in the order in which they were opened. Ready lanes have something to do;
-- the first of them runs. Sleeping lanes wait for the time of their next attempt.
structure Dispatch (κ ω σ : Type) where
  world : σ
  now : Nat := 0
  lanes : List (Lane κ ω) := []
  ready : List Nat := []
  asleep : List (Nat × Nat) := []
  history : List (Attempt κ ω) := []

namespace Lane

variable {κ ω : Type}

def opened (key : κ) (operation : ω) : Lane κ ω := { key, waiting := [operation] }

def accepted (lane : Lane κ ω) : Nat := lane.finished + lane.waiting.length

def work (cost : κ → ω → Nat) (lane : Lane κ ω) : Nat :=
  total (lane.waiting.map (cost lane.key)) - lane.made

def advance (lane : Lane κ ω) : Lane κ ω :=
  { lane with waiting := lane.waiting.tail, made := 0, finished := lane.finished + 1 }

def drop (lane : Lane κ ω) : Lane κ ω := { lane.advance with dropped := lane.dropped + 1 }

def giveUp (lane : Lane κ ω) : Lane κ ω :=
  { lane with
    waiting := []
    made := 0
    finished := lane.accepted
    dropped := lane.dropped + (if lane.made = 0 then 0 else 1)
    hasEnded := true }

def rest (lane : Lane κ ω) : Lane κ ω := { lane with hasEnded := lane.hasEnded || !lane.isOpen }

end Lane

namespace Dispatch

variable {κ ω σ : Type}

def halt (dispatch : Dispatch κ ω σ) (chosen : κ → Bool) : Dispatch κ ω σ :=
  let numbers := (List.range dispatch.lanes.length).filter fun number =>
    (dispatch.lanes[number]?).any fun lane => chosen lane.key && !lane.hasEnded
  { dispatch with
    lanes := dispatch.lanes.map fun lane =>
      if chosen lane.key then { lane with isHalted := true } else lane
    ready := dispatch.ready ++ numbers.filter (· ∉ dispatch.ready)
    asleep := dispatch.asleep.filter (·.1 ∉ numbers) }

def blank (dispatch : Dispatch κ ω σ) (chosen : κ → Bool) : Dispatch κ ω σ :=
  { dispatch with
    lanes := dispatch.lanes.map fun lane =>
      if chosen lane.key then
        { lane with waiting := [], made := 0, dropped := 0, isOpen := false }
      else lane }

def setLane (dispatch : Dispatch κ ω σ) (number : Nat) (lane : Lane κ ω) : Dispatch κ ω σ :=
  { dispatch with lanes := dispatch.lanes.set number lane }

def yieldLane (dispatch : Dispatch κ ω σ) : Dispatch κ ω σ :=
  { dispatch with ready := dispatch.ready.tail }

def sleepLane (dispatch : Dispatch κ ω σ) (number due : Nat) : Dispatch κ ω σ :=
  { dispatch.yieldLane with asleep := dispatch.asleep ++ [(number, due)] }

def isIdle (dispatch : Dispatch κ ω σ) (number : Nat) : Bool :=
  number ∉ dispatch.ready ∧ number ∉ dispatch.asleep.map Prod.fst

def wake (dispatch : Dispatch κ ω σ) (number : Nat) : Dispatch κ ω σ :=
  if dispatch.isIdle number then { dispatch with ready := dispatch.ready ++ [number] }
  else dispatch

variable [DecidableEq κ]

def openLane? (dispatch : Dispatch κ ω σ) (key : κ) : Option Nat :=
  dispatch.lanes.findIdx? fun lane => lane.isOpen && lane.key = key

def enqueue (dispatch : Dispatch κ ω σ) (key : κ) (operation : ω) : Dispatch κ ω σ :=
  match dispatch.openLane? key with
  | some number =>
    { dispatch with
      lanes := dispatch.lanes.modify number fun lane =>
        { lane with waiting := lane.waiting ++ [operation] } }.wake number
  | none =>
    { dispatch with
      lanes := dispatch.lanes ++ [Lane.opened key operation] }.wake dispatch.lanes.length

def close (dispatch : Dispatch κ ω σ) (key : κ) : Dispatch κ ω σ :=
  match dispatch.openLane? key with
  | none => dispatch
  | some number =>
    { dispatch with
      lanes := dispatch.lanes.modify number fun lane => { lane with isOpen := false } }.wake number

def request (dispatch : Dispatch κ ω σ) : Request κ ω → Dispatch κ ω σ
  | .enqueue key operation => dispatch.enqueue key operation
  | .close key => dispatch.close key

def requestAll (dispatch : Dispatch κ ω σ) (requests : List (Request κ ω)) : Dispatch κ ω σ :=
  requests.foldl request dispatch

def attempt (rules : Rules κ ω σ) (dispatch : Dispatch κ ω σ) (number : Nat) (lane : Lane κ ω)
    (operation : ω) : Dispatch κ ω σ :=
  let result := rules.perform dispatch.world lane.key operation lane.made
  let made : Attempt κ ω := ⟨number, lane.key, operation, dispatch.now, result.succeeded⟩
  let dispatch :=
    { dispatch with world := result.world, history := dispatch.history ++ [made] }
  if result.succeeded then
    (dispatch.setLane number lane.advance).requestAll result.requests
  else if lane.made + 1 < rules.attempts then
    let dispatch := dispatch.setLane number { lane with made := lane.made + 1 }
    if rules.delay = 0 then dispatch
    else dispatch.sleepLane number (dispatch.now + rules.delay)
  else dispatch.setLane number lane.drop

def step (rules : Rules κ ω σ) (dispatch : Dispatch κ ω σ) : Dispatch κ ω σ :=
  match dispatch.ready with
  | [] => dispatch
  | number :: _ =>
    match dispatch.lanes[number]? with
    | none => dispatch.yieldLane
    | some lane =>
      if lane.isHalted then (dispatch.setLane number lane.giveUp).yieldLane
      else
        match lane.waiting with
        | [] => (dispatch.setLane number lane.rest).yieldLane
        | operation :: _ => dispatch.attempt rules number lane operation

end Dispatch
end ActorDirectory
