import ActorDirectory.Dispatch.Lane

namespace ActorDirectory.Dispatch

variable {κ ω σ : Type}

-- Bounds the steps that can still be taken: each of them lowers it. An open lane can be woken
-- once more by being closed.
def work (rules : Rules κ ω σ) (dispatch : Dispatch κ ω σ) : Nat :=
  total (dispatch.lanes.map (·.work (rules.cost dispatch.world))) +
    (dispatch.lanes.filter (·.isOpen)).length + dispatch.ready.length + dispatch.asleep.length

def nextDue? (dispatch : Dispatch κ ω σ) : Option Nat := (dispatch.asleep.map Prod.snd).min?

def fire (dispatch : Dispatch κ ω σ) (time : Nat) : Dispatch κ ω σ :=
  { dispatch with
    now := time
    ready := dispatch.ready ++ (dispatch.asleep.filter (·.2 ≤ time)).map Prod.fst
    asleep := dispatch.asleep.filter (time < ·.2) }

def accepted (dispatch : Dispatch κ ω σ) (chosen : κ → Bool) : Nat :=
  total ((dispatch.lanes.filter (chosen ·.key)).map Lane.accepted)

def marks (dispatch : Dispatch κ ω σ) (chosen : κ → Bool) : List (Nat × Nat) :=
  (List.range dispatch.lanes.length).filterMap fun number => do
    let lane ← dispatch.lanes[number]?
    if lane.isOpen && chosen lane.key then some (number, lane.accepted) else none

def hasPassed (dispatch : Dispatch κ ω σ) (mark : Nat × Nat) : Bool :=
  (dispatch.lanes[mark.1]?).all fun lane => lane.isHalted || mark.2 ≤ lane.finished

variable [DecidableEq κ]

def steps (rules : Rules κ ω σ) : Nat → Dispatch κ ω σ → Dispatch κ ω σ
  | 0, dispatch => dispatch
  | fuel + 1, dispatch =>
    if dispatch.ready.isEmpty then dispatch else steps rules fuel (dispatch.step rules)

def quiet (rules : Rules κ ω σ) (dispatch : Dispatch κ ω σ) : Dispatch κ ω σ :=
  steps rules (dispatch.work rules + 1) dispatch

def runsBefore (rules : Rules κ ω σ) (limit : Nat) : Nat → Dispatch κ ω σ → Dispatch κ ω σ
  | 0, dispatch => dispatch
  | fuel + 1, dispatch =>
    let dispatch := dispatch.quiet rules
    match dispatch.nextDue? with
    | none => dispatch
    | some due =>
      if due < limit then runsBefore rules limit fuel (dispatch.fire due) else dispatch

-- Runs all that is due before a time, then moves the clock to it. What is due at that very time
-- is ready and has not run.
def advanceTo (rules : Rules κ ω σ) (time : Nat) (dispatch : Dispatch κ ω σ) : Dispatch κ ω σ :=
  (runsBefore rules time (dispatch.work rules + 1) dispatch).fire time

def wait (rules : Rules κ ω σ) (duration : Nat) (dispatch : Dispatch κ ω σ) : Dispatch κ ω σ :=
  if duration = 0 then dispatch else dispatch.advanceTo rules (dispatch.now + duration)

def sleep (rules : Rules κ ω σ) (duration : Nat) (dispatch : Dispatch κ ω σ) : Dispatch κ ω σ :=
  (dispatch.advanceTo rules (dispatch.now + duration)).quiet rules

def runsPast (rules : Rules κ ω σ) (marks : List (Nat × Nat)) :
    Nat → Dispatch κ ω σ → Dispatch κ ω σ
  | 0, dispatch => dispatch
  | fuel + 1, dispatch =>
    let dispatch := dispatch.quiet rules
    if marks.all dispatch.hasPassed then dispatch
    else
      match dispatch.nextDue? with
      | none => dispatch
      | some due => runsPast rules marks fuel (dispatch.fire due)

def settles (rules : Rules κ ω σ) (chosen : κ → Bool) : Nat → Dispatch κ ω σ → Dispatch κ ω σ
  | 0, dispatch => dispatch
  | fuel + 1, dispatch =>
    let next := runsPast rules (dispatch.marks chosen) (dispatch.work rules + 1) dispatch
    if next.accepted chosen = dispatch.accepted chosen then next
    else settles rules chosen fuel next

-- Lets time pass until the open lanes of the chosen keys are through with all that they took,
-- also with what is put in meanwhile.
def quiesce (rules : Rules κ ω σ) (chosen : κ → Bool) (dispatch : Dispatch κ ω σ) :
    Dispatch κ ω σ :=
  settles rules chosen (dispatch.work rules + 1) dispatch

end ActorDirectory.Dispatch
