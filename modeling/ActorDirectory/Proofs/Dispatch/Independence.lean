import ActorDirectory.Proofs.Dispatch.Tracks

-- What becomes of the jobs of one target depends on nothing that other targets carry, as long as
-- jobs of others put nothing into its lane.
namespace ActorDirectory

def Request.jobFor? (target : Silo) : Request Silo Job → Option Job
  | enqueue key job => if key = target then some job else none
  | close _ => none

namespace Track

def turn (terms : Terms) (target : Silo) (track : Track) : Track :=
  match track.waiting with
  | [] => track.rest
  | job :: rest =>
    ((job.perform track.made).requests.filterMap (Request.jobFor? target)).foldl put
      (track.attempt terms job rest)

inductive Moves (terms : Terms) (target : Silo) : Track → Track → Prop where
  | done {track : Track} : Moves terms target track track
  | turn {track after : Track} : track.isReady = true →
      Moves terms target (track.turn terms target) after → Moves terms target track after
  | pass {track after : Track} (time : Nat) : track.isReady = false → track.now ≤ time →
      (∀ due ∈ track.dues, time ≤ due) → Moves terms target (track.fire time) after →
      Moves terms target track after

variable {terms : Terms} {target : Silo} {track after other : Track}

theorem puts_now (jobs : List Job) (track : Track) :
    (jobs.foldl put track).now = track.now ∧ (jobs.foldl put track).dues = track.dues := by
  induction jobs generalizing track with
  | nil => exact ⟨rfl, rfl⟩
  | cons job rest ih => exact ih (track.put job)

theorem attempt_now (terms : Terms) (track : Track) (job : Job) (rest : List Job) :
    (track.attempt terms job rest).now = track.now ∧
      ∀ due ∈ (track.attempt terms job rest).dues, due ∈ track.dues ∨ track.now < due := by
  have attempts := attempt_attempts terms track job rest
  generalize track.attempt terms job rest = after at attempts ⊢
  cases attempts with
  | last => exact ⟨rfl, fun due => .inl⟩
  | again => exact ⟨rfl, fun due => .inl⟩
  | later trial _ _ _ late =>
    refine ⟨rfl, fun due present => (List.mem_append.mp present).imp_right fun new => ?_⟩
    cases List.mem_singleton.mp new
    exact Nat.lt_add_of_pos_right (Nat.pos_of_ne_zero late)

theorem turn_now (terms : Terms) (target : Silo) (track : Track) :
    (track.turn terms target).now = track.now ∧
      ∀ due ∈ (track.turn terms target).dues, due ∈ track.dues ∨ track.now < due := by
  unfold turn
  split
  · exact ⟨rfl, fun due => .inl⟩
  · rw [(puts_now _ _).1, (puts_now _ _).2]
    exact attempt_now terms track _ _

theorem moves_now (moves : Moves terms target track after) : track.now ≤ after.now := by
  induction moves with
  | done => exact Nat.le_refl _
  | turn _ _ ih => exact (turn_now terms target _).1 ▸ ih
  | pass time _ later _ _ ih => exact Nat.le_trans later ih

theorem fire_fire {one two : Nat} (track : Track) (later : one ≤ two) :
    (track.fire one).fire two = track.fire two := by
  have dues : (track.dues.filter (one < ·)).filter (two < ·) = track.dues.filter (two < ·) := by
    rw [List.filter_filter]
    refine List.filter_congr fun due _ => ?_
    by_cases beyond : two < due
    · simp [beyond, Nat.lt_of_le_of_lt later beyond]
    · simp [beyond]
  have ready : (track.isReady || track.dues.any (· ≤ one) ||
      (track.dues.filter (one < ·)).any (· ≤ two)) =
        (track.isReady || track.dues.any (· ≤ two)) := by
    rw [Bool.or_assoc, List.any_filter]
    congr 1
    induction track.dues with
    | nil => rfl
    | cons due rest ih =>
      simp only [List.any_cons, ← ih]
      by_cases soon : due ≤ one
      · simp [soon, Nat.le_trans soon later]
      · simp [soon, Nat.lt_of_not_le soon, Bool.or_left_comm]
  simp only [fire, dues, ready]

theorem fire_resting {time : Nat} (resting : track.isReady = false)
    (first : ∀ due ∈ track.dues, time < due) : (track.fire time).isReady = false := by
  have none : track.dues.any (· ≤ time) = false :=
    List.any_eq_false.mpr fun due present => by simpa using first due present
  simp [fire, resting, none]

theorem fire_now (resting : track.isReady = false) (ahead : ∀ due ∈ track.dues, track.now < due) :
    track.fire track.now = track := by
  have same : track.dues.filter (track.now < ·) = track.dues :=
    List.filter_eq_self.mpr fun due present => decide_eq_true (ahead due present)
  have still : (track.isReady || track.dues.any (· ≤ track.now)) = track.isReady :=
    (fire_resting resting ahead).trans resting.symm
  simp only [fire, same, still]

theorem moves_fire {time : Nat} (moves : Moves terms target track after)
    (resting : track.isReady = false) (ahead : ∀ due ∈ track.dues, track.now < due)
    (passes : track.now ≤ time) (first : ∀ due ∈ track.dues, time ≤ due) (early : time ≤ after.now) :
    Moves terms target (track.fire time) after := by
  induction moves with
  | done =>
    rw [Nat.le_antisymm early passes, fire_now resting ahead]
    exact .done
  | turn ready => simp [resting] at ready
  | @pass track _ other _ later sooner moves ih =>
    have fewer : ∀ passed, ∀ due ∈ (track.fire passed).dues, due ∈ track.dues :=
      fun passed due present => (List.mem_filter.mp present).1
    rcases Nat.lt_trichotomy other time with before | rfl | beyond
    · rw [← fire_fire track (Nat.le_of_lt before)]
      refine ih ?_ (fun due present => ?_) (Nat.le_of_lt before)
        (fun due present => first due (fewer other due present)) early
      · exact fire_resting resting fun due present => Nat.lt_of_lt_of_le before (first due present)
      · exact of_decide_eq_true (List.mem_filter.mp present).2
    · exact moves
    · refine .pass other ?_ (Nat.le_of_lt beyond)
        (fun due present => sooner due (fewer time due present)) ?_
      · exact fire_resting resting fun due present => Nat.lt_of_lt_of_le beyond (sooner due present)
      · rw [fire_fire track (Nat.le_of_lt beyond)]
        exact moves

theorem moves_rest (moves : Moves terms target track after) (resting : track.isReady = false)
    (ahead : ∀ due ∈ track.dues, track.now < due) (now : after.now = track.now) : after = track := by
  induction moves with
  | done => rfl
  | turn ready => simp [resting] at ready
  | @pass track _ time _ later _ moves ih =>
    have same : time = track.now := Nat.le_antisymm (now ▸ moves_now moves) later
    subst same
    rw [fire_now resting ahead] at ih
    exact ih resting ahead now

theorem moves_unique (one : Moves terms target track after) (two : Moves terms target track other)
    (ahead : ∀ due ∈ track.dues, track.now < due) (rests : after.isReady = false)
    (resting : other.isReady = false) (now : after.now = other.now) : after = other := by
  induction one with
  | done => exact (moves_rest two rests ahead now.symm).symm
  | @turn track _ ready _ ih =>
    have later : ∀ due ∈ (track.turn terms target).dues, (track.turn terms target).now < due := by
      obtain ⟨same, dues⟩ := turn_now terms target track
      intro due present
      rw [same]
      exact (dues due present).elim (ahead due) id
    cases two with
    | done => simp [resting] at ready
    | turn _ two => exact ih two later rests now
    | pass _ still => simp [still] at ready
  | pass time still later first moves ih =>
    refine ih (moves_fire two still ahead later first (now ▸ moves_now moves)) ?_ rests now
    exact fun due present => of_decide_eq_true (List.mem_filter.mp present).2

end Track

-- Jobs in the lanes of others put nothing into the lane of the target, and neither does anything
-- that they lead to, unless it runs in that lane.
inductive Job.Apart (target : Silo) : Silo → Job → Prop where
  | mk (place : Silo) (job : Job) : (∀ next ∈ job.follow, next.1 = target → place = target) →
      (∀ next ∈ job.follow, Apart target next.1 next.2) → Apart target place job

namespace Dispatch

open Lane (Kept OpenAt Put Room)

variable {dispatch after : Dispatch Silo Job Unit} {target key : Silo} {job : Job} {number : Nat}

def trackOf (dispatch : Dispatch Silo Job Unit) (target : Silo) : Track :=
  dispatch.track (dispatch.ticketFor target).lane

structure Homed (target : Silo) (dispatch : Dispatch Silo Job Unit) : Prop where
  isOpen : ∀ (number : Nat) (lane : Lane Silo Job), dispatch.lanes[number]? = some lane →
    lane.key = target → lane.isOpen = true
  apart : ∀ (number : Nat) (lane : Lane Silo Job) (job : Job), dispatch.lanes[number]? = some lane →
    job ∈ lane.waiting → Job.Apart target lane.key job

section Doors

def Opens (target : Silo) (lane : Lane Silo Job) : Bool := lane.isOpen && decide (lane.key = target)

theorem openLane_congr (length : after.lanes.length = dispatch.lanes.length)
    (same : ∀ (number : Nat) (lane later : Lane Silo Job), dispatch.lanes[number]? = some lane →
      after.lanes[number]? = some later → Opens target later = Opens target lane) :
    after.openLane? target = dispatch.openLane? target := by
  have doors : after.lanes.map (Opens target) = dispatch.lanes.map (Opens target) := by
    refine List.ext_getElem (by simp [length]) fun number there here => ?_
    rw [List.length_map] at there here
    simp only [List.getElem_map]
    exact same number _ _ (List.getElem?_eq_getElem here) (List.getElem?_eq_getElem there)
  have mapped : ∀ dispatch : Dispatch Silo Job Unit,
      dispatch.openLane? target = (dispatch.lanes.map (Opens target)).findIdx? id := fun dispatch => by
    rw [List.findIdx?_map]
    rfl
  rw [mapped, mapped, doors]

theorem openLane_kept (kept : Kept dispatch.lanes after.lanes) :
    after.openLane? target = dispatch.openLane? target := by
  refine openLane_congr kept.length fun number lane later here there => ?_
  obtain ⟨earlier, present, key, isOpen, _⟩ := kept.same number later there
  cases here.symm.trans present
  simp only [Opens, key, isOpen]

theorem ticket_kept (target : Silo) (kept : Kept dispatch.lanes after.lanes) :
    (after.ticketFor target).lane = (dispatch.ticketFor target).lane := by
  simp only [ticketFor, openLane_kept kept, kept.length]

theorem openLane_close (other : key ≠ target) :
    (dispatch.close key).openLane? target = dispatch.openLane? target ∧
      (dispatch.close key).lanes.length = dispatch.lanes.length := by
  rcases close_lanes dispatch key with ⟨same, _⟩ | ⟨number, lane, here, rfl, _, put⟩
  · rw [same]
    exact ⟨rfl, rfl⟩
  · have length : (dispatch.close lane.key).lanes.length = dispatch.lanes.length := by
      rw [put.set_eq here, List.length_set]
    refine ⟨openLane_congr length fun place found later before after => ?_, length⟩
    rcases put.or after with ⟨rfl, rfl⟩ | ⟨_, there⟩
    · cases here.symm.trans before
      simp [Opens, other]
    · cases there.symm.trans before
      rfl

theorem openLane_enqueue (dispatch : Dispatch Silo Job Unit) (key : Silo) (job : Job) :
    (dispatch.enqueue key job).openLane? target =
      if key = target then some (dispatch.ticketFor key).lane else dispatch.openLane? target := by
  cases found : dispatch.openLane? key with
  | none =>
    have lanes : (dispatch.enqueue key job).lanes = dispatch.lanes ++ [Lane.opened key job] := by
      simp [enqueue, found]
    have opened : [Lane.opened key job].findIdx? (fun lane => lane.isOpen && lane.key = target) =
        if key = target then some 0 else none := by
      simp [Lane.opened]
    rw [openLane?, lanes, List.findIdx?_append, opened, ← openLane?]
    split
    · rename_i same
      subst same
      simp [found, ticketFor]
    · simp
  | some number =>
    obtain ⟨lane, here, same, isOpen⟩ := openAt_of_openLane found
    obtain ⟨base, room, put⟩ := enqueue_room dispatch key job
    have ticket : (dispatch.ticketFor key).lane = number := by simp [ticketFor, found]
    have kept : (dispatch.enqueue key job).openLane? target = dispatch.openLane? target := by
      rw [ticket] at put
      refine openLane_congr ?_ fun place found later before after => ?_
      · rw [put.set_eq here, List.length_set]
      · rcases put.or after with ⟨rfl, rfl⟩ | ⟨_, there⟩
        · obtain ⟨rfl, _⟩ := room.only (ticket.symm ▸ before)
          rfl
        · cases there.symm.trans before
          rfl
    rw [kept, ticket]
    split
    · rename_i same
      rw [← same, found]
    · rfl

theorem ticket_open (found : dispatch.openLane? target = some number) :
    (dispatch.ticketFor target).lane = number := by
  simp [ticketFor, found]

theorem ticket_unopened (none : dispatch.openLane? target = none) :
    (dispatch.ticketFor target).lane = dispatch.lanes.length := by
  simp [ticketFor, none]

theorem open_apart (other : key ≠ target) (found : dispatch.openLane? key = some number) :
    (dispatch.ticketFor target).lane ≠ number := by
  rintro rfl
  obtain ⟨lane, here, same, _⟩ := openAt_of_openLane found
  cases there : dispatch.openLane? target with
  | none =>
    rw [ticket_unopened there] at here
    simp at here
  | some place =>
    obtain ⟨found, present, key', _⟩ := openAt_of_openLane there
    rw [ticket_open there] at here
    cases here.symm.trans present
    exact other (same.symm.trans key')

end Doors

section Home

theorem track_unopened (orderly : dispatch.Orderly) (absent : dispatch.lanes.length ≤ number) :
    dispatch.track number = { now := dispatch.now } := by
  have idle : ¬dispatch.Busy number := fun busy => Nat.not_lt.mpr absent (orderly.known number busy)
  have resting : decide (number ∈ dispatch.ready) = false :=
    decide_eq_false fun ready => idle (.inl ready)
  have awake : dispatch.asleep.filter (·.1 = number) = [] := by
    refine List.filter_eq_nil_iff.mpr fun sleeper asleep same => idle (.inr ⟨sleeper.2, ?_⟩)
    exact of_decide_eq_true same ▸ asleep
  have silent : dispatch.history.filter (·.lane = number) = [] := by
    refine List.filter_eq_nil_iff.mpr fun attempt made same => ?_
    obtain ⟨lane, here, _⟩ := orderly.told attempt made
    have bound := (List.getElem?_eq_some_iff.mp here).1
    have same : attempt.lane = number := of_decide_eq_true same
    omega
  simp [track, List.getElem?_eq_none absent, resting, awake, silent]

theorem enqueue_trackOf (target key : Silo) (job : Job) (orderly : dispatch.Orderly) :
    (dispatch.enqueue key job).trackOf target =
      if key = target then (dispatch.trackOf target).put job else dispatch.trackOf target := by
  by_cases same : key = target
  · subst same
    have kept : ((dispatch.enqueue key job).ticketFor key).lane = (dispatch.ticketFor key).lane :=
      ticket_open (by rw [openLane_enqueue, if_pos rfl])
    rw [if_pos rfl, trackOf, kept, enqueue_track, if_pos rfl, trackOf]
  · have opens : (dispatch.enqueue key job).openLane? target = dispatch.openLane? target := by
      rw [openLane_enqueue, if_neg same]
    rw [if_neg same]
    cases found : dispatch.openLane? target with
    | none =>
      have later : (dispatch.enqueue key job).Orderly := orderly_request (.enqueue key job) orderly
      rw [trackOf, trackOf, ticket_unopened found, ticket_unopened (opens.trans found),
        track_unopened orderly (Nat.le_refl _), track_unopened later (Nat.le_refl _),
        (enqueue_roused dispatch key job).1.now]
    | some number =>
      have apart := open_apart (Ne.symm same) found
      rw [trackOf, trackOf, ticket_open found, ticket_open (opens.trans found), enqueue_track,
        if_neg (Ne.symm apart)]

theorem close_trackOf (other : key ≠ target) :
    (dispatch.close key).trackOf target = dispatch.trackOf target := by
  obtain ⟨opens, length⟩ : (dispatch.close key).openLane? target = dispatch.openLane? target ∧
    (dispatch.close key).lanes.length = dispatch.lanes.length := openLane_close other
  have ticket : ((dispatch.close key).ticketFor target).lane = (dispatch.ticketFor target).lane := by
    simp only [ticketFor, opens, length]
  rw [trackOf, ticket, close_track, if_neg fun found => open_apart other found rfl, trackOf]

theorem requestAll_trackOf (requests : List (Request Silo Job))
    (puts : ∀ request ∈ requests, ∃ key job, request = .enqueue key job)
    (orderly : dispatch.Orderly) : (dispatch.requestAll requests).trackOf target =
      (requests.filterMap (Request.jobFor? target)).foldl Track.put (dispatch.trackOf target) := by
  induction requests generalizing dispatch with
  | nil => rfl
  | cons request rest ih =>
    obtain ⟨key, job, rfl⟩ := puts request (List.mem_cons_self ..)
    refine (ih (fun later present => puts later (List.mem_cons_of_mem _ present))
      (orderly_request _ orderly)).trans ?_
    rw [request, enqueue_trackOf target key job orderly]
    by_cases same : key = target
    · simp [Request.jobFor?, same]
    · simp [Request.jobFor?, same]

theorem homed_kept (kept : Kept dispatch.lanes after.lanes) (homed : Homed target dispatch) :
    Homed target after := by
  refine ⟨fun number lane present same => ?_, fun number lane job present waits => ?_⟩
  · obtain ⟨earlier, here, key, isOpen, _⟩ := kept.same number lane present
    exact isOpen.trans (homed.isOpen number earlier here (key.symm.trans same))
  · obtain ⟨earlier, here, key, _, fewer⟩ := kept.same number lane present
    exact key ▸ homed.apart number earlier job here (fewer job waits)

theorem homed_enqueue (apart : Job.Apart target key job) (homed : Homed target dispatch) :
    Homed target (dispatch.enqueue key job) := by
  obtain ⟨base, room, put⟩ := enqueue_room dispatch key job
  refine ⟨fun number lane present same => ?_, fun number lane task present waits => ?_⟩
  · rcases put.or present with ⟨rfl, rfl⟩ | ⟨_, there⟩
    · exact room.opened
    · exact homed.isOpen number lane there same
  · rcases put.or present with ⟨rfl, rfl⟩ | ⟨_, there⟩
    · have key_eq : (base.push job).key = key := room.key_eq
      rw [key_eq]
      rcases List.mem_append.mp waits with before | last
      · generalize dispatch.ticketFor key = ticket at room
        cases room with
        | found here same => exact same ▸ homed.apart _ base task here before
        | fresh => cases before
      · cases List.mem_singleton.mp last
        exact apart
    · exact homed.apart number lane task there waits

theorem homed_close (other : key ≠ target) (homed : Homed target dispatch) :
    Homed target (dispatch.close key) := by
  rcases close_lanes dispatch key with ⟨same, _⟩ | ⟨number, lane, here, key_eq, _, put⟩
  · rw [same]
    exact homed
  · refine ⟨fun place found present same => ?_, fun place found job present waits => ?_⟩
    · rcases put.or present with ⟨_, rfl⟩ | ⟨_, there⟩
      · exact absurd (key_eq.symm.trans same) other
      · exact homed.isOpen place found there same
    · rcases put.or present with ⟨_, rfl⟩ | ⟨_, there⟩
      · exact homed.apart number lane job here waits
      · exact homed.apart place found job there waits

theorem homed_requestAll (requests : List (Request Silo Job))
    (puts : ∀ request ∈ requests, ∃ key job, request = .enqueue key job ∧ Job.Apart target key job)
    (homed : Homed target dispatch) : Homed target (dispatch.requestAll requests) := by
  induction requests generalizing dispatch with
  | nil => exact homed
  | cons request rest ih =>
    obtain ⟨key, job, rfl, apart⟩ := puts request (List.mem_cons_self ..)
    exact ih (fun later present => puts later (List.mem_cons_of_mem _ present))
      (homed_enqueue apart homed)

end Home

section Proceeds

variable {queues : JobQueues} {asked : List (Request Silo Job)} {log : List (Nat × Event Silo Job)}

theorem perform_asks {made : Nat} :
    ∀ request ∈ (job.perform made).requests, ∃ next ∈ job.follow, request = .enqueue next.1 next.2 := by
  intro request asked
  unfold Job.perform at asked
  split at asked
  · cases asked
  · obtain ⟨next, follows, rfl⟩ := List.mem_map.mp asked
    exact ⟨next, follows, rfl⟩

theorem homed_lane {lane : Lane Silo Job} (timed : Timed queues.rules asked log dispatch)
    (homed : Homed target dispatch) (found : dispatch.lanes[number]? = some lane)
    (key : lane.key = target) : (dispatch.ticketFor target).lane = number := by
  have account := recorded_account (timed_recorded timed)
  have isOpen : OpenAt dispatch.lanes target number :=
    ⟨lane, found, key, homed.isOpen number lane found key⟩
  cases there : dispatch.openLane? target with
  | none => exact absurd isOpen (not_openAt_of_openLane there number)
  | some place =>
    rw [ticket_open there]
    exact account.doors.single target _ _ (openAt_of_openLane there) isOpen

theorem turn_trackOf (ready : number ∈ dispatch.ready)
    (timed : Timed queues.rules asked log dispatch) (homed : Homed target dispatch) :
    Homed target (dispatch.turn queues.rules number) ∧
      ((dispatch.turn queues.rules number).trackOf target = dispatch.trackOf target ∨
        (dispatch.trackOf target).isReady = true ∧
          (dispatch.turn queues.rules number).trackOf target =
            (dispatch.trackOf target).turn queues.terms target) := by
  have account := recorded_account (timed_recorded timed)
  have orderly := orderly_turn queues.rules ready (account.ledger.live number)
    (timed_orderly timed)
  have turned := turn_turned queues ready (account.ledger.live number) (timed_orderly timed)
  generalize dispatch.turnEvents queues.rules number = told at turned
  generalize dispatch.turn queues.rules number = after at turned orderly ⊢
  cases turned with
  | rests after empty rested others kept =>
    have ticket := ticket_kept target kept
    refine ⟨homed_kept kept homed, ?_⟩
    by_cases own : (dispatch.ticketFor target).lane = number
    · refine .inr ⟨by simp [trackOf, track, own, ready], ?_⟩
      rw [trackOf, trackOf, ticket, own, rested, Track.turn, empty]
    · exact .inl (by rw [trackOf, trackOf, ticket, others _ own])
  | attempts lane job rest _ attempt isLast after found first tried others kept before =>
    have ticket := ticket_kept target kept
    have apart := homed.apart number lane job found (first ▸ List.mem_cons_self ..)
    cases apart with
    | mk _ _ away leads =>
      have puts : ∀ request ∈ (job.perform lane.made).requests, ∃ key next,
          request = .enqueue key next ∧ Job.Apart target key next := by
        intro request asked
        obtain ⟨next, follows, rfl⟩ := perform_asks request asked
        exact ⟨next.1, next.2, rfl, leads next follows⟩
      refine ⟨homed_requestAll _ puts (homed_kept kept homed), ?_⟩
      rw [requestAll_trackOf _ (fun request asked => ?_) before]
      · by_cases own : (dispatch.ticketFor target).lane = number
        · refine .inr ⟨by simp [trackOf, track, own, ready], ?_⟩
          have waiting : (dispatch.track number).waiting = job :: rest := by simp [track, found, first]
          rw [trackOf, trackOf, ticket, own, tried, Track.turn, waiting, track_made found]
        · have none : (job.perform lane.made).requests.filterMap (Request.jobFor? target) = [] := by
            refine List.filterMap_eq_nil_iff.mpr fun request asked => ?_
            obtain ⟨next, follows, rfl⟩ := perform_asks request asked
            exact if_neg fun same => own (homed_lane timed homed found (away next follows same))
          exact .inl (by rw [none, List.foldl_nil, trackOf, trackOf, ticket, others _ own])
      · obtain ⟨key, next, same, _⟩ := puts request asked
        exact ⟨key, next, same⟩

-- Whatever others do meanwhile, the lane of a target does what it does alone.
theorem proceeds_moves (proceeds : Proceeds queues.rules dispatch after)
    (timed : Timed queues.rules asked log dispatch) (homed : Homed target dispatch) :
    Homed target after ∧
      Track.Moves queues.terms target (dispatch.trackOf target) (after.trackOf target) := by
  induction proceeds generalizing log with
  | done => exact ⟨homed, .done⟩
  | turn number ready _ ih =>
    obtain ⟨kept, either⟩ := turn_trackOf ready timed homed
    obtain ⟨ends, moves⟩ := ih (timed.turn number ready) kept
    rcases either with same | ⟨own, turned⟩
    · exact ⟨ends, same ▸ moves⟩
    · exact ⟨ends, .turn own (turned ▸ moves)⟩
  | pass time rest later first _ ih =>
    obtain ⟨ends, moves⟩ := ih (timed.pass time rest later first) ⟨homed.isOpen, homed.apart⟩
    refine ⟨ends, .pass time (by simp [trackOf, track, rest]) later (fun due asleep => ?_) ?_⟩
    · obtain ⟨sleeper, present, rfl⟩ := List.mem_map.mp asleep
      exact first sleeper (List.mem_filter.mp present).1
    · rwa [trackOf, fire_track] at moves

def trialsFor (dispatch : Dispatch Silo Job Unit) (target : Silo) : List Trial :=
  (dispatch.history.filter (·.key = target)).map Attempt.trial

theorem trialsFor_eq (timed : Timed queues.rules asked log dispatch) (homed : Homed target dispatch) :
    dispatch.trialsFor target = (dispatch.trackOf target).trials := by
  refine congrArg _ (List.filter_congr fun attempt made => ?_)
  obtain ⟨lane, found, same⟩ := (timed_orderly timed).told attempt made
  by_cases key : attempt.key = target
  · simp [key, homed_lane timed homed found (same.trans key)]
  · have elsewhere : attempt.lane ≠ (dispatch.ticketFor target).lane := by
      intro here
      rw [here] at found
      cases there : dispatch.openLane? target with
      | none => simp [ticket_unopened there] at found
      | some place =>
        obtain ⟨own, present, key', _⟩ := openAt_of_openLane there
        rw [ticket_open there] at found
        cases present.symm.trans found
        exact key (same.symm.trans key')
    simp [key, elsewhere]

end Proceeds

end Dispatch

def JobStep.Spares (target : Silo) : JobStep → Prop
  | enqueue key job => Job.Apart target key job
  | forget key => key ≠ target
  | _ => True

namespace JobQueues

open Dispatch (Timed Proceeds Homed)

variable {queues one two : JobQueues} {target : Silo} {asked : List (Request Silo Job)}
  {log : List (Nat × Event Silo Job)}

def aloneStep (target : Silo) (queues : JobQueues) : JobStep → List JobStep
  | .enqueue key job => if key = target then [.enqueue key job] else []
  | .forget _ => []
  | .quiesce => [.sleep (queues.quiesce.dispatch.now - queues.dispatch.now)]
  | .sleep duration => [.sleep duration]

def alone (target : Silo) : JobQueues → List JobStep → List JobStep
  | _, [] => []
  | queues, step :: rest => aloneStep target queues step ++ alone target (queues.take step) rest

structure Reached (terms : Terms) (target : Silo) (queues : JobQueues) : Prop where
  live : queues.isCancelled = false
  settings : queues.terms = terms
  affordable : queues.rules.Affordable
  timed : ∃ asked log, Timed queues.rules asked log queues.dispatch
  homed : Homed target queues.dispatch

variable {terms : Terms}

theorem take_terms (step : JobStep) : (queues.take step).terms = queues.terms := by
  cases step with
  | enqueue key job =>
    simp only [take, enqueue]
    split <;> rfl
  | _ => rfl

theorem take_enqueue (key : Silo) (job : Job) (live : queues.isCancelled = false) :
    (queues.take (.enqueue key job)).dispatch = queues.dispatch.enqueue key job := by
  simp [take, enqueue, live]

theorem reached_attended (reached : queues.Reached terms target) :
    queues.dispatch.Attended queues.rules := by
  obtain ⟨_, _, timed⟩ := reached.timed
  exact Dispatch.recorded_attended reached.affordable.tries (Dispatch.timed_recorded timed)

theorem reached_moves {after : Dispatch Silo Job Unit} (reached : queues.Reached terms target)
    (proceeds : Proceeds queues.rules queues.dispatch after) : Homed target after ∧
      Track.Moves terms target (queues.dispatch.trackOf target) (after.trackOf target) := by
  obtain ⟨_, _, timed⟩ := reached.timed
  rw [← reached.settings]
  exact Dispatch.proceeds_moves proceeds timed reached.homed

theorem reached_ahead (reached : queues.Reached terms target) :
    ∀ due ∈ (queues.dispatch.trackOf target).dues, (queues.dispatch.trackOf target).now < due := by
  intro due asleep
  obtain ⟨sleeper, present, rfl⟩ := List.mem_map.mp asleep
  exact (reached_attended reached).ahead sleeper (List.mem_filter.mp present).1

theorem take_reached (step : JobStep) (spares : step.Spares target)
    (reached : queues.Reached terms target) : (queues.take step).Reached terms target := by
  obtain ⟨asked, log, timed⟩ := reached.timed
  obtain ⟨live, rules, more, later⟩ := take_timed step reached.live reached.affordable timed
  refine ⟨live, (take_terms step).trans reached.settings, rules ▸ reached.affordable,
    ⟨_, _, rules ▸ later⟩, ?_⟩
  have attended := reached_attended reached
  cases step with
  | enqueue key job =>
    rw [take_enqueue key job reached.live]
    exact Dispatch.homed_enqueue spares reached.homed
  | forget key => exact Dispatch.homed_close spares reached.homed
  | quiesce =>
    obtain ⟨proceeds, _⟩ := Dispatch.quiesce_ends reached.affordable (fun _ => true) attended
    exact (reached_moves reached proceeds).1
  | sleep duration =>
    obtain ⟨proceeds, _⟩ := Dispatch.sleep_ends reached.affordable duration attended
    exact (reached_moves reached proceeds).1

theorem proceeds_alike {first second : Dispatch Silo Job Unit} (reachedOne : one.Reached terms target)
    (reachedTwo : two.Reached terms target)
    (same : two.dispatch.trackOf target = one.dispatch.trackOf target)
    (proceedsOne : Proceeds one.rules one.dispatch first)
    (proceedsTwo : Proceeds two.rules two.dispatch second) (restOne : first.ready = [])
    (restTwo : second.ready = []) (now : second.now = first.now) :
    second.trackOf target = first.trackOf target := by
  have movesOne := (reached_moves reachedOne proceedsOne).2
  have movesTwo := (reached_moves reachedTwo proceedsTwo).2
  rw [same] at movesTwo
  exact Track.moves_unique movesTwo movesOne (reached_ahead reachedOne)
    (by simp [Dispatch.trackOf, Dispatch.track, restTwo])
    (by simp [Dispatch.trackOf, Dispatch.track, restOne]) now

theorem take_alone (step : JobStep) (spares : step.Spares target)
    (reachedOne : one.Reached terms target) (reachedTwo : two.Reached terms target)
    (same : two.dispatch.trackOf target = one.dispatch.trackOf target) :
    (two.play (aloneStep target one step)).Reached terms target ∧
      (two.play (aloneStep target one step)).dispatch.trackOf target =
        (one.take step).dispatch.trackOf target := by
  obtain ⟨_, _, timedOne⟩ := reachedOne.timed
  obtain ⟨_, _, timedTwo⟩ := reachedTwo.timed
  have attendedOne := reached_attended reachedOne
  have attendedTwo := reached_attended reachedTwo
  have now : two.dispatch.now = one.dispatch.now := congrArg Track.now same
  cases step with
  | enqueue key job =>
    have put := Dispatch.enqueue_trackOf target key job (Dispatch.timed_orderly timedOne)
    have put' := Dispatch.enqueue_trackOf target key job (Dispatch.timed_orderly timedTwo)
    rw [take_enqueue key job reachedOne.live, put]
    by_cases own : key = target
    · have step : two.play (aloneStep target one (.enqueue key job)) = two.take (.enqueue key job) := by
        simp [aloneStep, own, play]
      rw [step, take_enqueue key job reachedTwo.live, put', same]
      exact ⟨take_reached _ spares reachedTwo, rfl⟩
    · have step : two.play (aloneStep target one (.enqueue key job)) = two := by
        simp [aloneStep, own, play]
      rw [step, if_neg own]
      exact ⟨reachedTwo, same⟩
  | forget key => exact ⟨reachedTwo, same.trans (Dispatch.close_trackOf spares).symm⟩
  | quiesce =>
    obtain ⟨proceeds, rest, _⟩ :=
      Dispatch.quiesce_ends reachedOne.affordable (fun _ => true) attendedOne
    obtain ⟨sleeps, rest', ends⟩ := Dispatch.sleep_ends reachedTwo.affordable
      (one.quiesce.dispatch.now - one.dispatch.now) attendedTwo
    have passed : one.dispatch.now ≤ one.quiesce.dispatch.now :=
      Track.moves_now (reached_moves reachedOne proceeds).2
    refine ⟨take_reached (.sleep _) trivial reachedTwo, ?_⟩
    refine proceeds_alike reachedOne reachedTwo same proceeds sleeps rest rest' ?_
    refine ends.trans ?_
    rw [now]
    exact Nat.add_sub_cancel' passed
  | sleep duration =>
    obtain ⟨proceeds, rest, ends⟩ := Dispatch.sleep_ends reachedOne.affordable duration attendedOne
    obtain ⟨sleeps, rest', ends'⟩ := Dispatch.sleep_ends reachedTwo.affordable duration attendedTwo
    refine ⟨take_reached (.sleep duration) trivial reachedTwo, ?_⟩
    refine proceeds_alike reachedOne reachedTwo same proceeds sleeps rest rest' ?_
    exact ends'.trans ((congrArg (· + duration) now).trans ends.symm)

theorem play_alone (script : List JobStep) (spares : ∀ step ∈ script, step.Spares target)
    (reachedOne : one.Reached terms target) (reachedTwo : two.Reached terms target)
    (same : two.dispatch.trackOf target = one.dispatch.trackOf target) :
    (one.play script).dispatch.trialsFor target =
      (two.play (alone target one script)).dispatch.trialsFor target := by
  induction script generalizing one two with
  | nil =>
    obtain ⟨_, _, timedOne⟩ := reachedOne.timed
    obtain ⟨_, _, timedTwo⟩ := reachedTwo.timed
    have ends := Dispatch.trialsFor_eq timedOne reachedOne.homed
    have ends' := Dispatch.trialsFor_eq timedTwo reachedTwo.homed
    exact ends.trans ((congrArg Track.trials same.symm).trans ends'.symm)
  | cons step rest ih =>
    have first := spares step (List.mem_cons_self ..)
    obtain ⟨reached, alike⟩ := take_alone step first reachedOne reachedTwo same
    have played : two.play (alone target one (step :: rest)) =
        (two.play (aloneStep target one step)).play (alone target (one.take step) rest) :=
      List.foldl_append
    rw [played]
    exact ih (fun later present => spares later (List.mem_cons_of_mem _ present))
      (take_reached step first reachedOne) reached alike

end JobQueues
end ActorDirectory
