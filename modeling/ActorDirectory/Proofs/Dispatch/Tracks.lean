import ActorDirectory.Proofs.Dispatch.Quiescence
import ActorDirectory.Proofs.Dispatch.Timetable

-- Lanes of jobs go each their own way. Whatever a dispatch does is for each of its lanes something
-- that the lane could do alone, and for all but one of them nothing at all, unless time passes.
namespace ActorDirectory

def Attempt.trial (attempt : Attempt Silo Job) : Trial :=
  ⟨attempt.operation, attempt.time, attempt.succeeded⟩

theorem Lane.grows_length {κ ω : Type} {lanes after : List (Lane κ ω)} (grows : Grows lanes after) :
    lanes.length ≤ after.length := by
  refine Nat.le_of_not_lt fun less => ?_
  obtain ⟨_, there, _⟩ := grows _ _ (List.getElem?_eq_getElem less)
  exact Nat.lt_irrefl _ (List.getElem?_eq_some_iff.mp there).1

theorem Job.perform_succeeded (job : Job) (made : Nat) :
    (job.perform made).succeeded = decide (job.failures ≤ made) := by
  unfold perform
  split
  · rename_i fails
    simp [Nat.not_le.mpr fails]
  · rename_i succeeds
    simp [Nat.le_of_not_lt succeeds]

def JobQueues.terms (queues : JobQueues) : Terms := ⟨queues.attempts, queues.delay⟩

structure Lane.Kept {κ ω : Type} (lanes after : List (Lane κ ω)) : Prop where
  length : after.length = lanes.length
  same : ∀ (number : Nat) (lane : Lane κ ω), after[number]? = some lane →
    ∃ earlier : Lane κ ω, lanes[number]? = some earlier ∧ lane.key = earlier.key ∧
      lane.isOpen = earlier.isOpen ∧ ∀ operation ∈ lane.waiting, operation ∈ earlier.waiting

theorem Lane.kept_set {κ ω : Type} {lanes : List (Lane κ ω)} {number : Nat} {lane changed : Lane κ ω}
    (found : lanes[number]? = some lane) (key : changed.key = lane.key)
    (isOpen : changed.isOpen = lane.isOpen)
    (fewer : ∀ operation ∈ changed.waiting, operation ∈ lane.waiting) :
    Kept lanes (lanes.set number changed) := by
  refine ⟨List.length_set, fun other later present => ?_⟩
  rcases (put_set changed found).or present with ⟨rfl, rfl⟩ | ⟨_, there⟩
  · exact ⟨lane, found, key, isOpen, fewer⟩
  · exact ⟨later, there, rfl, rfl, fun _ => id⟩

namespace Dispatch

open Lane (Put Room OpenAt Kept)

section Orderly

variable {κ ω σ : Type} {dispatch after : Dispatch κ ω σ} {lane changed : Lane κ ω} {number : Nat}

structure Orderly (dispatch : Dispatch κ ω σ) : Prop where
  once : (dispatch.ready ++ dispatch.asleep.map Prod.fst).Nodup
  known : ∀ number, dispatch.Busy number → number < dispatch.lanes.length
  told : ∀ attempt ∈ dispatch.history, ∃ lane, dispatch.lanes[attempt.lane]? = some lane ∧
    lane.key = attempt.key

theorem told_grows {lanes : List (Lane κ ω)} (grows : Lane.Grows dispatch.lanes lanes)
    (orderly : dispatch.Orderly) : ∀ attempt ∈ dispatch.history,
      ∃ lane, lanes[attempt.lane]? = some lane ∧ lane.key = attempt.key := by
  intro attempt made
  obtain ⟨lane, present, same⟩ := orderly.told attempt made
  obtain ⟨later, there, kept, _⟩ := grows _ lane present
  exact ⟨later, there, kept.trans same⟩

theorem orderly_wake (lanes : List (Lane κ ω)) (number : Nat) (here : number < lanes.length)
    (grows : Lane.Grows dispatch.lanes lanes) (orderly : dispatch.Orderly) :
    ({ dispatch with lanes }.wake number).Orderly := by
  have length := Lane.grows_length grows
  have told := told_grows grows orderly
  unfold wake
  split
  · rename_i idle
    have absent : ¬dispatch.Busy number := isIdle_iff.mp idle
    refine ⟨?_, fun other busy => ?_, told⟩
    · have fresh : number ∉ dispatch.ready ++ dispatch.asleep.map Prod.fst := by
        simpa [Busy] using absent
      have moved : (dispatch.ready ++ [number] ++ dispatch.asleep.map Prod.fst).Perm
          (number :: (dispatch.ready ++ dispatch.asleep.map Prod.fst)) := by
        rw [List.append_assoc]
        exact List.perm_middle
      exact moved.nodup_iff.mpr (List.nodup_cons.mpr ⟨fresh, orderly.once⟩)
    · by_cases same : other = number
      · exact same ▸ here
      · refine Nat.lt_of_lt_of_le (orderly.known other ?_) length
        exact busy.imp_left fun ready => by simpa [same] using ready
  · exact ⟨orderly.once, fun other busy => Nat.lt_of_lt_of_le (orderly.known other busy) length, told⟩

theorem erase_perm (ready : number ∈ dispatch.ready) :
    (number :: dispatch.ready.erase number ++ dispatch.asleep.map Prod.fst).Perm
      (dispatch.ready ++ dispatch.asleep.map Prod.fst) :=
  (List.perm_cons_erase ready).symm.append_right _

theorem orderly_tried (changed : Lane κ ω) (world : σ) {attempt : Attempt κ ω}
    (ready : number ∈ dispatch.ready) (found : dispatch.lanes[number]? = some lane)
    (key : changed.key = lane.key) (made : attempt.lane = number ∧ attempt.key = lane.key)
    (orderly : dispatch.Orderly) : (dispatch.tried number changed world attempt).Orderly := by
  have bound := (List.getElem?_eq_some_iff.mp found).1
  refine ⟨(erase_perm ready).nodup_iff.mpr orderly.once, fun other busy => ?_, fun other present => ?_⟩
  · rw [tried, List.length_set]
    rcases busy with here | asleep
    · rcases List.mem_cons.mp here with rfl | there
      · exact bound
      · exact orderly.known other (.inl (List.mem_of_mem_erase there))
    · exact orderly.known other (.inr asleep)
  · have there : ∃ there, dispatch.lanes[other.lane]? = some there ∧ there.key = other.key := by
      rcases List.mem_append.mp present with before | last
      · exact orderly.told other before
      · cases List.mem_singleton.mp last
        exact ⟨lane, made.1 ▸ found, made.2.symm⟩
    obtain ⟨earlier, here, same⟩ := there
    rcases Nat.decEq other.lane number with elsewhere | equal
    · exact ⟨earlier, (List.getElem?_set_ne (Ne.symm elsewhere)).trans here, same⟩
    · rw [equal] at here
      cases found.symm.trans here
      exact ⟨changed, by simp [tried, equal, bound], key.trans same⟩

theorem orderly_fire (time : Nat) (orderly : dispatch.Orderly) : (dispatch.fire time).Orderly := by
  have parts : ((dispatch.asleep.filter (·.2 ≤ time)).map Prod.fst ++
      (dispatch.asleep.filter (time < ·.2)).map Prod.fst).Perm (dispatch.asleep.map Prod.fst) := by
    have opposite : (fun sleeper : Nat × Nat => decide (time < sleeper.2)) =
        fun sleeper => !decide (sleeper.2 ≤ time) := by
      funext sleeper
      rw [← decide_not]
      exact decide_eq_decide.mpr Nat.not_le.symm
    rw [← List.map_append, opposite]
    exact (List.filter_append_perm _ _).map _
  refine ⟨?_, fun number busy => orderly.known number ?_, orderly.told⟩
  · simp only [fire, List.append_assoc]
    exact (parts.append_left _).nodup_iff.mpr orderly.once
  · rcases busy with ready | ⟨due, asleep⟩
    · rcases List.mem_append.mp ready with before | woken
      · exact .inl before
      · obtain ⟨⟨_, due⟩, there, rfl⟩ := List.mem_map.mp woken
        exact .inr ⟨due, (List.mem_filter.mp there).1⟩
    · exact .inr ⟨due, (List.mem_filter.mp asleep).1⟩

end Orderly

section Timed

variable {κ ω σ : Type} [DecidableEq κ]

-- A run with the time of all that happened. Lanes take turns when they are ready, and time passes
-- when none is, at most until the first one is to wake.
inductive Timed (rules : Rules κ ω σ) :
    List (Request κ ω) → List (Nat × Event κ ω) → Dispatch κ ω σ → Prop where
  | fresh (world : σ) : Timed rules [] [] { world }
  | asked {asked : List (Request κ ω)} {log : List (Nat × Event κ ω)} {dispatch : Dispatch κ ω σ}
      (request : Request κ ω) : Timed rules asked log dispatch →
      Timed rules (asked ++ [request]) (log ++ [(dispatch.now, dispatch.requestEvent request)])
        (dispatch.request request)
  | turn {asked : List (Request κ ω)} {log : List (Nat × Event κ ω)} {dispatch : Dispatch κ ω σ}
      (number : Nat) : number ∈ dispatch.ready → Timed rules asked log dispatch →
      Timed rules asked
        (log ++ (dispatch.turnEvents rules number).map fun event => (dispatch.now, event))
        (dispatch.turn rules number)
  | pass {asked : List (Request κ ω)} {log : List (Nat × Event κ ω)} {dispatch : Dispatch κ ω σ}
      (time : Nat) : dispatch.ready = [] → dispatch.now ≤ time →
      (∀ sleeper ∈ dispatch.asleep, time ≤ sleeper.2) → Timed rules asked log dispatch →
      Timed rules asked log (dispatch.fire time)

variable {rules : Rules κ ω σ} {dispatch after : Dispatch κ ω σ} {asked : List (Request κ ω)}
  {log : List (Nat × Event κ ω)}

theorem timed_recorded (timed : Timed rules asked log dispatch) :
    Recorded rules asked (log.map Prod.snd) dispatch := by
  induction timed with
  | fresh world => exact .fresh world
  | asked request _ ih => simpa using ih.asked request
  | turn number _ _ ih => simpa [Function.comp_def] using ih.turn number
  | pass time _ _ _ _ ih => exact ih.pass time

theorem proceeds_timed (proceeds : Proceeds rules dispatch after)
    (timed : Timed rules asked log dispatch) :
    ∃ more, Timed rules asked (log ++ more) after := by
  induction proceeds generalizing log with
  | done => exact ⟨[], by rwa [List.append_nil]⟩
  | turn number ready _ ih =>
    obtain ⟨more, timed⟩ := ih (timed.turn number ready)
    exact ⟨_, by rwa [List.append_assoc] at timed⟩
  | pass time rest later first _ ih => exact ih (timed.pass time rest later first)

variable {lane changed : Lane κ ω} {number : Nat}

theorem enqueue_wake (dispatch : Dispatch κ ω σ) (key : κ) (operation : ω) :
    dispatch.enqueue key operation =
      { dispatch with lanes := (dispatch.enqueue key operation).lanes }.wake
        (dispatch.ticketFor key).lane := by
  cases found : dispatch.openLane? key <;> simp [enqueue, ticketFor, found]

theorem close_wake (dispatch : Dispatch κ ω σ) (key : κ) :
    dispatch.openLane? key = none ∧ dispatch.close key = dispatch ∨
      ∃ number lane, dispatch.openLane? key = some number ∧ dispatch.lanes[number]? = some lane ∧
        dispatch.close key = { dispatch with
          lanes := dispatch.lanes.set number { lane with isOpen := false } }.wake number := by
  cases found : dispatch.openLane? key with
  | none => exact .inl ⟨rfl, by simp [close, found]⟩
  | some number =>
    obtain ⟨lane, here, _⟩ := openAt_of_openLane found
    refine .inr ⟨number, lane, rfl, here, ?_⟩
    have put : Put dispatch.lanes number { lane with isOpen := false }
        (dispatch.lanes.modify number fun lane => { lane with isOpen := false }) :=
      ⟨by simp [here], fun other elsewhere => List.getElem?_modify_ne _ _ elsewhere.symm⟩
    simp [close, found, put.set_eq here]

theorem orderly_request (request : Request κ ω) (orderly : dispatch.Orderly) :
    (dispatch.request request).Orderly := by
  have grows := request_grows dispatch request
  cases request with
  | enqueue key operation =>
    obtain ⟨base, room, put⟩ := enqueue_room dispatch key operation
    rw [request, enqueue_wake]
    exact orderly_wake _ _ (List.getElem?_eq_some_iff.mp put.here).1 grows orderly
  | close key =>
    rcases close_wake dispatch key with ⟨_, same⟩ | ⟨number, lane, _, here, closed⟩
    · rw [request, same]
      exact orderly
    · rw [request, closed] at grows ⊢
      refine orderly_wake _ number ?_ ?_ orderly
      · simpa using (List.getElem?_eq_some_iff.mp here).1
      · exact Lane.grows_set here _ rfl (Nat.le_refl _) (Nat.le_refl _)

theorem orderly_requestAll (requests : List (Request κ ω)) (orderly : dispatch.Orderly) :
    (dispatch.requestAll requests).Orderly := by
  induction requests generalizing dispatch with
  | nil => exact orderly
  | cons request rest ih => exact ih (orderly_request request orderly)

theorem orderly_turn (rules : Rules κ ω σ) (ready : number ∈ dispatch.ready)
    (live : ∀ lane, dispatch.lanes[number]? = some lane → lane.isHalted = false)
    (orderly : dispatch.Orderly) : (dispatch.turn rules number).Orderly := by
  have fewer : ∀ other, other ∈ dispatch.ready.erase number ∨
      (∃ due, (other, due) ∈ dispatch.asleep) → other < dispatch.lanes.length :=
    fun other busy => orderly.known other (busy.imp_left List.mem_of_mem_erase)
  have once : (dispatch.ready.erase number ++ dispatch.asleep.map Prod.fst).Nodup :=
    ((erase_perm ready).nodup_iff.mpr orderly.once).tail
  have turns := turn_turns rules number live
  generalize dispatch.turnEvents rules number = told at turns
  generalize dispatch.turn rules number = after at turns ⊢
  cases turns with
  | missing => exact ⟨once, fewer, orderly.told⟩
  | rests lane found =>
    have grows := Lane.grows_set found lane.rest rfl (Nat.le_refl _) (Nat.le_refl _)
    have told := told_grows grows orderly
    exact ⟨once, fun other busy => by simpa using fewer other busy, told⟩
  | succeeds lane operation rest result attempt found _ _ made =>
    exact orderly_requestAll _ (orderly_tried lane.advance _ ready found rfl
      ⟨congrArg Attempt.lane made, congrArg Attempt.key made⟩ orderly)
  | retries lane operation rest result attempt found _ _ made =>
    exact orderly_tried _ _ ready found rfl
      ⟨congrArg Attempt.lane made, congrArg Attempt.key made⟩ orderly
  | sleeps lane operation rest result attempt found _ _ made =>
    have tried := orderly_tried { lane with made := lane.made + 1 } result.world ready found rfl
      ⟨congrArg Attempt.lane made, congrArg Attempt.key made⟩ orderly
    refine ⟨?_, fun other busy => tried.known other ?_, tried.told⟩
    · refine List.Perm.nodup_iff ?_ |>.mp tried.once
      simp only [Dispatch.tried, List.map_append, List.map_cons, List.map_nil, List.cons_append,
        ← List.append_assoc]
      exact (List.perm_append_singleton _ _).symm
    · rcases busy with here | ⟨due, asleep⟩
      · exact .inl (List.mem_cons_of_mem _ here)
      · rcases List.mem_append.mp asleep with before | last
        · exact .inr ⟨due, before⟩
        · cases List.mem_singleton.mp last
          exact .inl (List.mem_cons_self ..)
  | drops lane operation rest result attempt found _ _ made =>
    exact orderly_tried _ _ ready found rfl
      ⟨congrArg Attempt.lane made, congrArg Attempt.key made⟩ orderly

theorem timed_orderly (timed : Timed rules asked log dispatch) : dispatch.Orderly := by
  induction timed with
  | fresh => exact ⟨.nil, by simp [Busy], nofun⟩
  | asked request _ ih => exact orderly_request request ih
  | turn number ready earlier ih =>
    exact orderly_turn rules ready ((recorded_account (timed_recorded earlier)).ledger.live number) ih
  | pass time _ _ _ _ ih => exact orderly_fire time ih

end Timed

section Tracks

variable {dispatch after : Dispatch Silo Job Unit} {number : Nat} {key : Silo}

def track (dispatch : Dispatch Silo Job Unit) (number : Nat) : Track where
  waiting := (dispatch.lanes[number]?).elim [] Lane.waiting
  made := (dispatch.lanes[number]?).elim 0 Lane.made
  isReady := decide (number ∈ dispatch.ready)
  dues := (dispatch.asleep.filter (·.1 = number)).map Prod.snd
  now := dispatch.now
  trials := (dispatch.history.filter (·.lane = number)).map Attempt.trial

theorem track_awake : (dispatch.track number).dues.isEmpty = true ↔
    ∀ due, (number, due) ∉ dispatch.asleep := by
  simp only [track, List.isEmpty_iff, List.map_eq_nil_iff, List.filter_eq_nil_iff, decide_eq_true_eq]
  exact ⟨fun none due present => none _ present rfl, fun none sleeper present same =>
    none sleeper.2 (same ▸ present)⟩

theorem track_ready (busy : dispatch.Busy number) :
    ((dispatch.track number).isReady || (dispatch.track number).dues.isEmpty) =
      (dispatch.track number).isReady := by
  rcases busy with ready | ⟨due, asleep⟩
  · simp [track, ready]
  · have awake : (dispatch.track number).dues.isEmpty = false :=
      Bool.eq_false_iff.mpr fun none => track_awake.mp none due asleep
    rw [awake, Bool.or_false]

theorem wake_track (dispatch : Dispatch Silo Job Unit) (lane number : Nat) :
    (dispatch.wake lane).track number =
      if number = lane then (dispatch.track number).rouse else dispatch.track number := by
  unfold wake
  split
  · rename_i idle
    split
    · rename_i same
      subst same
      have awake : (dispatch.track number).dues.isEmpty = true :=
        track_awake.mpr fun due asleep => isIdle_iff.mp idle (.inr ⟨due, asleep⟩)
      simp only [Track.rouse, awake, Bool.or_true]
      simp [track]
    · rename_i other
      simp [track, other]
  · rename_i busy
    split
    · rename_i same
      subst same
      have there : dispatch.Busy number := Classical.not_not.mp fun idle => busy (isIdle_iff.mpr idle)
      rw [Track.rouse, track_ready there]
    · rfl

theorem enqueue_track (dispatch : Dispatch Silo Job Unit) (key : Silo) (job : Job) (number : Nat) :
    (dispatch.enqueue key job).track number =
      if number = (dispatch.ticketFor key).lane then (dispatch.track number).put job
      else dispatch.track number := by
  obtain ⟨base, room, put⟩ := enqueue_room dispatch key job
  rw [enqueue_wake, wake_track]
  split
  · rename_i same
    have before : dispatch.lanes[number]? = some base ∨
        dispatch.lanes[number]? = none ∧ base.waiting = [] ∧ base.made = 0 := by
      subst same
      generalize dispatch.ticketFor key = ticket at room
      cases room with
      | found here => exact .inl here
      | fresh => exact .inr ⟨by simp, rfl, rfl⟩
    have after : (dispatch.enqueue key job).lanes[number]? = some (base.push job) :=
      same ▸ put.here
    rcases before with here | ⟨absent, empty, made⟩
    · simp [Track.put, track, after, here, Lane.push]
    · simp [Track.put, track, after, absent, Lane.push, empty, made]
  · rename_i other
    simp [track, put.elsewhere number other]

theorem close_track (dispatch : Dispatch Silo Job Unit) (key : Silo) (number : Nat) :
    (dispatch.close key).track number =
      if dispatch.openLane? key = some number then (dispatch.track number).rouse
      else dispatch.track number := by
  rcases close_wake dispatch key with ⟨none, same⟩ | ⟨lane, found, wasOpen, here, closed⟩
  · simp [none, same]
  · have kept : ({ dispatch with lanes := dispatch.lanes.set lane { found with isOpen := false } } :
        Dispatch Silo Job Unit).track number = dispatch.track number := by
      rcases Nat.decEq lane number with other | same
      · simp [track, List.getElem?_set_ne other]
      · subst same
        have there : (dispatch.lanes.set lane { found with isOpen := false })[lane]? =
            some { found with isOpen := false } := by
          simp [(List.getElem?_eq_some_iff.mp here).1]
        simp [track, here, there]
    rw [closed, wake_track, kept, wasOpen]
    simp only [Option.some.injEq, eq_comm]

theorem fire_track (dispatch : Dispatch Silo Job Unit) (time number : Nat) :
    (dispatch.fire time).track number = (dispatch.track number).fire time := by
  have ready : decide (number ∈ (dispatch.fire time).ready) =
      (decide (number ∈ dispatch.ready) ||
        ((dispatch.asleep.filter (·.1 = number)).map Prod.snd).any (· ≤ time)) := by
    rw [Bool.eq_iff_iff]
    simp only [Bool.or_eq_true, decide_eq_true_eq, List.any_eq_true, fire, List.mem_append]
    refine or_congr_right ⟨fun woken => ?_, fun slept => ?_⟩
    · obtain ⟨⟨_, due⟩, there, rfl⟩ := List.mem_map.mp woken
      obtain ⟨asleep, now⟩ := List.mem_filter.mp there
      exact ⟨due, List.mem_map.mpr ⟨_, List.mem_filter.mpr ⟨asleep, by simp⟩, rfl⟩, of_decide_eq_true now⟩
    · obtain ⟨_, there, now⟩ := slept
      obtain ⟨⟨_, due⟩, here, rfl⟩ := List.mem_map.mp there
      obtain ⟨asleep, same⟩ := List.mem_filter.mp here
      cases of_decide_eq_true same
      exact List.mem_map.mpr ⟨_, List.mem_filter.mpr ⟨asleep, decide_eq_true now⟩, rfl⟩
  have dues : ((dispatch.fire time).asleep.filter (·.1 = number)).map Prod.snd =
      ((dispatch.asleep.filter (·.1 = number)).map Prod.snd).filter (time < ·) := by
    simp only [fire, List.filter_map, List.filter_filter, Function.comp_def, Bool.and_comm]
  simp only [track, Track.fire, ready, dues]
  rfl

theorem track_made {lane : Lane Silo Job} (found : dispatch.lanes[number]? = some lane) :
    (dispatch.track number).made = lane.made := by
  simp [track, found]

theorem tried_track {lane changed : Lane Silo Job} {attempt : Attempt Silo Job} (world : Unit)
    (found : dispatch.lanes[number]? = some lane) (made : attempt.lane = number) :
    (dispatch.tried number changed world attempt).track number =
      { dispatch.track number with
        waiting := changed.waiting
        made := changed.made
        isReady := true
        trials := (dispatch.track number).trials ++ [attempt.trial] } := by
  simp [track, tried, made, (List.getElem?_eq_some_iff.mp found).1]

theorem tried_track_other {other : Nat} {attempt : Attempt Silo Job} (changed : Lane Silo Job)
    (world : Unit) (made : attempt.lane = number) (different : other ≠ number) :
    (dispatch.tried number changed world attempt).track other = dispatch.track other := by
  simp [track, tried, made, different, Ne.symm different]

-- What a turn is to the lane that takes it. Nothing happens to the others before the jobs that
-- follow are put in.
inductive Turned (terms : Terms) (dispatch : Dispatch Silo Job Unit) (number : Nat) :
    List (Event Silo Job) → Dispatch Silo Job Unit → Prop where
  | rests (after : Dispatch Silo Job Unit) : (dispatch.track number).waiting = [] →
      after.track number = (dispatch.track number).rest →
      (∀ other, other ≠ number → after.track other = dispatch.track other) →
      Kept dispatch.lanes after.lanes → Turned terms dispatch number [] after
  | attempts (lane : Lane Silo Job) (job : Job) (rest : List Job) (ticket : Ticket)
      (attempt : Attempt Silo Job) (isLast : Bool) (after : Dispatch Silo Job Unit) :
      dispatch.lanes[number]? = some lane → lane.waiting = job :: rest →
      after.track number = (dispatch.track number).attempt terms job rest →
      (∀ other, other ≠ number → after.track other = dispatch.track other) →
      Kept dispatch.lanes after.lanes → after.Orderly →
      Turned terms dispatch number
        (.attempted ticket attempt isLast :: after.requestEvents (job.perform lane.made).requests)
        (after.requestAll (job.perform lane.made).requests)

theorem turned_fails {terms : Terms} {lane : Lane Silo Job} {job : Job} {rest : List Job}
    {ticket : Ticket} {attempt : Attempt Silo Job} {isLast : Bool}
    (found : dispatch.lanes[number]? = some lane) (first : lane.waiting = job :: rest)
    (fails : ¬job.failures ≤ lane.made)
    (here : after.track number = (dispatch.track number).attempt terms job rest)
    (others : ∀ other, other ≠ number → after.track other = dispatch.track other)
    (kept : Kept dispatch.lanes after.lanes) (orderly : after.Orderly) :
    Turned terms dispatch number [.attempted ticket attempt isLast] after := by
  have none : (job.perform lane.made).requests = [] := by
    simp [Job.perform, Nat.lt_of_not_le fails]
  have told : Turned terms dispatch number _ _ :=
    .attempts lane job rest ticket attempt isLast after found first here others kept orderly
  rw [none] at told
  exact told

theorem turn_turned (queues : JobQueues) (ready : number ∈ dispatch.ready)
    (live : ∀ lane, dispatch.lanes[number]? = some lane → lane.isHalted = false)
    (orderly : dispatch.Orderly) :
    Turned queues.terms dispatch number (dispatch.turnEvents queues.rules number)
      (dispatch.turn queues.rules number) := by
  have once : (number :: dispatch.ready.erase number).Nodup :=
    (List.nodup_append.mp ((erase_perm ready).nodup_iff.mpr orderly.once)).1
  have gone : number ∉ dispatch.ready.erase number := (List.nodup_cons.mp once).1
  have not_over : ∀ {job : Job} {made : Nat}, (job.perform made).succeeded = false →
      ¬job.failures ≤ made := fun {job made} failed =>
    of_decide_eq_false ((job.perform_succeeded made).symm.trans failed)
  have later := orderly_turn queues.rules ready live orderly
  have turns := turn_turns queues.rules number live
  generalize dispatch.turnEvents queues.rules number = told at turns ⊢
  generalize dispatch.turn queues.rules number = after at turns later ⊢
  cases turns with
  | missing absent =>
    have known := orderly.known number (.inl ready)
    simp [Nat.not_le.mpr known] at absent
  | rests lane found empty =>
    refine .rests _ (by simp [track, found, empty]) ?_ ?_ (Lane.kept_set found rfl rfl fun _ => id)
    · have rested : lane.rest.waiting = lane.waiting ∧ lane.rest.made = lane.made := ⟨rfl, rfl⟩
      simp [track, Track.rest, found, gone, rested, (Lane.put_set lane.rest found).here]
    · intro other different
      simp [track, Ne.symm different, List.mem_erase_of_ne different]
  | succeeds lane job rest result attempt found first performed made succeeded =>
    have performed : result = job.perform lane.made := performed
    subst performed
    have ended : job.failures ≤ lane.made :=
      of_decide_eq_true ((job.perform_succeeded lane.made).symm.trans succeeded)
    refine .attempts lane job rest _ attempt true _ found first ?_
      (fun other => tried_track_other lane.advance _ (congrArg Attempt.lane made))
      (Lane.kept_set found rfl rfl fun task waits => List.mem_of_mem_tail waits)
      (orderly_tried _ _ ready found rfl ⟨congrArg Attempt.lane made, congrArg Attempt.key made⟩
        orderly)
    rw [tried_track _ found (congrArg Attempt.lane made), Track.attempt, track_made found, if_pos ended]
    simp [Lane.advance, first, made, Attempt.trial, ended, succeeded, track, ready]
  | retries lane job rest result attempt found first performed made failed again soon =>
    have performed : result = job.perform lane.made := performed
    subst performed
    have fails := not_over failed
    refine turned_fails found first fails ?_
      (fun other => tried_track_other _ _ (congrArg Attempt.lane made))
      (Lane.kept_set found rfl rfl fun _ => id) later
    have soon : queues.terms.delay = 0 := soon
    have again : lane.made + 1 < queues.terms.attempts := again
    rw [tried_track _ found (congrArg Attempt.lane made), Track.attempt, track_made found,
      if_neg fails, if_pos again, if_pos soon]
    simp [made, Attempt.trial, fails, failed, track, ready, found]
  | sleeps lane job rest result attempt found first performed made failed again late =>
    have performed : result = job.perform lane.made := performed
    subst performed
    have fails := not_over failed
    have late : queues.terms.delay ≠ 0 := late
    have again : lane.made + 1 < queues.terms.attempts := again
    refine turned_fails found first fails ?_ (fun other different => ?_)
      (Lane.kept_set found rfl rfl fun _ => id) later
    · rw [Track.attempt, track_made found, if_neg fails, if_pos again, if_neg late]
      have here := (Lane.put_set { lane with made := lane.made + 1 } found).here
      have delay : queues.rules.delay = queues.terms.delay := rfl
      simp [made, Attempt.trial, fails, failed, track, tried, ready, found, gone, here, delay]
    · simp [track, tried, made, Ne.symm different, List.mem_erase_of_ne different]
  | drops lane job rest result attempt found first performed made failed ended =>
    have performed : result = job.perform lane.made := performed
    subst performed
    have fails := not_over failed
    refine turned_fails found first fails ?_
      (fun other => tried_track_other _ _ (congrArg Attempt.lane made))
      (Lane.kept_set found rfl rfl fun task waits => List.mem_of_mem_tail waits) later
    have ended : ¬lane.made + 1 < queues.terms.attempts := Nat.not_lt.mpr ended
    rw [tried_track _ found (congrArg Attempt.lane made), Track.attempt, track_made found,
      if_neg fails, if_neg ended]
    simp [Lane.drop, Lane.advance, first, made, Attempt.trial, fails, failed, track, ready]

end Tracks

section Lives

variable {dispatch : Dispatch Silo Job Unit} {number : Nat} {queues : JobQueues} {terms : Terms}
  {asked : List (Request Silo Job)} {log : List (Nat × Event Silo Job)} {puts : List (Nat × Job)}

def intakeOf (number : Nat) : Nat × Event Silo Job → Option (Nat × Job)
  | (time, .accepted _ ticket job) => if ticket.lane = number then some (time, job) else none
  | _ => none

def intake (number : Nat) (log : List (Nat × Event Silo Job)) : List (Nat × Job) :=
  log.filterMap (intakeOf number)

theorem intake_append (number : Nat) (log more : List (Nat × Event Silo Job)) :
    intake number (log ++ more) = intake number log ++ intake number more :=
  List.filterMap_append

theorem request_lives (request : Request Silo Job)
    (lives : Track.Lives terms puts (dispatch.track number)) :
    Track.Lives terms (puts ++ intake number [(dispatch.now, dispatch.requestEvent request)])
      ((dispatch.request request).track number) := by
  cases request with
  | enqueue key job =>
    rw [request, enqueue_track]
    by_cases here : number = (dispatch.ticketFor key).lane
    · rw [if_pos here]
      have put : Track.Lives terms (puts ++ [(dispatch.now, job)]) _ := lives.put job
      simpa [intake, intakeOf, requestEvent, here] using put
    · rw [if_neg here]
      simpa [intake, intakeOf, requestEvent, Ne.symm here] using lives
  | close key =>
    have none : intake number [(dispatch.now, dispatch.requestEvent (.close key))] = [] := rfl
    rw [request, close_track, none, List.append_nil]
    split
    · exact lives.rouse
    · exact lives

theorem requestAll_lives (requests : List (Request Silo Job))
    (lives : Track.Lives terms puts (dispatch.track number)) :
    Track.Lives terms
      (puts ++ intake number ((dispatch.requestEvents requests).map fun event => (dispatch.now, event)))
      ((dispatch.requestAll requests).track number) := by
  induction requests generalizing dispatch puts with
  | nil => simpa [requestEvents, requestAll, intake] using lives
  | cons request rest ih =>
    have later := ih (request_lives request lives)
    rw [List.append_assoc, ← intake_append, (request_roused dispatch request).now] at later
    exact later

theorem timed_lives (timed : Timed queues.rules asked log dispatch) (number : Nat) :
    Track.Lives queues.terms (intake number log) (dispatch.track number) := by
  induction timed with
  | fresh => exact .fresh
  | asked request _ ih =>
    rw [intake_append]
    exact request_lives request ih
  | @turn _ log dispatch taken ready earlier ih =>
    have turned := turn_turned queues ready ((recorded_account (timed_recorded earlier)).ledger.live taken)
      (timed_orderly earlier)
    have now := turn_now queues.rules dispatch taken
    generalize dispatch.turnEvents queues.rules taken = told at turned ⊢
    generalize dispatch.turn queues.rules taken = after at turned now ⊢
    rw [intake_append]
    cases turned with
    | rests after empty rested others =>
      have none : intake number (([] : List (Event Silo Job)).map fun event => (dispatch.now, event)) =
        [] := rfl
      rw [none, List.append_nil]
      rcases Nat.decEq number taken with other | same
      · exact others number other ▸ ih
      · subst same
        exact rested ▸ ih.rest empty
    | attempts lane job rest ticket attempt isLast after found first tried others =>
      have lives : Track.Lives queues.terms (intake number log) (after.track number) := by
        rcases Nat.decEq number taken with other | same
        · exact others number other ▸ ih
        · subst same
          have waiting : (dispatch.track number).waiting = job :: rest := by simp [track, found, first]
          exact tried ▸ ih.attempt job rest (by simp [track, ready]) waiting
      have same : after.now = dispatch.now := (requestAll_now after _).symm.trans now
      have later := requestAll_lives (job.perform lane.made).requests lives
      rw [same] at later
      exact later
  | pass time rest passes first _ ih =>
    rw [fire_track]
    refine ih.pass time (by simp [track, rest]) passes fun due asleep => ?_
    obtain ⟨sleeper, present, rfl⟩ := List.mem_map.mp asleep
    exact first sleeper (List.mem_filter.mp present).1

end Lives

end Dispatch

namespace JobQueues

open Dispatch (Timed)

variable {queues : JobQueues} {asked : List (Request Silo Job)} {log : List (Nat × Event Silo Job)}

theorem take_timed (step : JobStep) (live : queues.isCancelled = false)
    (affordable : queues.rules.Affordable) (timed : Timed queues.rules asked log queues.dispatch) :
    (queues.take step).isCancelled = false ∧ (queues.take step).rules = queues.rules ∧
      ∃ more, Timed queues.rules (asked ++ step.request?.toList) (log ++ more)
        (queues.take step).dispatch := by
  have attended := Dispatch.recorded_attended affordable.tries (Dispatch.timed_recorded timed)
  cases step with
  | enqueue target job =>
    have taken : queues.take (.enqueue target job) =
        { queues with dispatch := queues.dispatch.enqueue target job } := by
      simp [take, enqueue, live]
    rw [taken]
    exact ⟨live, rfl, _, timed.asked (.enqueue target job)⟩
  | forget target => exact ⟨live, rfl, _, timed.asked (.close target)⟩
  | quiesce =>
    simp only [JobStep.request?, Option.toList_none, List.append_nil]
    obtain ⟨proceeds, _⟩ := Dispatch.quiesce_ends affordable (fun _ => true) attended
    exact ⟨live, rfl, Dispatch.proceeds_timed proceeds timed⟩
  | sleep duration =>
    simp only [JobStep.request?, Option.toList_none, List.append_nil]
    obtain ⟨proceeds, _⟩ := Dispatch.sleep_ends affordable duration attended
    exact ⟨live, rfl, Dispatch.proceeds_timed proceeds timed⟩

theorem play_timed (script : List JobStep) (live : queues.isCancelled = false)
    (affordable : queues.rules.Affordable) (timed : Timed queues.rules asked log queues.dispatch) :
    ∃ more, Timed queues.rules (asked ++ script.filterMap JobStep.request?) (log ++ more)
      (queues.play script).dispatch := by
  induction script generalizing queues asked log with
  | nil => exact ⟨[], by simpa [play] using timed⟩
  | cons step rest ih =>
    obtain ⟨live, rules, first, taken⟩ := take_timed step live affordable timed
    obtain ⟨more, played⟩ := ih live (rules ▸ affordable) (rules ▸ taken)
    refine ⟨first ++ more, ?_⟩
    have parts : (step :: rest).filterMap JobStep.request? =
        step.request?.toList ++ rest.filterMap JobStep.request? := by
      cases here : step.request? <;> simp [here]
    rw [rules, List.append_assoc, List.append_assoc] at played
    rw [parts]
    exact played

end JobQueues

end ActorDirectory
