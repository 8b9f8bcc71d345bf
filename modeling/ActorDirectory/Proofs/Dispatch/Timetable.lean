import ActorDirectory.Dispatch.Jobs

-- The timetable of a lane. Its jobs are attempted one after the other, each as soon as it has been
-- put in and the one before it is over, and again after each delay until it succeeds or its
-- attempts are used up. When the attempts are made follows from when the jobs were put in.
namespace ActorDirectory

structure Trial where
  job : Job
  time : Nat
  succeeded : Bool

structure Terms where
  attempts : Nat
  delay : Nat

namespace Terms

variable {terms : Terms} {job : Job}

def trials (terms : Terms) (job : Job) (start : Nat) : List Trial :=
  (List.range (min (job.failures + 1) terms.attempts)).map fun made =>
    ⟨job, start + made * terms.delay, decide (job.failures ≤ made)⟩

def span (terms : Terms) (job : Job) : Nat :=
  (min (job.failures + 1) terms.attempts - 1) * terms.delay

def finish (terms : Terms) (free : Nat) : List (Nat × Job) → Nat
  | [] => free
  | (put, job) :: rest => terms.finish (max free put + terms.span job) rest

def schedule (terms : Terms) (free : Nat) : List (Nat × Job) → List Trial
  | [] => []
  | (put, job) :: rest =>
    terms.trials job (max free put) ++ terms.schedule (max free put + terms.span job) rest

theorem finish_append (free : Nat) (puts more : List (Nat × Job)) :
    terms.finish free (puts ++ more) = terms.finish (terms.finish free puts) more := by
  induction puts generalizing free with
  | nil => rfl
  | cons put rest ih => exact ih _

theorem schedule_append (free : Nat) (puts more : List (Nat × Job)) :
    terms.schedule free (puts ++ more) =
      terms.schedule free puts ++ terms.schedule (terms.finish free puts) more := by
  induction puts generalizing free with
  | nil => rfl
  | cons put rest ih => rw [List.cons_append, schedule, ih, schedule, finish, List.append_assoc]

theorem trials_take {made : Nat} (start : Nat)
    (within : made < min (job.failures + 1) terms.attempts) :
    (terms.trials job start).take (made + 1) = (terms.trials job start).take made ++
      [⟨job, start + made * terms.delay, decide (job.failures ≤ made)⟩] := by
  rw [List.take_add_one, List.append_cancel_left_eq]
  simp [trials, within]

theorem trials_whole {made : Nat} (start : Nat)
    (last : min (job.failures + 1) terms.attempts = made + 1) :
    terms.trials job start = (terms.trials job start).take made ++
      [⟨job, start + made * terms.delay, decide (job.failures ≤ made)⟩] := by
  rw [← trials_take start (by omega), List.take_of_length_le]
  simp [trials, last]

theorem trials_later (start made : Nat) :
    ∀ trial ∈ (terms.trials job start).drop made, start + made * terms.delay ≤ trial.time := by
  intro trial present
  obtain ⟨place, here⟩ := List.mem_iff_getElem?.mp present
  rw [List.getElem?_drop] at here
  simp only [trials, List.getElem?_map, Option.map_eq_some_iff] at here
  obtain ⟨number, there, rfl⟩ := here
  obtain ⟨_, rfl⟩ := List.getElem?_eq_some_iff.mp there
  rw [List.getElem_range]
  exact Nat.add_le_add_left (Nat.mul_le_mul_right _ (Nat.le_add_right _ _)) _

theorem schedule_later (free : Nat) (puts : List (Nat × Job)) :
    ∀ trial ∈ terms.schedule free puts, free ≤ trial.time := by
  induction puts generalizing free with
  | nil => exact nofun
  | cons put rest ih =>
    intro trial present
    rcases List.mem_append.mp present with first | later
    · have begun := trials_later _ 0 trial first
      omega
    · have begun := ih _ trial later
      omega

end Terms

structure Track where
  waiting : List Job := []
  made : Nat := 0
  isReady : Bool := false
  dues : List Nat := []
  now : Nat := 0
  trials : List Trial := []

namespace Track

def rouse (track : Track) : Track :=
  { track with isReady := track.isReady || track.dues.isEmpty }

def put (track : Track) (job : Job) : Track :=
  { track with waiting := track.waiting ++ [job] }.rouse

def rest (track : Track) : Track := { track with isReady := false }

def attempt (terms : Terms) (track : Track) (job : Job) (rest : List Job) : Track :=
  let trial : Trial := ⟨job, track.now, decide (job.failures ≤ track.made)⟩
  let tried := { track with trials := track.trials ++ [trial] }
  if job.failures ≤ track.made then { tried with waiting := rest, made := 0 }
  else if track.made + 1 < terms.attempts then
    if terms.delay = 0 then { tried with made := track.made + 1 }
    else
      { tried with
        made := track.made + 1
        isReady := false
        dues := track.dues ++ [track.now + terms.delay] }
  else { tried with waiting := rest, made := 0 }

def fire (track : Track) (time : Nat) : Track :=
  { track with
    now := time
    isReady := track.isReady || track.dues.any (· ≤ time)
    dues := track.dues.filter (time < ·) }

inductive Lives (terms : Terms) : List (Nat × Job) → Track → Prop where
  | fresh : Lives terms [] {}
  | put {intake : List (Nat × Job)} {track : Track} (job : Job) :
      Lives terms intake track → Lives terms (intake ++ [(track.now, job)]) (track.put job)
  | rouse {intake : List (Nat × Job)} {track : Track} :
      Lives terms intake track → Lives terms intake track.rouse
  | rest {intake : List (Nat × Job)} {track : Track} : track.waiting = [] →
      Lives terms intake track → Lives terms intake track.rest
  | attempt {intake : List (Nat × Job)} {track : Track} (job : Job) (rest : List Job) :
      track.isReady = true → track.waiting = job :: rest →
      Lives terms intake track → Lives terms intake (track.attempt terms job rest)
  | pass {intake : List (Nat × Job)} {track : Track} (time : Nat) :
      track.isReady = false → track.now ≤ time → (∀ due ∈ track.dues, time ≤ due) →
      Lives terms intake track → Lives terms intake (track.fire time)

-- Where a lane stands in its timetable, with the jobs it is through with and those that are left.
-- The attempt that is next is due now, or the lane sleeps until it is due.
inductive Stage (terms : Terms) (track : Track) :
    List (Nat × Job) → List (Nat × Job) → Prop where
  | idle {passed : List (Nat × Job)} : track.waiting = [] → track.made = 0 → track.dues = [] →
      track.trials = terms.schedule 0 passed → Stage terms track passed []
  | busy {passed rest : List (Nat × Job)} {put : Nat} {job : Job} (due : Nat) :
      track.waiting = job :: rest.map Prod.snd → track.made ≤ job.failures →
      track.made < terms.attempts →
      due = max (terms.finish 0 passed) put + track.made * terms.delay →
      track.trials = terms.schedule 0 passed ++
        (terms.trials job (max (terms.finish 0 passed) put)).take track.made →
      track.isReady = true ∧ track.dues = [] ∧ track.now = due ∨
        track.isReady = false ∧ track.dues = [due] →
      Stage terms track passed ((put, job) :: rest)

structure OnTime (terms : Terms) (intake : List (Nat × Job)) (track : Track) : Prop where
  stage : ∃ passed left, intake = passed ++ left ∧ Stage terms track passed left ∧
    terms.finish 0 passed ≤ track.now
  earlier : ∀ put ∈ intake, put.1 ≤ track.now
  ahead : ∀ due ∈ track.dues, track.now < due
  past : ∀ trial ∈ track.trials, trial.time ≤ track.now

variable {terms : Terms} {track : Track} {intake passed rest : List (Nat × Job)} {put : Nat}
  {job : Job}

-- What can come of an attempt. It is the last one, or the job is attempted again, after a delay if
-- there is one.
inductive Attempts (terms : Terms) (track : Track) (job : Job) (rest : List Job) : Track → Prop where
  | last (trial : Trial) : trial = ⟨job, track.now, decide (job.failures ≤ track.made)⟩ →
      job.failures ≤ track.made ∨ terms.attempts ≤ track.made + 1 →
      Attempts terms track job rest
        { track with waiting := rest, made := 0, trials := track.trials ++ [trial] }
  | again (trial : Trial) : trial = ⟨job, track.now, decide (job.failures ≤ track.made)⟩ →
      track.made < job.failures → track.made + 1 < terms.attempts → terms.delay = 0 →
      Attempts terms track job rest
        { track with made := track.made + 1, trials := track.trials ++ [trial] }
  | later (trial : Trial) : trial = ⟨job, track.now, decide (job.failures ≤ track.made)⟩ →
      track.made < job.failures → track.made + 1 < terms.attempts → terms.delay ≠ 0 →
      Attempts terms track job rest
        { track with
          made := track.made + 1
          isReady := false
          dues := track.dues ++ [track.now + terms.delay]
          trials := track.trials ++ [trial] }

theorem attempt_attempts (terms : Terms) (track : Track) (job : Job) (rest : List Job) :
    Attempts terms track job rest (track.attempt terms job rest) := by
  unfold attempt
  by_cases succeeds : job.failures ≤ track.made
  · rw [if_pos succeeds]
    exact .last _ rfl (.inl succeeds)
  · have fails : track.made < job.failures := Nat.lt_of_not_le succeeds
    rw [if_neg succeeds]
    by_cases spare : track.made + 1 < terms.attempts
    · rw [if_pos spare]
      by_cases soon : terms.delay = 0
      · rw [if_pos soon]
        exact .again _ rfl fails spare soon
      · rw [if_neg soon]
        exact .later _ rfl fails spare soon
    · rw [if_neg spare]
      exact .last _ rfl (.inr (Nat.le_of_not_lt spare))

section OnTime

theorem attempt_past (terms : Terms) (job : Job) (rest : List Job)
    (past : ∀ trial ∈ track.trials, trial.time ≤ track.now) :
    ∀ trial ∈ (track.attempt terms job rest).trials, trial.time ≤ (track.attempt terms job rest).now := by
  have made : ∀ trial : Trial, trial = ⟨job, track.now, decide (job.failures ≤ track.made)⟩ →
      ∀ other ∈ track.trials ++ [trial], other.time ≤ track.now := by
    rintro trial rfl other present
    rcases List.mem_append.mp present with before | last
    · exact past other before
    · cases List.mem_singleton.mp last
      exact Nat.le_refl _
  have attempts := attempt_attempts terms track job rest
  generalize track.attempt terms job rest = after at attempts ⊢
  cases attempts with
  | last trial new => exact made trial new
  | again trial new => exact made trial new
  | later trial new => exact made trial new

theorem onTime_put (job : Job) (tries : 0 < terms.attempts) (onTime : OnTime terms intake track) :
    OnTime terms (intake ++ [(track.now, job)]) (track.put job) where
  stage := by
    obtain ⟨passed, left, rfl, stage, free⟩ := onTime.stage
    refine ⟨passed, left ++ [(track.now, job)], List.append_assoc .., ?_, free⟩
    cases stage with
    | idle empty made awake trials =>
      have start : max (terms.finish 0 passed) track.now = track.now := Nat.max_eq_right free
      refine .busy track.now (by simp [Track.put, rouse, empty]) (by simp [Track.put, rouse, made])
        (by simpa [Track.put, rouse, made] using tries) ?_ ?_ ?_
      · simp [Track.put, rouse, made, start]
      · simp [Track.put, rouse, made, trials]
      · simp [Track.put, rouse, awake]
    | busy due waiting failing spare due_eq trials turn =>
      refine .busy due (by simp [Track.put, rouse, waiting]) failing spare due_eq trials ?_
      rcases turn with ⟨ready, awake, now⟩ | ⟨resting, asleep⟩
      · exact .inl ⟨by simp [Track.put, rouse, ready], awake, now⟩
      · exact .inr ⟨by simp [Track.put, rouse, resting, asleep], asleep⟩
  earlier := by
    intro earlier present
    rcases List.mem_append.mp present with before | last
    · exact onTime.earlier earlier before
    · cases List.mem_singleton.mp last
      exact Nat.le_refl _
  ahead := onTime.ahead
  past := onTime.past

theorem onTime_rouse (onTime : OnTime terms intake track) : OnTime terms intake track.rouse where
  stage := by
    obtain ⟨passed, left, rfl, stage, free⟩ := onTime.stage
    refine ⟨passed, left, rfl, ?_, free⟩
    cases stage with
    | idle empty made awake trials => exact .idle empty made awake trials
    | busy due waiting failing spare due_eq trials turn =>
      refine .busy due waiting failing spare due_eq trials ?_
      rcases turn with ⟨ready, awake, now⟩ | ⟨resting, asleep⟩
      · exact .inl ⟨by simp [rouse, ready], awake, now⟩
      · exact .inr ⟨by simp [rouse, resting, asleep], asleep⟩
  earlier := onTime.earlier
  ahead := onTime.ahead
  past := onTime.past

theorem onTime_rest (empty : track.waiting = []) (onTime : OnTime terms intake track) :
    OnTime terms intake track.rest where
  stage := by
    obtain ⟨passed, left, rfl, stage, free⟩ := onTime.stage
    refine ⟨passed, left, rfl, ?_, free⟩
    cases stage with
    | idle empty made awake trials => exact .idle empty made awake trials
    | busy due waiting => simp [empty] at waiting
  earlier := onTime.earlier
  ahead := onTime.ahead
  past := onTime.past

theorem stage_last {trial : Trial} {left : List (Nat × Job)} (tries : 0 < terms.attempts)
    (ready : track.isReady = true) (awake : track.dues = [])
    (earlier : ∀ put ∈ left, put.1 ≤ track.now)
    (finish : terms.finish 0 passed = track.now)
    (trials : track.trials ++ [trial] = terms.schedule 0 passed) :
    Stage terms { track with
      waiting := left.map Prod.snd, made := 0, trials := track.trials ++ [trial] } passed left := by
  cases left with
  | nil => exact .idle rfl rfl awake trials
  | cons next rest =>
    have start : max (terms.finish 0 passed) next.1 = track.now := by
      have before := earlier next (List.mem_cons_self ..)
      omega
    refine .busy track.now rfl (Nat.zero_le _) tries (by simp [start]) ?_ (.inl ⟨ready, awake, rfl⟩)
    simp [trials]

theorem onTime_attempt {waiting : List Job} (tries : 0 < terms.attempts)
    (ready : track.isReady = true) (first : track.waiting = job :: waiting)
    (onTime : OnTime terms intake track) :
    OnTime terms intake (track.attempt terms job waiting) := by
  obtain ⟨passed, left, rfl, stage, free⟩ := onTime.stage
  cases stage with
  | idle empty => simp [empty] at first
  | @busy rest put other due wait failing spare due_eq trials turn =>
    obtain ⟨rfl, rfl⟩ := List.cons.inj (first.symm.trans wait)
    obtain ⟨_, awake, now⟩ : track.isReady = true ∧ track.dues = [] ∧ track.now = due :=
      turn.resolve_right fun asleep => by simp [ready] at asleep
    have attempts := attempt_attempts terms track job (rest.map Prod.snd)
    have past := attempt_past terms job (rest.map Prod.snd) onTime.past
    generalize track.attempt terms job (rest.map Prod.snd) = after at attempts past ⊢
    cases attempts with
    | last trial made ended =>
      have whole : min (job.failures + 1) terms.attempts = track.made + 1 := by omega
      have finish : terms.finish 0 (passed ++ [(put, job)]) = track.now := by
        rw [Terms.finish_append, Terms.finish, Terms.finish, Terms.span, whole, now, due_eq,
          Nat.add_sub_cancel]
      refine ⟨⟨passed ++ [(put, job)], rest, by simp, ?_, Nat.le_of_eq finish⟩, onTime.earlier,
        onTime.ahead, past⟩
      refine stage_last tries ready awake (fun other present => onTime.earlier other (by simp [present]))
        finish ?_
      rw [Terms.schedule_append, Terms.schedule, Terms.schedule, List.append_nil,
        Terms.trials_whole _ whole, trials, made, now, due_eq, List.append_assoc]
    | again trial made fails left soon =>
      refine ⟨⟨passed, (put, job) :: rest, rfl, ?_, free⟩, onTime.earlier, onTime.ahead, past⟩
      refine .busy due wait fails left (by simp [due_eq, soon]) ?_ (.inl ⟨ready, awake, now⟩)
      rw [Terms.trials_take _ (by omega), trials, made, now, due_eq, List.append_assoc]
    | later trial made fails left late =>
      have slept : track.dues ++ [track.now + terms.delay] = [due + terms.delay] := by
        rw [awake, now, List.nil_append]
      refine ⟨⟨passed, (put, job) :: rest, rfl, ?_, free⟩, onTime.earlier, ?_, past⟩
      · refine .busy (due + terms.delay) wait fails left ?_ ?_ (.inr ⟨rfl, slept⟩)
        · rw [due_eq, Nat.add_mul, Nat.one_mul, Nat.add_assoc]
        · rw [Terms.trials_take _ (by omega), trials, made, now, due_eq, List.append_assoc]
      · intro sleeps present
        rw [slept] at present
        cases List.mem_singleton.mp present
        show track.now < due + terms.delay
        omega

theorem onTime_fire {time : Nat} (resting : track.isReady = false) (passes : track.now ≤ time)
    (first : ∀ due ∈ track.dues, time ≤ due) (onTime : OnTime terms intake track) :
    OnTime terms intake (track.fire time) where
  stage := by
    obtain ⟨passed, left, rfl, stage, free⟩ := onTime.stage
    refine ⟨passed, left, rfl, ?_, Nat.le_trans free passes⟩
    cases stage with
    | idle empty made awake trials => exact .idle empty made (by simp [fire, awake]) trials
    | busy due waiting failing spare due_eq trials turn =>
      refine .busy due waiting failing spare due_eq trials ?_
      obtain ⟨_, asleep⟩ : track.isReady = false ∧ track.dues = [due] :=
        turn.resolve_left fun ready => by simp [resting] at ready
      have still := first due (by simp [asleep])
      by_cases wakes : due ≤ time
      · exact .inl ⟨by simp [fire, asleep, wakes], by simp [fire, asleep, wakes], Nat.le_antisymm still wakes⟩
      · exact .inr ⟨by simp [fire, resting, asleep, wakes],
          by simp [fire, asleep, Nat.lt_of_not_le wakes]⟩
  earlier := fun put present => Nat.le_trans (onTime.earlier put present) passes
  ahead := fun due present => of_decide_eq_true (List.mem_filter.mp present).2
  past := fun trial present => Nat.le_trans (onTime.past trial present) passes

theorem lives_onTime (tries : 0 < terms.attempts) (lives : Lives terms intake track) :
    OnTime terms intake track := by
  induction lives with
  | fresh => exact ⟨⟨[], [], rfl, .idle rfl rfl rfl rfl, Nat.le_refl _⟩, nofun, nofun, nofun⟩
  | put job _ ih => exact onTime_put job tries ih
  | rouse _ ih => exact onTime_rouse ih
  | rest empty _ ih => exact onTime_rest empty ih
  | attempt job rest ready first _ ih => exact onTime_attempt tries ready first ih
  | pass time resting passes first _ ih => exact onTime_fire resting passes first ih

end OnTime

-- Of the timetable that follows from what was put in, the attempts that are made are those that come
-- first. None of the others is late, nor is one due now unless the lane is ready.
theorem lives_schedule (tries : 0 < terms.attempts) (lives : Lives terms intake track) :
    ∃ later, terms.schedule 0 intake = track.trials ++ later ∧
      (∀ trial ∈ track.trials, trial.time ≤ track.now) ∧
      (∀ trial ∈ later, track.now ≤ trial.time) ∧
      (track.isReady = false → ∀ trial ∈ later, track.now < trial.time) ∧
      (track.waiting = [] → later = []) := by
  have onTime := lives_onTime tries lives
  obtain ⟨passed, left, rfl, stage, free⟩ := onTime.stage
  cases stage with
  | idle empty made awake trials =>
    exact ⟨[], by simp [trials], onTime.past, nofun, fun _ => nofun, fun _ => rfl⟩
  | @busy rest put job due waiting failing spare due_eq trials turn =>
    have split := List.take_append_drop track.made
      (terms.trials job (max (terms.finish 0 passed) put))
    refine ⟨(terms.trials job (max (terms.finish 0 passed) put)).drop track.made ++
        terms.schedule (max (terms.finish 0 passed) put + terms.span job) rest, ?_, onTime.past, ?_⟩
    · rw [Terms.schedule_append, Terms.schedule, trials, List.append_assoc,
        List.append_cancel_left_eq, ← List.append_assoc, split]
    · have after : ∀ trial ∈ (terms.trials job (max (terms.finish 0 passed) put)).drop track.made ++
          terms.schedule (max (terms.finish 0 passed) put + terms.span job) rest, due ≤ trial.time := by
        intro trial present
        rcases List.mem_append.mp present with here | there
        · exact due_eq ▸ Terms.trials_later _ _ trial here
        · refine Nat.le_trans ?_ (Terms.schedule_later _ _ trial there)
          rw [due_eq]
          exact Nat.add_le_add_left (Nat.mul_le_mul_right _ (by omega)) _
      refine ⟨fun trial present => ?_, fun resting trial present => ?_, fun empty => ?_⟩
      · refine Nat.le_trans ?_ (after trial present)
        rcases turn with ⟨_, _, now⟩ | ⟨_, asleep⟩
        · exact Nat.le_of_eq now
        · exact Nat.le_of_lt (onTime.ahead due (by simp [asleep]))
      · obtain ⟨_, asleep⟩ : track.isReady = false ∧ track.dues = [due] :=
          turn.resolve_left fun ready => by simp [resting] at ready
        exact Nat.lt_of_lt_of_le (onTime.ahead due (by simp [asleep])) (after trial present)
      · simp [empty] at waiting

end Track
end ActorDirectory
