import ActorDirectory.Proofs.Dispatch.Independence

namespace ActorDirectory

namespace Event

def isHopeless (terms : Terms) : Event Silo Job → Bool
  | attempted _ attempt isLast => isLast && decide (terms.attempts ≤ attempt.operation.failures)
  | _ => false

end Event

namespace Dispatch

variable {queues : JobQueues} {dispatch : Dispatch Silo Job Unit} {asked : List (Request Silo Job)}
  {events : List (Event Silo Job)} {log : List (Nat × Event Silo Job)} {number : Nat}

theorem requestEvents_unattempted (requests : List (Request Silo Job))
    (dispatch : Dispatch Silo Job Unit) {ticket : Ticket} {attempt : Attempt Silo Job}
    {isLast : Bool} : .attempted ticket attempt isLast ∉ dispatch.requestEvents requests := by
  intro present
  have none := List.filterMap_eq_nil_iff.mp (requestEvents_attempts requests dispatch) _ present
  cases none

theorem turn_last (number : Nat) (attended : dispatch.Attended queues.rules) :
    ∀ ticket attempt, .attempted ticket attempt true ∈ dispatch.turnEvents queues.rules number →
      attempt.succeeded = decide (attempt.operation.failures < queues.terms.attempts) := by
  intro ticket attempt present
  have turns := turn_turns queues.rules number (attended.live number)
  generalize dispatch.turnEvents queues.rules number = told at turns present
  generalize dispatch.turn queues.rules number = after at turns
  cases turns with
  | missing => cases present
  | rests => cases present
  | succeeds lane job rest result made found first performed made_eq succeeded =>
    rcases List.mem_cons.mp present with same | later
    · cases same
      have performed : result = job.perform lane.made := performed
      subst performed
      have ended : job.failures ≤ lane.made :=
        of_decide_eq_true ((job.perform_succeeded lane.made).symm.trans succeeded)
      have within : lane.made < queues.terms.attempts := attended.spare number lane found
      rw [made_eq, succeeded]
      exact (decide_eq_true (Nat.lt_of_le_of_lt ended within)).symm
    · exact absurd later (requestEvents_unattempted _ _)
  | retries lane job rest result made => simp at present
  | sleeps lane job rest result made => simp at present
  | drops lane job rest result made found first performed made_eq failed ended =>
    cases List.mem_singleton.mp present
    have performed : result = job.perform lane.made := performed
    subst performed
    have fails : ¬job.failures ≤ lane.made :=
      of_decide_eq_false ((job.perform_succeeded lane.made).symm.trans failed)
    have ended : queues.terms.attempts ≤ lane.made + 1 := ended
    rw [made_eq, failed]
    refine (decide_eq_false (Nat.not_lt.mpr ?_)).symm
    show queues.terms.attempts ≤ job.failures
    omega

theorem recorded_last (tries : 0 < queues.rules.attempts)
    (recorded : Recorded queues.rules asked events dispatch) :
    ∀ ticket attempt, .attempted ticket attempt true ∈ events →
      attempt.succeeded = decide (attempt.operation.failures < queues.terms.attempts) := by
  induction recorded with
  | fresh => exact nofun
  | asked request _ ih =>
    intro ticket attempt present
    rcases List.mem_append.mp present with before | last
    · exact ih ticket attempt before
    · cases request <;> cases List.mem_singleton.mp last
  | turn number earlier ih =>
    intro ticket attempt present
    rcases List.mem_append.mp present with before | last
    · exact ih ticket attempt before
    · exact turn_last number (recorded_attended tries earlier) ticket attempt last
  | pass _ _ ih => exact ih

theorem recorded_hopeless (tries : 0 < queues.rules.attempts)
    (recorded : Recorded queues.rules asked events dispatch) :
    dispatch.tally Lane.dropped = events.countP (Event.isHopeless queues.terms) := by
  rw [recorded_dropped recorded]
  refine List.countP_congr fun event present => ?_
  cases event with
  | attempted ticket attempt isLast =>
    cases isLast with
    | false => exact Iff.rfl
    | true =>
      have last := recorded_last tries recorded ticket attempt present
      simp [Event.isDrop, Event.isHopeless, last]
  | _ => exact Iff.rfl

-- Every lane keeps its timetable. Its attempts are those that come first in it, none of the others
-- is late, nor is one due now when no lane is ready, and none is left when nothing waits in the
-- lane. What was put in has succeeded, or is dropped, or waits, and what is dropped are the jobs that
-- are over and fail more often than they are attempted.
structure Punctual (terms : Terms) (log : List (Nat × Event Silo Job))
    (dispatch : Dispatch Silo Job Unit) : Prop where
  onTime : ∀ number, ∃ later,
    terms.schedule 0 (intake number log) = (dispatch.track number).trials ++ later ∧
      (∀ trial ∈ (dispatch.track number).trials, trial.time ≤ dispatch.now) ∧
      (∀ trial ∈ later, dispatch.now ≤ trial.time) ∧
      (dispatch.ready = [] → ∀ trial ∈ later, dispatch.now < trial.time) ∧
      (∀ lane, dispatch.lanes[number]? = some lane → lane.waiting = [] → later = [])
  counted : dispatch.accepted (fun _ => true) =
    (log.map Prod.snd).countP (Event.isAccepted fun _ => true)
  balanced : dispatch.accepted (fun _ => true) = (log.map Prod.snd).countP Event.isSuccess +
    dispatch.tally Lane.dropped + dispatch.tally fun lane => lane.waiting.length
  dropped : dispatch.tally Lane.dropped = (log.map Prod.snd).countP (Event.isHopeless terms)

theorem timed_punctual (tries : 0 < queues.rules.attempts)
    (timed : Timed queues.rules asked log dispatch) : Punctual queues.terms log dispatch where
  onTime := fun number => by
    obtain ⟨later, whole, past, ahead, beyond, done⟩ :=
      Track.lives_schedule tries (timed_lives timed number)
    refine ⟨later, whole, past, ahead, fun rest => beyond (by simp [track, rest]),
      fun lane found empty => done (by simp [track, found, empty])⟩
  counted := recorded_accepted (timed_recorded timed) _
  balanced := by
    rw [recorded_accepted (timed_recorded timed), recorded_dropped (timed_recorded timed)]
    exact recorded_balance (timed_recorded timed)
  dropped := recorded_hopeless tries (timed_recorded timed)

end Dispatch

namespace JobQueues

open Dispatch (Timed Punctual)

-- Every script, and in whatever order lanes take their turns, keeps to the timetable, which for one
-- target does not depend on what is put in for others that leave it alone.
theorem keeps_timetable (attempts delay : Nat) :
    (∀ script, ∃ log, Timed (empty attempts delay).rules (script.filterMap JobStep.request?) log
        ((empty attempts delay).play script).dispatch) ∧
      (∀ asked log dispatch, Timed (empty attempts delay).rules asked log dispatch →
        Punctual ⟨max attempts 1, delay⟩ log dispatch) ∧
      ∀ target script, (∀ step ∈ script, step.Spares target) →
        ((empty attempts delay).play script).dispatch.trialsFor target =
          ((empty attempts delay).play
            (alone target (empty attempts delay) script)).dispatch.trialsFor target := by
  have affordable := affordable attempts delay
  have fresh : Timed (empty attempts delay).rules [] [] (empty attempts delay).dispatch := .fresh ()
  refine ⟨fun script => ?_, fun asked log dispatch timed => ?_, fun target script spares => ?_⟩
  · obtain ⟨log, timed⟩ := play_timed script rfl affordable fresh
    exact ⟨log, timed⟩
  · exact Dispatch.timed_punctual affordable.tries timed
  · have reached : (empty attempts delay).Reached ⟨max attempts 1, delay⟩ target :=
      ⟨rfl, rfl, affordable, ⟨_, _, fresh⟩, ⟨nofun, nofun⟩⟩
    exact play_alone script spares reached reached rfl

def staggered (own other : Silo) : List JobStep :=
  [.enqueue own (.mk "first" 1 [(own, .mk "hopeless" 5 []), (other, .mk "far" 0 [])]),
    .enqueue own (.mk "second" 0 []), .enqueue other (.mk "slow" 3 []), .sleep 50,
    .enqueue own (.mk "late" 0 []), .quiesce]

theorem staggered_spares (own other : Silo) : ∀ step ∈ staggered own other, step.Spares own := by
  have single : ∀ place name failures, Job.Apart own place (.mk name failures []) :=
    fun _ _ _ => .mk _ _ nofun nofun
  simp only [staggered, List.forall_mem_cons, JobStep.Spares, single, true_and]
  refine ⟨.mk _ _ (fun _ _ _ => rfl) fun next follows => ?_, nofun⟩
  simp only [Job.follow, List.mem_cons, List.not_mem_nil, or_false] at follows
  rcases follows with rfl | rfl <;> exact single _ _ _

theorem staggered_timetable :
    let own : Silo := ⟨.v4 ⟨10, 0, 0, 1⟩, 100, 1⟩
    let script := staggered own ⟨.v4 ⟨10, 0, 0, 2⟩, 100, 1⟩
    let queues := (empty 2 100).play script
    (∃ log, Timed (empty 2 100).rules (script.filterMap JobStep.request?) log queues.dispatch ∧
        Punctual ⟨2, 100⟩ log queues.dispatch) ∧
      queues.dispatch.trialsFor own =
        ((empty 2 100).play (alone own (empty 2 100) script)).dispatch.trialsFor own ∧
      (queues.dispatch.trialsFor own).map (fun trial => (trial.job.name, trial.time, trial.succeeded)) =
        [("first", 0, false), ("first", 100, true), ("second", 100, true), ("late", 100, true),
          ("hopeless", 100, false), ("hopeless", 200, false)] ∧
      queues.dropped = 2 := by
  intro own script queues
  obtain ⟨scripts, punctual, independent⟩ := keeps_timetable 2 100
  obtain ⟨log, timed⟩ := scripts script
  exact ⟨⟨log, timed, punctual _ _ _ timed⟩, independent own script (staggered_spares _ _),
    by decide, by decide⟩

end JobQueues
end ActorDirectory
