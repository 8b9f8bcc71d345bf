import ActorDirectory.Proofs.Store.Recovery

-- The loop that calls a store again: how often it calls, what it makes of the outcomes, and how
-- long it waits.
namespace ActorDirectory

def Call.logged {σ ε α : Type} (call : Call σ ε α) : Call (σ × List (Except ε α)) ε α :=
  fun (store, log) => ((call store).1, (call store).2, log ++ [(call store).1])

namespace Retry

variable {σ α : Type} {retry : Retry} {call : Call σ BackendFault α} {store : σ}
  {outcomes : Nat → Except BackendFault α} {last : Nat}

def after (call : Call σ BackendFault α) (store : σ) : Nat → σ
  | 0 => store
  | made + 1 => (call (after call store made)).2

def outcome (call : Call σ BackendFault α) (store : σ) (made : Nat) : Except BackendFault α :=
  (call (after call store made)).1

-- The outcome that may be another one next time. Conflicts, stale conditions, missing entries and
-- values that cannot be read are none.
inductive Passes : Except BackendFault α → Prop where
  | unavailable (reason : String) : Passes (.error (.store (.unavailable reason)))

def limit (retry : Retry) : Nat := max retry.attempts 1

structure Needed (retry : Retry) (outcomes : Nat → Except BackendFault α) (last : Nat) : Prop where
  within : last < retry.limit
  earlier : ∀ number < last, Passes (outcomes number)
  ends : last + 1 = retry.limit ∨ ¬Passes (outcomes last)

def conclude (made : Nat) : Except BackendFault α → Except Fault α
  | .ok value => .ok value
  | .error (.store (.unavailable reason)) =>
    .error (.retriesExhausted made (.store (.unavailable reason)))
  | .error fault => .error (.backend fault)

inductive Pursues (retry : Retry) (call : Call σ BackendFault α) :
    Nat → σ → Timed (Except Fault α) × σ → Prop where
  | done {made : Nat} {store last : σ} {result : Except Fault α} :
      retry.resume call made store = (.done result, last) →
      Pursues retry call made store (⟨result, 0⟩, last)
  | again {made later : Nat} {store next last : σ} {result : Except Fault α} {waited : Nat} :
      retry.resume call made store = (.again later, next) →
      Pursues retry call later next (⟨result, waited⟩, last) →
      Pursues retry call made store (⟨result, retry.delay + waited⟩, last)

theorem passes_iff {fault : BackendFault} :
    Passes (.error fault : Except BackendFault α) ↔ fault.isTransient = true := by
  constructor
  · intro passes
    cases passes
    rfl
  · intro transient
    unfold BackendFault.isTransient at transient
    split at transient
    · exact .unavailable _
    · cases transient

theorem conclude_stays {fault : BackendFault}
    (stays : ¬Passes (.error fault : Except BackendFault α)) (made : Nat) :
    conclude made (.error fault : Except BackendFault α) = .error (.backend fault) := by
  unfold conclude
  split
  · rename_i same
    cases same
  · rename_i same
    cases same
    exact absurd (.unavailable _) stays
  · rename_i same
    cases same
    rfl

theorem limit_eq (retry : Retry) : retry.limit = retry.further + 1 := by
  unfold limit further
  omega

theorem needed_le {other : Nat} (needed : retry.Needed outcomes last)
    (otherNeeded : retry.Needed outcomes other) : last ≤ other := by
  apply Nat.le_of_not_lt
  intro before
  obtain atLimit | stays := otherNeeded.ends
  · have within := needed.within
    omega
  · exact stays (needed.earlier other before)

theorem needed_unique {other : Nat} (needed : retry.Needed outcomes last)
    (otherNeeded : retry.Needed outcomes other) : other = last :=
  Nat.le_antisymm (needed_le otherNeeded needed) (needed_le needed otherNeeded)

theorem runFrom_stays (stays : ¬Passes (call store).1) (further made : Nat) :
    runFrom call further made store =
      (conclude (made + 1) (call store).1, made + 1, (call store).2) := by
  unfold runFrom
  generalize call store = called at stays ⊢
  obtain ⟨result, next⟩ := called
  cases result with
  | ok value => rfl
  | error fault =>
    dsimp only
    rw [if_neg fun transient => stays (passes_iff.mpr transient), conclude_stays stays]

theorem runFrom_exhausted (passes : Passes (call store).1) (made : Nat) :
    runFrom call 0 made store =
      (conclude (made + 1) (call store).1, made + 1, (call store).2) := by
  unfold runFrom
  generalize call store = called at passes ⊢
  obtain ⟨result, next⟩ := called
  cases passes
  rfl

theorem runFrom_again (passes : Passes (call store).1) (further made : Nat) :
    runFrom call (further + 1) made store = runFrom call further (made + 1) (call store).2 := by
  rw [runFrom]
  generalize call store = called at passes ⊢
  obtain ⟨result, next⟩ := called
  cases passes
  rfl

theorem after_next (call : Call σ BackendFault α) (store : σ) (made : Nat) :
    after call (call store).2 made = after call store (made + 1) := by
  induction made with
  | zero => rfl
  | succ made ih =>
    unfold after
    rw [ih]

theorem outcome_next (call : Call σ BackendFault α) (store : σ) (made : Nat) :
    outcome call (call store).2 made = outcome call store (made + 1) := by
  unfold outcome
  rw [after_next]

-- By induction on the calls that may still be made. If the first one passes, the rest is the same
-- loop, begun with the store as the first has left it.
theorem runFrom_exact (call : Call σ BackendFault α) (further made : Nat) (store : σ) :
    ∃ last ≤ further, (∀ number < last, Passes (outcome call store number)) ∧
      (last = further ∨ ¬Passes (outcome call store last)) ∧
      runFrom call further made store = (conclude (made + last + 1) (outcome call store last),
        made + last + 1, after call store (last + 1)) := by
  induction further generalizing made store with
  | zero =>
    refine ⟨0, Nat.le_refl 0, fun _ before => absurd before (Nat.not_lt_zero _), .inl rfl, ?_⟩
    by_cases passes : Passes (call store).1
    · exact runFrom_exhausted passes made
    · exact runFrom_stays passes 0 made
  | succ further ih =>
    by_cases passes : Passes (call store).1
    · obtain ⟨last, within, earlier, ends, ran⟩ := ih (made + 1) (call store).2
      simp only [outcome_next, after_next] at earlier ends ran
      refine ⟨last + 1, Nat.succ_le_succ within, fun number before => ?_, ?_, ?_⟩
      · cases number with
        | zero => exact passes
        | succ number => exact earlier number (Nat.lt_of_succ_lt_succ before)
      · exact ends.imp_left (congrArg (· + 1))
      · rw [runFrom_again passes, ran, Nat.add_right_comm made 1 last, Nat.add_assoc made last 1]
    · refine ⟨0, Nat.zero_le _, fun _ before => absurd before (Nat.not_lt_zero _), .inr passes, ?_⟩
      exact runFrom_stays passes (further + 1) made

theorem run_needed (retry : Retry) (call : Call σ BackendFault α) (store : σ) :
    ∃ last, retry.Needed (outcome call store) last ∧ retry.run call store =
      (⟨conclude (last + 1) (outcome call store last), last * retry.delay⟩,
        after call store (last + 1)) := by
  obtain ⟨last, within, earlier, ends, ran⟩ := runFrom_exact call retry.further 0 store
  refine ⟨last, ⟨?_, earlier, ?_⟩, ?_⟩
  · rw [limit_eq]
    exact Nat.lt_succ_of_le within
  · rw [limit_eq]
    exact ends.imp_left (congrArg (· + 1))
  · unfold run
    rw [ran, Nat.zero_add]
    rfl

theorem after_logged (call : Call σ BackendFault α) (store : σ) (made : Nat) :
    after call.logged (store, []) made =
      (after call store made, (List.range made).map (outcome call store)) := by
  induction made with
  | zero => rfl
  | succ made ih =>
    rw [after, ih, List.range_succ, List.map_append]
    rfl

theorem outcome_logged (call : Call σ BackendFault α) (store : σ) :
    outcome call.logged (store, []) = outcome call store := by
  funext made
  unfold outcome
  rw [after_logged]
  rfl

theorem run_logged (needed : retry.Needed (outcome call store) last) :
    retry.run call.logged (store, []) =
      (⟨conclude (last + 1) (outcome call store last), last * retry.delay⟩,
        after call store (last + 1), (List.range (last + 1)).map (outcome call store)) := by
  obtain ⟨other, otherNeeded, ran⟩ := retry.run_needed call.logged (store, [])
  rw [outcome_logged] at otherNeeded ran
  rw [ran, needed_unique needed otherNeeded, after_logged]

theorem pursues_whole {made total : Nat} {result : Except Fault α} {next : σ}
    (resumed : retry.resume call made store = (.done result, next))
    (quick : retry.delay = 0 ∨ total = made + 1) :
    retry.Pursues call made store (⟨result, (total - (made + 1)) * retry.delay⟩, next) := by
  have none : (total - (made + 1)) * retry.delay = 0 := by
    obtain none | same := quick
    · rw [none, Nat.mul_zero]
    · rw [same, Nat.sub_self, Nat.zero_mul]
  rw [none]
  exact .done resumed

theorem pursues_runFrom (retry : Retry) (call : Call σ BackendFault α) (made : Nat) (store : σ) :
    let ended := runFrom call (retry.further - made) made store
    retry.Pursues call made store
      (⟨ended.1, (ended.2.1 - (made + 1)) * retry.delay⟩, ended.2.2) := by
  intro ended
  have part : Part retry call (retry.further - made) made store (retry.resume call made store) :=
    attempt_part ..
  generalize resumed : retry.resume call made store = reached at part
  cases part with
  | whole ran quick =>
    dsimp only [ended]
    rw [ran]
    exact pursues_whole resumed quick
  | @first less next slow more same =>
    have counted : retry.further - (made + 1) = less := by omega
    have later := pursues_runFrom retry call (made + 1) next
    have further := runFrom_made call less (made + 1) next
    rw [counted, ← same] at later
    rw [← same] at further
    have delays : ended.2.1 - (made + 1) = ended.2.1 - (made + 1 + 1) + 1 := by
      dsimp only [ended]
      omega
    rw [delays, Nat.add_mul, Nat.one_mul, Nat.add_comm]
    exact .again resumed later
termination_by retry.further - made

theorem pursues_run (retry : Retry) (call : Call σ BackendFault α) (store : σ) :
    retry.Pursues call 0 store (retry.run call store) :=
  pursues_runFrom retry call 0 store

-- Whatever the call would give from any store on, one number of calls is needed, and they are made
-- and no others, each with the store as the one before has left it. The last outcome is answered,
-- and a delay passes before each call but the first. The loop that gives way to others makes the
-- same calls.
theorem run_calls_as_needed (retry : Retry) (call : Call σ BackendFault α) (store : σ) :
    ∃ last, (∀ other, retry.Needed (outcome call store) other ↔ other = last) ∧
      let timed : Timed (Except Fault α) :=
        ⟨conclude (last + 1) (outcome call store last), last * retry.delay⟩
      let left := after call store (last + 1)
      let log := (List.range (last + 1)).map (outcome call store)
      retry.run call store = (timed, left) ∧
      retry.run call.logged (store, []) = (timed, left, log) ∧
      retry.Pursues call.logged 0 (store, []) (timed, left, log) := by
  obtain ⟨last, needed, ran⟩ := run_needed retry call store
  refine ⟨last, fun other => ⟨needed_unique needed, fun same => same ▸ needed⟩, ran,
    run_logged needed, ?_⟩
  have pursues := pursues_run retry call.logged (store, [])
  rwa [run_logged needed] at pursues

example : (⟨0, 100⟩ : Retry).run (fun calls => ((.error (.store (.unavailable "down")) :
    Except BackendFault Unit), calls + 1)) 0 =
      (⟨.error (.retriesExhausted 1 (.store (.unavailable "down"))), 0⟩, 1) := rfl

end Retry
end ActorDirectory
