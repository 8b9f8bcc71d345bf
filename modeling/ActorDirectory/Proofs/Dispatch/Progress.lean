import ActorDirectory.Proofs.Dispatch.Attendance

-- Lanes come to rest. Every turn of a ready lane uses up some of the work that is there, so that
-- no loop of the clock stops before it is done.
namespace ActorDirectory

def Request.price {κ ω : Type} (cost : κ → ω → Nat) : Request κ ω → Nat
  | enqueue key operation => cost key operation + 2
  | close _ => 0

-- An operation pays for its attempts and for all that it asks for, and none makes another dearer.
structure Rules.Affordable {κ ω σ : Type} (rules : Rules κ ω σ) : Prop where
  tries : 0 < rules.attempts
  covers : ∀ world key operation, rules.attempts ≤ rules.cost world key operation
  pays : ∀ world key operation made result, result = rules.perform world key operation made →
    result.succeeded = true →
      rules.attempts + total (result.requests.map (Request.price (rules.cost result.world))) ≤
        rules.cost world key operation
  steady : ∀ world key operation made key' operation',
    rules.cost (rules.perform world key operation made).world key' operation' ≤
      rules.cost world key' operation'

@[simp] theorem total_nil : total [] = 0 := rfl

@[simp] theorem total_cons (count : Nat) (counts : List Nat) :
    total (count :: counts) = count + total counts := rfl

@[simp] theorem total_append (counts others : List Nat) :
    total (counts ++ others) = total counts + total others := by
  induction counts with
  | nil => simp
  | cons count rest ih => simp [ih, Nat.add_assoc]

theorem total_map_mono {α : Type} {measure other : α → Nat} (items : List α)
    (less : ∀ item ∈ items, measure item ≤ other item) :
    total (items.map measure) ≤ total (items.map other) := by
  induction items with
  | nil => exact Nat.le_refl _
  | cons item rest ih =>
    exact Nat.add_le_add (less item (List.mem_cons_self ..))
      (ih fun later present => less later (List.mem_cons_of_mem _ present))

theorem total_set {α : Type} (measure : α → Nat) {items : List α} {number : Nat} {found : α}
    (changed : α) (present : items[number]? = some found) :
    total ((items.set number changed).map measure) + measure found =
      total (items.map measure) + measure changed := by
  induction items generalizing number with
  | nil => cases present
  | cons item rest ih =>
    cases number with
    | zero =>
      cases present
      simp only [List.set_cons_zero, List.map_cons, total_cons]
      omega
    | succ number =>
      have later := ih present
      simp only [List.set_cons_succ, List.map_cons, total_cons]
      omega

namespace Lane

variable {κ ω : Type} {lanes after : List (Lane κ ω)} {number : Nat} {lane found base : Lane κ ω}
  {key : κ} {ticket : Ticket}

theorem Put.append_eq (put : Put lanes lanes.length lane after) : after = lanes ++ [lane] := by
  refine List.ext_getElem? fun place => ?_
  by_cases here : place = lanes.length
  · subst here
    simp [put.here]
  · rw [put.elsewhere place here]
    rcases Nat.lt_or_gt_of_ne here with before | beyond
    · rw [List.getElem?_append_left before]
    · rw [List.getElem?_eq_none (Nat.le_of_lt beyond), List.getElem?_eq_none (by simp; omega)]

theorem Room.total_put (measure : Lane κ ω → Nat) (nothing : measure { key } = 0)
    (room : Room lanes key ticket base) (put : Put lanes ticket.lane lane after) :
    total (after.map measure) + measure base = total (lanes.map measure) + measure lane := by
  cases room with
  | found here =>
    rw [put.set_eq here]
    exact total_set measure lane here
  | fresh => simp [put.append_eq, nothing]

def weight (cost : κ → ω → Nat) (lane : Lane κ ω) : Nat :=
  lane.work cost + lane.isOpen.toNat

theorem weight_mono {cost dearer : κ → ω → Nat}
    (less : ∀ key operation, cost key operation ≤ dearer key operation) (lane : Lane κ ω) :
    lane.weight cost ≤ lane.weight dearer := by
  have costs := total_map_mono lane.waiting fun operation _ => less lane.key operation
  simp only [weight, work]
  omega

theorem push_weight (cost : κ → ω → Nat) (lane : Lane κ ω) (operation : ω) :
    (lane.push operation).weight cost ≤ lane.weight cost + cost lane.key operation := by
  simp only [weight, work, push, List.map_append, List.map_cons, List.map_nil, total_append,
    total_cons, total_nil]
  omega

end Lane

namespace Dispatch

open Lane (Put Room)

variable {κ ω σ : Type} {rules : Rules κ ω σ} {dispatch after : Dispatch κ ω σ} {number : Nat}

theorem work_eq (rules : Rules κ ω σ) (dispatch : Dispatch κ ω σ) : dispatch.work rules =
    total (dispatch.lanes.map (Lane.weight (rules.cost dispatch.world))) +
      dispatch.ready.length + dispatch.asleep.length := by
  have lanes : ∀ lanes : List (Lane κ ω),
      total (lanes.map (·.work (rules.cost dispatch.world))) + (lanes.filter (·.isOpen)).length =
        total (lanes.map (Lane.weight (rules.cost dispatch.world))) := by
    intro lanes
    induction lanes with
    | nil => rfl
    | cons lane rest ih =>
      simp only [List.map_cons, total_cons, List.filter_cons, Lane.weight, ← ih]
      cases lane.isOpen <;> simp <;> omega
  rw [work, lanes]

theorem tried_work (changed : Lane κ ω) {world : σ} (attempt : Attempt κ ω)
    (ready : number ∈ dispatch.ready) (found : dispatch.lanes[number]? = some lane)
    (steady : ∀ key operation, rules.cost world key operation ≤
      rules.cost dispatch.world key operation) :
    (dispatch.tried number changed world attempt).work rules +
        lane.weight (rules.cost dispatch.world) ≤
      dispatch.work rules + changed.weight (rules.cost dispatch.world) := by
  have moved := total_set (Lane.weight (rules.cost dispatch.world)) changed found
  have cheaper := total_map_mono (dispatch.lanes.set number changed)
    fun lane _ => lane.weight_mono steady
  have length := List.length_erase_of_mem ready
  have nonempty := List.length_pos_of_mem ready
  simp only [work_eq, tried, List.length_cons]
  omega

theorem work_first (lane : Lane κ ω) {cost : κ → ω → Nat} (first : lane.waiting = operation :: rest)
    (within : lane.made ≤ cost lane.key operation) :
    lane.work cost + lane.made = cost lane.key operation + total (rest.map (cost lane.key)) := by
  simp only [Lane.work, first, List.map_cons, total_cons]
  omega

theorem fire_work (rules : Rules κ ω σ) (dispatch : Dispatch κ ω σ) (time : Nat) :
    (dispatch.fire time).work rules = dispatch.work rules := by
  have parted : ∀ asleep : List (Nat × Nat), (asleep.filter (·.2 ≤ time)).length +
      (asleep.filter (time < ·.2)).length = asleep.length := by
    intro asleep
    induction asleep with
    | nil => rfl
    | cons sleeper rest ih =>
      by_cases now : sleeper.2 ≤ time
      · simp [now, Nat.not_lt.mpr now, ← ih]
        omega
      · simp [now, Nat.lt_of_not_le now, ← ih]
        omega
  have both := parted dispatch.asleep
  simp only [work_eq, fire, List.length_append, List.length_map]
  omega

-- What is left of the work, with one for time to pass where no lane is ready.
def effort (rules : Rules κ ω σ) (dispatch : Dispatch κ ω σ) : Nat :=
  dispatch.work rules + if dispatch.ready.isEmpty then 1 else 0

theorem effort_pos (rules : Rules κ ω σ) (dispatch : Dispatch κ ω σ) :
    0 < dispatch.effort rules := by
  cases ready : dispatch.ready with
  | nil => exact Nat.lt_of_lt_of_le Nat.zero_lt_one (by simp [effort, ready])
  | cons number rest =>
    refine Nat.lt_of_lt_of_le ?_ (Nat.le_add_right _ _)
    rw [work_eq, ready, List.length_cons]
    omega

theorem effort_le (rules : Rules κ ω σ) (dispatch : Dispatch κ ω σ) :
    dispatch.effort rules ≤ dispatch.work rules + 1 := by
  simp only [effort]
  split <;> omega

theorem nextDue_none (none : dispatch.nextDue? = none) : dispatch.asleep = [] := by
  simpa [nextDue?] using none

theorem nextDue_some {due : Nat} (next : dispatch.nextDue? = some due) :
    (∃ number, (number, due) ∈ dispatch.asleep) ∧ ∀ sleeper ∈ dispatch.asleep, due ≤ sleeper.2 := by
  obtain ⟨present, least⟩ := List.min?_eq_some_iff.mp next
  obtain ⟨⟨number, _⟩, here, rfl⟩ := List.mem_map.mp present
  exact ⟨⟨number, here⟩, fun sleeper asleep => least _ (List.mem_map.mpr ⟨sleeper, asleep, rfl⟩)⟩

variable [DecidableEq κ]

theorem enqueue_work (rules : Rules κ ω σ) (dispatch : Dispatch κ ω σ) (key : κ) (operation : ω) :
    (dispatch.enqueue key operation).work rules ≤
      dispatch.work rules + rules.cost dispatch.world key operation + 2 := by
  obtain ⟨roused, _⟩ := enqueue_roused dispatch key operation
  obtain ⟨base, room, put⟩ := enqueue_room dispatch key operation
  have ready := roused.length
  rw [work_eq, work_eq, roused.world, roused.asleep]
  have pushed := base.push_weight (rules.cost dispatch.world) operation
  rw [room.key_eq] at pushed
  generalize dispatch.ticketFor key = ticket at room put
  have lanes : total ((dispatch.enqueue key operation).lanes.map
      (Lane.weight (rules.cost dispatch.world))) ≤ total (dispatch.lanes.map
        (Lane.weight (rules.cost dispatch.world))) + rules.cost dispatch.world key operation + 1 := by
    cases room with
    | found here =>
      have changed := total_set (Lane.weight (rules.cost dispatch.world)) (base.push operation) here
      have set := put.set_eq here
      dsimp only at set
      rw [set]
      omega
    | fresh =>
      have opened : Lane.weight (rules.cost dispatch.world) ({ key } : Lane κ ω) = 1 := rfl
      simp only [put.append_eq, List.map_append, List.map_cons, List.map_nil, total_append,
        total_cons, total_nil]
      omega
  omega

theorem close_work (rules : Rules κ ω σ) (dispatch : Dispatch κ ω σ) (key : κ) :
    (dispatch.close key).work rules ≤ dispatch.work rules := by
  have roused := close_roused dispatch key
  rcases close_lanes dispatch key with ⟨same, _⟩ | ⟨number, lane, here, _, isOpen, put⟩
  · exact Nat.le_of_eq (congrArg (work rules) same)
  · have ready := roused.length
    rw [work_eq, work_eq, roused.world, roused.asleep, put.set_eq here]
    have changed := total_set (Lane.weight (rules.cost dispatch.world))
      { lane with isOpen := false } here
    have lighter : Lane.weight (rules.cost dispatch.world) { lane with isOpen := false } + 1 =
        lane.weight (rules.cost dispatch.world) := by
      simp [Lane.weight, isOpen, Lane.work]
    omega

theorem requestAll_work (rules : Rules κ ω σ) (dispatch : Dispatch κ ω σ)
    (requests : List (Request κ ω)) :
    (dispatch.requestAll requests).work rules ≤
      dispatch.work rules + total (requests.map (Request.price (rules.cost dispatch.world))) := by
  induction requests generalizing dispatch with
  | nil => exact Nat.le_refl _
  | cons request rest ih =>
    have later := ih (dispatch.request request)
    rw [(request_roused dispatch request).world] at later
    refine Nat.le_trans later ?_
    cases request with
    | enqueue key operation =>
      have first := enqueue_work rules dispatch key operation
      simp only [List.map_cons, total_cons, Request.price, Dispatch.request]
      omega
    | close key =>
      have first := close_work rules dispatch key
      simp only [List.map_cons, total_cons, Request.price, Dispatch.request]
      omega

theorem turn_work (affordable : rules.Affordable) (attended : dispatch.Attended rules)
    (ready : number ∈ dispatch.ready) :
    (dispatch.turn rules number).work rules < dispatch.work rules := by
  have length := List.length_erase_of_mem ready
  have nonempty := List.length_pos_of_mem ready
  have within : ∀ (lane : Lane κ ω) operation, dispatch.lanes[number]? = some lane →
      lane.made < rules.cost dispatch.world lane.key operation := fun lane operation found =>
    Nat.lt_of_lt_of_le (attended.spare number lane found) (affordable.covers _ _ _)
  have turns := turn_turns rules number (attended.live number)
  generalize dispatch.turnEvents rules number = told at turns
  generalize dispatch.turn rules number = after at turns ⊢
  cases turns with
  | missing =>
    simp only [work_eq]
    omega
  | rests lane found =>
    have same : lane.rest.weight (rules.cost dispatch.world) =
        lane.weight (rules.cost dispatch.world) := rfl
    have kept := total_set (Lane.weight (rules.cost dispatch.world)) lane.rest found
    simp only [work_eq]
    omega
  | succeeds lane operation rest result attempt found first performed _ succeeded =>
    subst performed
    have asked := requestAll_work rules (dispatch.tried number lane.advance
      (rules.perform dispatch.world lane.key operation lane.made).world attempt)
      (rules.perform dispatch.world lane.key operation lane.made).requests
    have moved := tried_work lane.advance attempt ready found
      fun key other => affordable.steady dispatch.world lane.key operation lane.made key other
    have paid := affordable.pays _ _ _ _ _ rfl succeeded
    have spare := attended.spare number lane found
    have whole := work_first lane first (Nat.le_of_lt (within lane operation found))
    have left : lane.advance.work (rules.cost dispatch.world) =
        total (rest.map (rules.cost dispatch.world lane.key)) := by
      simp [Lane.work, Lane.advance, first]
    have sameDoor : lane.advance.isOpen = lane.isOpen := rfl
    simp only [Lane.weight, sameDoor] at moved
    simp only [tried] at asked moved
    simp only [tried]
    omega
  | retries lane operation rest result attempt found first performed =>
    subst performed
    have moved := tried_work { lane with made := lane.made + 1 } attempt ready found
      fun key other => affordable.steady dispatch.world lane.key operation lane.made key other
    have lower := within lane operation found
    have whole := work_first lane first (Nat.le_of_lt lower)
    have next := work_first { lane with made := lane.made + 1 } first lower
    simp only [Lane.weight] at moved next
    omega
  | sleeps lane operation rest result attempt found first performed =>
    subst performed
    have moved := tried_work { lane with made := lane.made + 1 } attempt ready found
      fun key other => affordable.steady dispatch.world lane.key operation lane.made key other
    have lower := within lane operation found
    have whole := work_first lane first (Nat.le_of_lt lower)
    have next := work_first { lane with made := lane.made + 1 } first lower
    simp only [Lane.weight] at moved next
    simp only [work_eq, tried, List.length_cons, List.length_append, List.length_nil] at moved ⊢
    omega
  | drops lane operation rest result attempt found first performed =>
    subst performed
    have moved := tried_work lane.drop attempt ready found
      fun key other => affordable.steady dispatch.world lane.key operation lane.made key other
    have lower := within lane operation found
    have whole := work_first lane first (Nat.le_of_lt lower)
    have left : lane.drop.work (rules.cost dispatch.world) =
        total (rest.map (rules.cost dispatch.world lane.key)) := by
      simp [Lane.work, Lane.drop, Lane.advance, first]
    have sameDoor : lane.drop.isOpen = lane.isOpen := rfl
    simp only [Lane.weight, sameDoor] at moved
    omega

-- What happens while nothing is asked for: ready lanes take their turns in any order, and when
-- none is ready time passes, at most until the first lane is to wake.
inductive Proceeds (rules : Rules κ ω σ) : Dispatch κ ω σ → Dispatch κ ω σ → Prop where
  | done {dispatch : Dispatch κ ω σ} : Proceeds rules dispatch dispatch
  | turn {dispatch after : Dispatch κ ω σ} (number : Nat) : number ∈ dispatch.ready →
      Proceeds rules (dispatch.turn rules number) after → Proceeds rules dispatch after
  | pass {dispatch after : Dispatch κ ω σ} (time : Nat) : dispatch.ready = [] →
      dispatch.now ≤ time → (∀ sleeper ∈ dispatch.asleep, time ≤ sleeper.2) →
      Proceeds rules (dispatch.fire time) after → Proceeds rules dispatch after

theorem proceeds_trans (one : Proceeds rules dispatch middle) (two : Proceeds rules middle after) :
    Proceeds rules dispatch after := by
  induction one with
  | done => exact two
  | turn number ready _ ih => exact .turn number ready (ih two)
  | pass time rest later first _ ih => exact .pass time rest later first (ih two)

theorem proceeds_attended (tries : 0 < rules.attempts) (proceeds : Proceeds rules dispatch after)
    (attended : dispatch.Attended rules) : after.Attended rules := by
  induction proceeds with
  | done => exact attended
  | turn number _ _ ih => exact ih (attended_turn number tries attended)
  | pass time _ _ _ _ ih => exact ih (attended_fire time attended)

theorem proceeds_work (affordable : rules.Affordable) (proceeds : Proceeds rules dispatch after)
    (attended : dispatch.Attended rules) :
    after.work rules < dispatch.work rules ∨
      after.work rules = dispatch.work rules ∧ after.lanes = dispatch.lanes := by
  induction proceeds with
  | done => exact .inr ⟨rfl, rfl⟩
  | turn number ready _ ih =>
    have less := turn_work affordable attended ready
    rcases ih (attended_turn number affordable.tries attended) with later | ⟨same, _⟩
    · exact .inl (Nat.lt_trans later less)
    · exact .inl (same ▸ less)
  | @pass dispatch _ time _ _ _ _ ih =>
    rw [← fire_work rules dispatch time]
    exact ih (attended_fire time attended)

theorem steps_proceeds (fuel : Nat) (dispatch : Dispatch κ ω σ) :
    Proceeds rules dispatch (steps rules fuel dispatch) := by
  induction fuel generalizing dispatch with
  | zero => exact .done
  | succ fuel ih =>
    rw [steps]
    cases ready : dispatch.ready with
    | nil => exact .done
    | cons number rest =>
      simp only [List.isEmpty_cons, Bool.false_eq_true, ↓reduceIte]
      rw [step_turn rules ready]
      exact .turn number (ready ▸ List.mem_cons_self ..) (ih _)

theorem steps_rest (affordable : rules.Affordable) (fuel : Nat)
    (attended : dispatch.Attended rules) (enough : dispatch.work rules < fuel) :
    (steps rules fuel dispatch).ready = [] := by
  induction fuel generalizing dispatch with
  | zero => exact absurd enough (Nat.not_lt_zero _)
  | succ fuel ih =>
    rw [steps]
    cases ready : dispatch.ready with
    | nil => simpa using ready
    | cons number rest =>
      simp only [List.isEmpty_cons, Bool.false_eq_true, ↓reduceIte]
      rw [step_turn rules ready]
      have less := turn_work affordable attended (ready ▸ List.mem_cons_self ..)
      exact ih (attended_turn number affordable.tries attended) (by omega)

theorem quiet_rests (affordable : rules.Affordable) (attended : dispatch.Attended rules) :
    Proceeds rules dispatch (dispatch.quiet rules) ∧ (dispatch.quiet rules).ready = [] ∧
      (dispatch.quiet rules).work rules < dispatch.effort rules := by
  have proceeds : Proceeds rules dispatch (dispatch.quiet rules) := steps_proceeds _ dispatch
  have rest : (dispatch.quiet rules).ready = [] :=
    steps_rest affordable _ attended (Nat.lt_succ_self _)
  refine ⟨proceeds, rest, ?_⟩
  cases ready : dispatch.ready with
  | nil =>
    rw [effort, ready, quiet, steps, ready]
    exact Nat.lt_succ_self _
  | cons number others =>
    have less : (dispatch.quiet rules).work rules < dispatch.work rules := by
      have first := turn_work affordable attended (ready ▸ List.mem_cons_self ..)
      have later := proceeds_work affordable
        (steps_proceeds (dispatch.work rules) (dispatch.turn rules number))
        (attended_turn number affordable.tries attended)
      have begins : dispatch.quiet rules =
          steps rules (dispatch.work rules) (dispatch.turn rules number) := by
        rw [quiet, steps, ready, ← step_turn rules ready]
        rfl
      rw [begins]
      rcases later with less | ⟨same, _⟩ <;> omega
    exact Nat.lt_of_lt_of_le less (Nat.le_add_right _ _)

theorem wakes {due : Nat} (attended : dispatch.Attended rules) (rest : dispatch.ready = [])
    (next : dispatch.nextDue? = some due) :
    Proceeds rules dispatch (dispatch.fire due) ∧
      (dispatch.fire due).effort rules = dispatch.work rules := by
  obtain ⟨⟨number, here⟩, least⟩ := nextDue_some next
  refine ⟨.pass due rest (Nat.le_of_lt (attended.ahead _ here)) least .done, ?_⟩
  have woken : number ∈ (dispatch.fire due).ready := by
    refine List.mem_append_right _ (List.mem_map.mpr ⟨(number, due), ?_, rfl⟩)
    simp [here]
  have awake : (dispatch.fire due).ready.isEmpty = false :=
    List.isEmpty_eq_false_iff.mpr (List.ne_nil_of_mem woken)
  simp [effort, awake, fire_work]

theorem quiet_now (dispatch : Dispatch κ ω σ) : (dispatch.quiet rules).now = dispatch.now := by
  have each : ∀ fuel (dispatch : Dispatch κ ω σ), (steps rules fuel dispatch).now = dispatch.now := by
    intro fuel
    induction fuel with
    | zero => exact fun _ => rfl
    | succ fuel ih =>
      intro dispatch
      rw [steps]
      cases ready : dispatch.ready with
      | nil => rfl
      | cons number rest =>
        simp only [List.isEmpty_cons, Bool.false_eq_true, ↓reduceIte]
        rw [step_turn rules ready, ih, turn_now]
  exact each _ dispatch

theorem runsBefore_ends (affordable : rules.Affordable) (limit fuel : Nat)
    (attended : dispatch.Attended rules) (early : dispatch.now ≤ limit)
    (enough : dispatch.effort rules ≤ fuel) :
    Proceeds rules dispatch (runsBefore rules limit fuel dispatch) ∧
      (runsBefore rules limit fuel dispatch).ready = [] ∧
      (runsBefore rules limit fuel dispatch).now ≤ limit ∧
      ∀ sleeper ∈ (runsBefore rules limit fuel dispatch).asleep, limit ≤ sleeper.2 := by
  induction fuel generalizing dispatch with
  | zero => exact absurd (effort_pos rules dispatch) (Nat.not_lt.mpr enough)
  | succ fuel ih =>
    obtain ⟨proceeds, rest, less⟩ := quiet_rests affordable attended
    have later := proceeds_attended affordable.tries proceeds attended
    have now : (dispatch.quiet rules).now ≤ limit := (quiet_now dispatch).symm ▸ early
    rw [runsBefore]
    split
    · rename_i none
      refine ⟨proceeds, rest, now, fun sleeper present => ?_⟩
      rw [nextDue_none none] at present
      exact absurd present List.not_mem_nil
    · rename_i due next
      obtain ⟨passes, left⟩ := wakes later rest next
      split
      · rename_i soon
        obtain ⟨goes, ends⟩ := ih (attended_fire due later) (Nat.le_of_lt soon) (by omega)
        exact ⟨proceeds_trans proceeds (proceeds_trans passes goes), ends⟩
      · rename_i late
        refine ⟨proceeds, rest, now, fun sleeper present => ?_⟩
        exact Nat.le_trans (Nat.le_of_not_lt late) ((nextDue_some next).2 sleeper present)

theorem sleep_ends (affordable : rules.Affordable) (duration : Nat)
    (attended : dispatch.Attended rules) :
    Proceeds rules dispatch (dispatch.sleep rules duration) ∧
      (dispatch.sleep rules duration).ready = [] ∧
      (dispatch.sleep rules duration).now = dispatch.now + duration := by
  obtain ⟨goes, rest, early, due⟩ := runsBefore_ends affordable (dispatch.now + duration)
    (dispatch.work rules + 1) attended (Nat.le_add_right _ _) (effort_le rules dispatch)
  have advances : Proceeds rules dispatch
      (dispatch.advanceTo rules (dispatch.now + duration)) :=
    proceeds_trans goes (.pass _ rest early due .done)
  obtain ⟨ends, quiet, _⟩ :=
    quiet_rests affordable (proceeds_attended affordable.tries advances attended)
  exact ⟨proceeds_trans advances ends, quiet, quiet_now _⟩

end Dispatch

theorem Job.costs_eq (attempts : Nat) (follow : List (Silo × Job)) :
    total ((follow.map fun next => (.enqueue next.1 next.2 : Request Silo Job)).map
      (Request.price fun _ job => job.cost attempts)) = costs attempts follow := by
  induction follow with
  | nil => rfl
  | cons next rest ih =>
    obtain ⟨target, job⟩ := next
    rw [List.map_cons, List.map_cons, total_cons, ih]
    simp only [Request.price, costs]
    omega

theorem JobQueues.affordable (attempts delay : Nat) :
    (empty attempts delay).rules.Affordable where
  tries := Nat.lt_of_lt_of_le Nat.zero_lt_one (Nat.le_max_right attempts 1)
  covers := by
    rintro _ _ ⟨name, failures, follow⟩
    exact Nat.le_add_right _ _
  pays := by
    rintro _ target ⟨name, failures, follow⟩ made result performed succeeded
    by_cases early : made < failures
    · have failed : result = ⟨(), false, []⟩ := performed.trans (if_pos early)
      subst failed
      cases succeeded
    · have follows : result = ⟨(), true, follow.map fun next => .enqueue next.1 next.2⟩ :=
        performed.trans (if_neg early)
      subst follows
      exact Nat.le_of_eq (congrArg _ (Job.costs_eq _ follow))
  steady := fun _ _ _ _ _ _ => Nat.le_refl _

end ActorDirectory
