import ActorDirectory.Proofs.Dispatch.Turns

-- However long lanes run, all that happens is that lanes take turns and that time passes.
namespace ActorDirectory.Dispatch

variable {κ ω σ : Type} [DecidableEq κ]

inductive Works (rules : Rules κ ω σ) : Dispatch κ ω σ → Dispatch κ ω σ → Prop where
  | done {dispatch : Dispatch κ ω σ} : Works rules dispatch dispatch
  | turn {dispatch after : Dispatch κ ω σ} (number : Nat) :
      Works rules (dispatch.turn rules number) after → Works rules dispatch after
  | pass {dispatch after : Dispatch κ ω σ} (time : Nat) :
      Works rules (dispatch.fire time) after → Works rules dispatch after

variable {rules : Rules κ ω σ} {dispatch middle after : Dispatch κ ω σ}

theorem works_trans (one : Works rules dispatch middle) (two : Works rules middle after) :
    Works rules dispatch after := by
  induction one with
  | done => exact two
  | turn number _ ih => exact .turn number (ih two)
  | pass time _ ih => exact .pass time (ih two)

theorem steps_works (fuel : Nat) (dispatch : Dispatch κ ω σ) :
    Works rules dispatch (steps rules fuel dispatch) := by
  induction fuel generalizing dispatch with
  | zero => exact .done
  | succ fuel ih =>
    rw [steps]
    cases ready : dispatch.ready with
    | nil => exact .done
    | cons number rest =>
      simp only [List.isEmpty_cons, Bool.false_eq_true, ↓reduceIte]
      rw [step_turn rules ready]
      exact .turn number (ih _)

theorem quiet_works (dispatch : Dispatch κ ω σ) : Works rules dispatch (dispatch.quiet rules) :=
  steps_works _ dispatch

theorem runsBefore_works (limit fuel : Nat) (dispatch : Dispatch κ ω σ) :
    Works rules dispatch (runsBefore rules limit fuel dispatch) := by
  induction fuel generalizing dispatch with
  | zero => exact .done
  | succ fuel ih =>
    rw [runsBefore]
    refine works_trans (quiet_works dispatch) ?_
    split
    · exact .done
    · rename_i due _
      split
      · exact .pass due (ih _)
      · exact .done

theorem advanceTo_works (time : Nat) (dispatch : Dispatch κ ω σ) :
    Works rules dispatch (dispatch.advanceTo rules time) :=
  works_trans (runsBefore_works time _ dispatch) (.pass time .done)

theorem sleep_works (duration : Nat) (dispatch : Dispatch κ ω σ) :
    Works rules dispatch (dispatch.sleep rules duration) :=
  works_trans (advanceTo_works _ dispatch) (quiet_works _)

theorem runsPast_works (marks : List (Nat × Nat)) (fuel : Nat) (dispatch : Dispatch κ ω σ) :
    Works rules dispatch (runsPast rules marks fuel dispatch) := by
  induction fuel generalizing dispatch with
  | zero => exact .done
  | succ fuel ih =>
    rw [runsPast]
    refine works_trans (quiet_works dispatch) ?_
    split
    · exact .done
    · split
      · exact .done
      · rename_i due _
        exact .pass due (ih _)

theorem settles_works (chosen : κ → Bool) (fuel : Nat) (dispatch : Dispatch κ ω σ) :
    Works rules dispatch (settles rules chosen fuel dispatch) := by
  induction fuel generalizing dispatch with
  | zero => exact .done
  | succ fuel ih =>
    rw [settles]
    have past : Works rules dispatch
        (runsPast rules (dispatch.marks chosen) (dispatch.work rules + 1) dispatch) :=
      runsPast_works ..
    split
    · exact past
    · exact works_trans past (ih _)

theorem quiesce_works (chosen : κ → Bool) (dispatch : Dispatch κ ω σ) :
    Works rules dispatch (dispatch.quiesce rules chosen) :=
  settles_works chosen _ dispatch

end ActorDirectory.Dispatch
