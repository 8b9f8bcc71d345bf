import ActorDirectory.Proofs.Partition.Operations

-- Who registers a grain first is its primary, and stays it whoever registers it afterwards.
namespace ActorDirectory

namespace Roster

def primary? (roster : Roster) : Option Instance := roster.instances.head?

theorem enrol_primary {roster : Roster} {first : Instance} (leads : roster.primary? = some first)
    (inst : Instance) (single : Bool) :
    (enrol (some roster) inst single).primary? = some first := by
  simp only [enrol, primary?] at leads ⊢
  split
  · exact leads
  · split
    · exact leads
    · simp [leads]

def newcomers (known submitted : List Instance) : List Instance :=
  (submitted.filter (· ∉ known)).eraseDups

@[simp] theorem newcomers_none (known : List Instance) : newcomers known [] = [] := rfl

theorem newcomers_known {known submitted : List Instance} {inst : Instance} (here : inst ∈ known) :
    newcomers known (inst :: submitted) = newcomers known submitted := by
  simp [newcomers, here]

theorem newcomers_new {known submitted : List Instance} {inst : Instance} (new : inst ∉ known) :
    newcomers known (inst :: submitted) = inst :: newcomers (known ++ [inst]) submitted := by
  have others : (submitted.filter (· ∉ known)).filter (fun other => !other == inst) =
      submitted.filter (· ∉ known ++ [inst]) := by
    rw [List.filter_filter]
    refine List.filter_congr fun other _ => ?_
    by_cases same : other = inst <;> simp [same]
  rw [newcomers, List.filter_cons_of_pos (by simpa using new), List.eraseDups_cons, others]
  rfl

end Roster

namespace Partition

variable {partition : Partition} {grain : Grain} {first : Instance} {address : Address}
  {single : Bool} {holding : Holding} {operations : List Operation}

def primary? (partition : Partition) (grain : Grain) : Option Instance :=
  (partition.roster? grain).bind Roster.primary?

theorem register_primary (leads : partition.primary? grain = some first) (address : Address)
    (single : Bool) : (partition.register address single).2.primary? grain = some first := by
  obtain ⟨roster, known, heads⟩ := Option.bind_eq_some_iff.mp leads
  rw [primary?, register_roster, known]
  split
  · exact Roster.enrol_primary heads address.toInstance single
  · exact heads

theorem register_leader (found : partition.held.get? address.grain = some holding)
    (leads : holding.instances.head? = some first)
    (alone : holding.single = true ∨ single = true) :
    partition.register address single =
      (⟨first.address address.grain, holding.version⟩, partition) := by
  obtain ⟨rest, listed⟩ := List.head?_eq_some_iff.mp leads
  rw [register_held single found, if_pos (by simp [listed, alone])]
  simp [listed]

theorem register_shared (found : partition.held.get? address.grain = some holding)
    (shared : holding.single = false) :
    (partition.register address false).1.address = address := by
  rw [register_answer, roster?, found, Option.map_some, Holding.roster, Roster.chosen, shared]
  rfl

def enrolments (calls : List (Address × Bool)) : List Operation :=
  calls.map fun call => .register call.1 call.2

def enrolled (partition : Partition) (calls : List (Address × Bool)) : Partition :=
  partition.run (enrolments calls)

@[simp] theorem enrolled_nil (partition : Partition) : partition.enrolled [] = partition := rfl

@[simp] theorem enrolled_cons (partition : Partition) (call : Address × Bool)
    (rest : List (Address × Bool)) :
    partition.enrolled (call :: rest) = (partition.register call.1 call.2).2.enrolled rest := rfl

@[simp] theorem enrolled_append (partition : Partition) (earlier later : List (Address × Bool)) :
    partition.enrolled (earlier ++ later) = (partition.enrolled earlier).enrolled later := by
  simp [enrolled, enrolments]

theorem enrolled_primary (leads : partition.primary? grain = some first)
    (calls : List (Address × Bool)) : (partition.enrolled calls).primary? grain = some first := by
  induction calls generalizing partition with
  | nil => exact leads
  | cons call rest ih => exact ih (register_primary leads call.1 call.2)

theorem enrolled_single (calls : List (Address × Bool)) {roster final : Roster}
    (known : partition.roster? grain = some roster)
    (left : (partition.enrolled calls).roster? grain = some final) :
    final.single = roster.single := by
  induction calls generalizing partition roster with
  | nil => exact congrArg Roster.single (Option.some.inj (left.symm.trans known))
  | cons call rest ih =>
    have next := register_roster partition call.1 call.2 grain
    rw [known] at next
    split at next
    · exact (ih next left).trans (Roster.enrol_single (some roster) call.1.toInstance call.2)
    · exact ih next left

theorem enrolled_alone (calls : List (Address × Bool))
    (found : partition.held.get? grain = some holding)
    (leads : holding.instances.head? = some first) (alone : holding.single = true) :
    (partition.enrolled calls).held.get? grain = some holding := by
  induction calls generalizing partition with
  | nil => exact found
  | cons call rest ih =>
    rw [enrolled_cons]
    refine ih ?_
    by_cases same : grain = call.1.grain
    · rw [register_leader (same ▸ found) leads (.inl alone)]
      exact found
    · exact (register_other partition call.1 call.2 same).trans found

def own (grain : Grain) (calls : List (Address × Bool)) : List (Address × Bool) :=
  calls.filter (·.1.grain = grain)

theorem own_cons (grain : Grain) (call : Address × Bool) (rest : List (Address × Bool)) :
    own grain (call :: rest) = if call.1.grain = grain then call :: own grain rest
      else own grain rest := by
  simp [own, List.filter_cons]

theorem enrolled_own {other : Partition} (calls : List (Address × Bool))
    (agree : partition.roster? grain = other.roster? grain) :
    (partition.enrolled calls).roster? grain =
      (other.enrolled (own grain calls)).roster? grain := by
  induction calls generalizing partition other with
  | nil => exact agree
  | cons call rest ih =>
    rw [own_cons, enrolled_cons]
    by_cases same : call.1.grain = grain
    · rw [if_pos same, enrolled_cons]
      refine ih ?_
      rw [register_roster, register_roster, if_pos same.symm, if_pos same.symm, agree]
    · rw [if_neg same]
      refine ih ?_
      rw [register_roster, if_neg (Ne.symm same), agree]

def submitted (grain : Grain) (calls : List (Address × Bool)) : List Instance :=
  ((own grain calls).filter (!·.2)).map (·.1.toInstance)

theorem submitted_other {call : Address × Bool} (rest : List (Address × Bool))
    (silent : call.1.grain ≠ grain ∨ call.2 = true) :
    submitted grain (call :: rest) = submitted grain rest := by
  rw [submitted, own_cons]
  split
  · rename_i same
    rw [List.filter_cons_of_neg (by simpa using silent.resolve_left (fun other => other same))]
    rfl
  · rfl

theorem submitted_own {call : Address × Bool} (rest : List (Address × Bool))
    (same : call.1.grain = grain) (shares : call.2 = false) :
    submitted grain (call :: rest) = call.1.toInstance :: submitted grain rest := by
  rw [submitted, own_cons, if_pos same, List.filter_cons_of_pos (by simp [shares])]
  rfl

def listed (partition : Partition) (grain : Grain) : List Instance :=
  ((partition.roster? grain).map Roster.instances).getD []

theorem enrolled_listed (proper : partition.Proper) (calls : List (Address × Bool))
    {final : Roster} (left : (partition.enrolled calls).roster? grain = some final)
    (shared : final.single = false) :
    final.instances = partition.listed grain ++
      Roster.newcomers (partition.listed grain) (submitted grain calls) := by
  induction calls generalizing partition with
  | nil => simp only [enrolled_nil] at left; simp [listed, left, submitted, own]
  | cons call rest ih =>
    have later := ih (register_proper proper call.1 call.2) left
    by_cases other : call.1.grain ≠ grain
    · simp only [listed, register_roster, if_neg (Ne.symm other)] at later
      rw [submitted_other rest (.inl other)]
      exact later
    have same : call.1.grain = grain := Classical.not_not.mp other
    simp only [listed, register_roster, if_pos same.symm, Option.map_some,
      Option.getD_some] at later
    have next := register_roster partition call.1 call.2 grain
    rw [if_pos same.symm] at next
    have flag := enrolled_single rest next left
    rw [shared, Roster.enrol_single] at flag
    cases known : partition.roster? grain with
    | none =>
      -- The first call makes the entry, so it was ready to run beside others.
      rw [known] at flag later
      rw [submitted_own rest same flag.symm, listed, known, later]
      exact (Roster.newcomers_new List.not_mem_nil).symm
    | some roster =>
      rw [known] at flag later
      obtain ⟨someone, _⟩ := proper grain roster known
      have several : roster.single = false := flag.symm
      simp only [Roster.enrol, several, Bool.false_or, List.isEmpty_eq_false_iff.mpr someone,
        Bool.not_false, Bool.and_true] at later
      simp only [listed, known, Option.map_some, Option.getD_some]
      cases asked : call.2 with
      | true =>
        rw [submitted_other rest (.inr asked)]
        simpa [asked] using later
      | false =>
        rw [submitted_own rest same asked]
        simp only [asked, Bool.false_eq_true, ↓reduceIte] at later
        split at later
        · rename_i here
          rw [Roster.newcomers_known here]
          exact later
        · rename_i new
          rw [Roster.newcomers_new new, later]
          simp

def Operation.flag? : Operation → Option Bool
  | .register _ single => some single
  | .registerEntry _ => some true
  | _ => none

inductive Created (grain : Grain) (single : Bool) : List Operation → Prop where
  | made (earlier : List Operation) (operation : Operation) (holding : Holding) :
      (empty.run earlier).held.get? grain = none →
      (empty.run (earlier ++ [operation])).held.get? grain = some holding →
      operation.flag? = some single → Created grain single (earlier ++ [operation])
  | lasted (earlier : List Operation) (operation : Operation) (holding : Holding) :
      Created grain single earlier →
      (empty.run (earlier ++ [operation])).held.get? grain = some holding →
      Created grain single (earlier ++ [operation])

theorem operate_creates {operation : Operation} (absent : partition.held.get? grain = none)
    (present : (partition.operate operation).held.get? grain = some holding) :
    operation.flag? = some holding.single := by
  have unknown : partition.roster? grain = none := by rw [roster?, absent]; rfl
  have appears := roster?_held present
  have enrols : ∀ address single, (partition.register address single).2.roster? grain =
      some holding.roster → single = holding.single := by
    intro address single here
    rw [register_roster, unknown] at here
    split at here
    · exact congrArg Roster.single (Option.some.inj here)
    · cases here
  have withdraws : ∀ address expected,
      (partition.withdrawAt address expected).roster? grain ≠ some holding.roster := by
    intro address expected here
    rcases withdrawAt_cases partition address expected with same | same
    · rw [same, unknown] at here
      cases here
    · rw [same, unregister_roster, unknown] at here
      split at here <;> cases here
  cases operation with
  | register address single => exact congrArg some (enrols address single appears)
  | unregister address =>
    rw [operate, unregister_roster, unknown] at appears
    split at appears <;> cases appears
  | unregisterAt address expected => exact absurd appears (withdraws address expected)
  | unregisterSilos silos =>
    rw [operate, unregisterSilos, retain_roster, unknown] at appears
    cases appears
  | retain keep =>
    rw [operate, retain_roster, unknown] at appears
    cases appears
  | clear => cases appears
  | registerEntry entry =>
    rw [operate, registerEntry_left] at appears
    split at appears
    · rw [unknown] at appears
      cases appears
    · exact congrArg some (enrols _ true appears)
  | unregisterEntry entry =>
    rw [operate, unregisterEntry_left] at appears
    split at appears
    · rw [unknown] at appears
      cases appears
    · exact absurd appears (withdraws _ _)

theorem operate_single {before : Holding} {operation : Operation}
    (known : partition.held.get? grain = some before)
    (present : (partition.operate operation).held.get? grain = some holding) :
    holding.single = before.single := by
  cases (operate_advances partition operation).each grain with
  | kept same =>
    rw [same, known] at present
    rw [Option.some.inj present]
  | gone _ absent =>
    rw [absent] at present
    cases present
  | renewed fresh _ here _ _ _ _ steady =>
    rw [here] at present
    rw [← Option.some.inj present]
    exact steady before known

theorem created_iff : Created grain single operations ↔
    ∃ holding, (empty.run operations).held.get? grain = some holding ∧ holding.single = single := by
  constructor
  · intro created
    induction created with
    | made earlier operation holding absent present flag =>
      simp only [run_append, run_cons, run_nil] at present ⊢
      rw [operate_creates absent present] at flag
      exact ⟨holding, present, Option.some.inj flag⟩
    | lasted earlier operation holding _ present ih =>
      obtain ⟨before, known, same⟩ := ih
      simp only [run_append, run_cons, run_nil] at present ⊢
      exact ⟨holding, present, (operate_single known present).trans same⟩
  · suffices ∀ reversed : List Operation, ∀ holding,
        (empty.run reversed.reverse).held.get? grain = some holding → holding.single = single →
          Created grain single reversed.reverse by
      rintro ⟨holding, present, same⟩
      have := this operations.reverse holding (by simpa using present) same
      simpa using this
    intro reversed
    induction reversed with
    | nil =>
      intro holding present
      cases present
    | cons operation rest ih =>
      intro holding present same
      rw [List.reverse_cons] at present ⊢
      have last := present
      simp only [run_append, run_cons, run_nil] at last
      cases before : (empty.run rest.reverse).held.get? grain with
      | none => exact .made _ _ holding before present (same ▸ operate_creates before last)
      | some known =>
        exact .lasted _ _ holding (ih known before ((operate_single before last).symm.trans same))
          present

def reached (operations : List Operation) (calls : List (Address × Bool)) : Partition :=
  (empty.run operations).enrolled calls

theorem reached_created {calls : List (Address × Bool)} :
    Created grain single (operations ++ enrolments calls) ↔
      ∃ holding, (reached operations calls).held.get? grain = some holding ∧
        holding.single = single := by
  rw [created_iff, run_append]
  rfl

theorem reached_leader {calls : List (Address × Bool)}
    (found : (reached operations calls).held.get? grain = some holding) :
    ∃ first rest, holding.instances = first :: rest ∧
      (holding.single = true → rest = []) := by
  have proper : (reached operations calls).Proper :=
    run_proper (run_proper proper_empty operations) (enrolments calls)
  obtain ⟨someone, one⟩ := proper grain holding.roster (roster?_held found)
  obtain ⟨first, rest, whole⟩ := List.exists_cons_of_ne_nil someone
  refine ⟨first, rest, whole, fun alone => ?_⟩
  have length := one alone
  rw [whole] at length
  exact List.eq_nil_of_length_eq_zero (Nat.succ.inj length)

-- One call among others, made to `before` and leaving `after`; at the end there is `final`.
structure Prevails (before after final : Partition) (created : Bool → Prop)
    (answer : Tagged) (address : Address) (single : Bool) : Prop where
  installed : before.held.get? address.grain = none →
    answer.address = address ∧ final.primary? address.grain = some address.toInstance
  steady : ∀ grain first, before.primary? grain = some first → final.primary? grain = some first
  alone : created true → ∃ first version,
    before.held.get? address.grain = some ⟨[first], true, version⟩ ∧
    answer = ⟨first.address address.grain, version⟩ ∧ after = before ∧
    final.held.get? address.grain = some ⟨[first], true, version⟩
  crowd : created false → ∃ first rest version,
    before.held.get? address.grain = some ⟨first :: rest, false, version⟩ ∧
    (single = true → answer = ⟨first.address address.grain, version⟩ ∧ after = before) ∧
    (single = false → answer.address = address)
  apart : ∀ grain, grain ≠ address.grain → after.held.get? grain = before.held.get? grain

-- After any history, calls of any callers: who came first stays first, and what a call is
-- answered and what is known of a grain at the end hang on the calls about that grain alone.
theorem first_writer_wins (operations : List Operation) (calls : List (Address × Bool)) :
    (∀ earlier address single later, calls = earlier ++ (address, single) :: later →
      Prevails (reached operations earlier) (reached operations (earlier ++ [(address, single)]))
        (reached operations calls)
        (fun flag => Created address.grain flag (operations ++ enrolments earlier))
        ((reached operations earlier).register address single).1 address single ∧
      ((reached operations earlier).register address single).1.address =
        ((reached operations (own address.grain earlier)).register address single).1.address) ∧
    ∀ grain,
      (Created grain false (operations ++ enrolments calls) →
        (reached operations calls).roster? grain =
          some ⟨(reached operations []).listed grain ++
            Roster.newcomers ((reached operations []).listed grain) (submitted grain calls),
            false⟩) ∧
      (reached operations calls).roster? grain =
        (reached operations (own grain calls)).roster? grain := by
  refine ⟨?_, fun grain => ⟨fun created => ?_, enrolled_own calls rfl⟩⟩
  · rintro earlier address single later rfl
    have whole : reached operations (earlier ++ (address, single) :: later) =
        ((reached operations earlier).register address single).2.enrolled later := by
      simp [reached]
    have next : reached operations (earlier ++ [(address, single)]) =
        ((reached operations earlier).register address single).2 := by
      simp [reached]
    refine ⟨⟨fun absent => ?_, fun grain first leads => ?_, fun created => ?_, fun created => ?_,
      fun grain other => ?_⟩, ?_⟩
    · rw [whole, register_absent single absent]
      refine ⟨rfl, enrolled_primary ?_ later⟩
      simp [primary?, roster?, Holding.roster, Roster.primary?]
    · rw [whole]
      exact enrolled_primary (register_primary leads address single) later
    · obtain ⟨⟨instances, alone, version⟩, found, lone⟩ := reached_created.mp created
      obtain ⟨first, rest, listed, unique⟩ := reached_leader found
      cases lone
      cases listed
      cases unique rfl
      have same : (reached operations earlier).register address single = _ :=
        register_leader found rfl (.inl rfl)
      rw [whole, next, same]
      exact ⟨first, version, found, rfl, rfl, enrolled_alone later found rfl rfl⟩
    · obtain ⟨⟨instances, alone, version⟩, found, shared⟩ := reached_created.mp created
      obtain ⟨first, rest, listed, _⟩ := reached_leader found
      cases shared
      cases listed
      refine ⟨first, rest, version, found, fun asks => ?_, fun shares => ?_⟩
      · rw [next, register_leader found rfl (.inr asks)]
        exact ⟨rfl, rfl⟩
      · rw [shares]
        exact register_shared found rfl
    · rw [next]
      exact register_other _ address single other
    · rw [register_answer, register_answer]
      have agree : (reached operations earlier).roster? address.grain =
        (reached operations (own address.grain earlier)).roster? address.grain :=
          enrolled_own earlier rfl
      rw [agree]
  · obtain ⟨holding, found, shared⟩ := reached_created.mp created
    have left : (reached operations calls).roster? grain = some holding.roster := by
      rw [roster?, found]
      rfl
    have list := enrolled_listed (run_proper proper_empty operations) calls left shared
    rw [left]
    exact congrArg some (Roster.mk.injEq .. |>.mpr ⟨list, shared⟩)

end Partition
end ActorDirectory
