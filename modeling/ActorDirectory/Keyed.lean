namespace ActorDirectory

-- A finite table. Pairs stand in the order in which their keys came, and no key stands twice.
structure Keyed (κ α : Type) where
  pairs : List (κ × α)
  distinct : (pairs.map Prod.fst).Nodup
  deriving DecidableEq

namespace Keyed

variable {κ α σ : Type} [DecidableEq κ]

def empty : Keyed κ α := ⟨[], List.nodup_nil⟩

instance : EmptyCollection (Keyed κ α) := ⟨empty⟩

def keys (table : Keyed κ α) : List κ := table.pairs.map Prod.fst

def values (table : Keyed κ α) : List α := table.pairs.map Prod.snd

def size (table : Keyed κ α) : Nat := table.pairs.length

def find? (key : κ) : List (κ × α) → Option α
  | [] => none
  | pair :: rest => if pair.1 = key then some pair.2 else find? key rest

def get? (table : Keyed κ α) (key : κ) : Option α := find? key table.pairs

def contains (table : Keyed κ α) (key : κ) : Bool := (table.get? key).isSome

def putPair (key : κ) (value : α) : List (κ × α) → List (κ × α)
  | [] => [(key, value)]
  | pair :: rest =>
    if pair.1 = key then (key, value) :: rest else pair :: putPair key value rest

theorem keys_putPair (key : κ) (value : α) (pairs : List (κ × α)) :
    (putPair key value pairs).map Prod.fst =
      if key ∈ pairs.map Prod.fst then pairs.map Prod.fst else pairs.map Prod.fst ++ [key] := by
  induction pairs with
  | nil => simp [putPair]
  | cons pair rest ih =>
    by_cases here : pair.1 = key
    · simp [putPair, here]
    · have other : key ≠ pair.1 := fun same => here same.symm
      simp only [putPair, here, ↓reduceIte, List.map_cons, ih, List.mem_cons, other, false_or]
      split <;> simp

theorem distinct_putPair {key : κ} {value : α} {pairs : List (κ × α)}
    (distinct : (pairs.map Prod.fst).Nodup) :
    ((putPair key value pairs).map Prod.fst).Nodup := by
  rw [keys_putPair]
  split
  · exact distinct
  · rename_i absent
    exact List.nodup_append.mpr ⟨distinct, by simp, fun a present b last same =>
      absent (by
        have : b = key := by simpa using last
        subst this
        exact same ▸ present)⟩

def put (table : Keyed κ α) (key : κ) (value : α) : Keyed κ α :=
  ⟨putPair key value table.pairs, distinct_putPair table.distinct⟩

def erase (table : Keyed κ α) (key : κ) : Keyed κ α :=
  ⟨table.pairs.filter (·.1 ≠ key), table.distinct.sublist (List.filter_sublist.map Prod.fst)⟩

def ofList (pairs : List (κ × α)) : Keyed κ α :=
  pairs.foldl (fun table pair => table.put pair.1 pair.2) empty

theorem find?_isSome {key : κ} {pairs : List (κ × α)} :
    (find? key pairs).isSome ↔ key ∈ pairs.map Prod.fst := by
  induction pairs with
  | nil => simp [find?]
  | cons pair rest ih =>
    by_cases here : pair.1 = key
    · simp [find?, here]
    · simpa [find?, here, Ne.symm here] using ih

theorem mem_of_find? {key : κ} {value : α} {pairs : List (κ × α)}
    (found : find? key pairs = some value) : (key, value) ∈ pairs := by
  induction pairs with
  | nil => cases found
  | cons pair rest ih =>
    rw [find?] at found
    split at found
    · rename_i same
      cases found
      exact same ▸ List.mem_cons_self ..
    · exact List.mem_cons_of_mem _ (ih found)

theorem mem_of_get? {table : Keyed κ α} {key : κ} {value : α}
    (found : table.get? key = some value) : (key, value) ∈ table.pairs := mem_of_find? found

theorem find?_of_mem {key : κ} {value : α} {pairs : List (κ × α)}
    (distinct : (pairs.map Prod.fst).Nodup) (present : (key, value) ∈ pairs) :
    find? key pairs = some value := by
  induction pairs with
  | nil => cases present
  | cons pair rest ih =>
    obtain ⟨absent, distinct⟩ := List.nodup_cons.mp distinct
    rcases List.mem_cons.mp present with rfl | later
    · simp [find?]
    · have other : pair.1 ≠ key := fun same =>
        absent (same ▸ List.mem_map.mpr ⟨_, later, rfl⟩)
      simpa [find?, other] using ih distinct later

theorem get?_of_mem {table : Keyed κ α} {key : κ} {value : α}
    (present : (key, value) ∈ table.pairs) : table.get? key = some value :=
  find?_of_mem table.distinct present

theorem get?_isSome {table : Keyed κ α} {key : κ} : (table.get? key).isSome ↔ key ∈ table.keys :=
  find?_isSome

@[simp] theorem get?_empty (key : κ) : (empty : Keyed κ α).get? key = none := rfl

theorem find?_putPair (key other : κ) (value : α) (pairs : List (κ × α)) :
    find? other (putPair key value pairs) = if other = key then some value else find? other pairs := by
  induction pairs with
  | nil => grind [putPair, find?]
  | cons pair rest ih => grind [putPair, find?]

@[simp] theorem get?_put (table : Keyed κ α) (key other : κ) (value : α) :
    (table.put key value).get? other = if other = key then some value else table.get? other :=
  find?_putPair key other value table.pairs

theorem find?_filter_ne (key other : κ) (pairs : List (κ × α)) :
    find? other (pairs.filter (·.1 ≠ key)) = if other = key then none else find? other pairs := by
  induction pairs with
  | nil => simp [find?]
  | cons pair rest ih => grind [find?]

@[simp] theorem get?_erase (table : Keyed κ α) (key other : κ) :
    (table.erase key).get? other = if other = key then none else table.get? other :=
  find?_filter_ne key other table.pairs

omit [DecidableEq κ]

-- One pass in table order. A step may drop or change a value and hand a state on.
def sweepPairs (step : κ → α → σ → Option α × σ) : List (κ × α) → σ → List (κ × α) × σ
  | [], state => ([], state)
  | (key, value) :: rest, state =>
    let (kept, state) := step key value state
    let (rest, state) := sweepPairs step rest state
    match kept with
    | some value => ((key, value) :: rest, state)
    | none => (rest, state)

theorem keys_sweepPairs (step : κ → α → σ → Option α × σ) (pairs : List (κ × α)) (state : σ) :
    ((sweepPairs step pairs state).1.map Prod.fst).Sublist (pairs.map Prod.fst) := by
  induction pairs generalizing state with
  | nil => exact List.Sublist.refl _
  | cons pair rest ih =>
    obtain ⟨key, value⟩ := pair
    cases kept : (step key value state).1 with
    | none => simpa [sweepPairs, kept] using (ih _).cons key
    | some value => simpa [sweepPairs, kept] using ih _

theorem sweepPairs_left (step : κ → α → σ → Option α × σ) (key : κ) (value : α)
    (rest : List (κ × α)) (state : σ) :
    (sweepPairs step ((key, value) :: rest) state).2 =
      (sweepPairs step rest (step key value state).2).2 := by
  cases kept : (step key value state).1 <;> simp [sweepPairs, kept]

theorem sweepPairs_grows {measure : σ → Nat} {step : κ → α → σ → Option α × σ}
    (grows : ∀ key value state, measure state ≤ measure (step key value state).2)
    (pairs : List (κ × α)) (state : σ) : measure state ≤ measure (sweepPairs step pairs state).2 := by
  induction pairs generalizing state with
  | nil => exact Nat.le_refl _
  | cons pair rest ih =>
    rw [sweepPairs_left]
    exact Nat.le_trans (grows pair.1 pair.2 state) (ih (step pair.1 pair.2 state).2)

def sweep (table : Keyed κ α) (step : κ → α → σ → Option α × σ) (state : σ) : Keyed κ α × σ :=
  (⟨(sweepPairs step table.pairs state).1, table.distinct.sublist (keys_sweepPairs step _ _)⟩,
    (sweepPairs step table.pairs state).2)

variable [DecidableEq κ] {step : κ → α → σ → Option α × σ} {pairs rest : List (κ × α)}
  {head key : κ} {value : α}

theorem find?_absent (absent : key ∉ pairs.map Prod.fst) : find? key pairs = none :=
  Option.not_isSome_iff_eq_none.mp fun present => absent (find?_isSome.mp present)

theorem get?_perm {one other : Keyed κ α} (same : one.pairs.Perm other.pairs) (key : κ) :
    one.get? key = other.get? key := by
  apply Option.ext
  intro value
  constructor
  · intro found
    exact get?_of_mem (same.mem_iff.mp (mem_of_get? found))
  · intro found
    exact get?_of_mem (same.mem_iff.mpr (mem_of_get? found))

theorem find?_sweepPairs_first (absent : key ∉ rest.map Prod.fst) (state : σ) :
    find? key (sweepPairs step ((key, value) :: rest) state).1 = (step key value state).1 := by
  have gone : find? key (sweepPairs step rest (step key value state).2).1 = none :=
    find?_absent fun present => absent ((keys_sweepPairs step rest _).subset present)
  cases kept : (step key value state).1 <;> simp [sweepPairs, kept, find?, gone]

theorem find?_sweepPairs_later (other : head ≠ key) (state : σ) :
    find? key (sweepPairs step ((head, value) :: rest) state).1 =
      find? key (sweepPairs step rest (step head value state).2).1 := by
  cases kept : (step head value state).1 <;> simp [sweepPairs, kept, find?, other]

theorem find?_sweepPairs {β : Type} {view : α → β} {left : κ → α → Option β}
    (steady : ∀ key value state, (step key value state).1.map view = left key value)
    (key : κ) (distinct : (pairs.map Prod.fst).Nodup) (state : σ) :
    (find? key (sweepPairs step pairs state).1).map view = (find? key pairs).bind (left key) := by
  induction pairs generalizing state with
  | nil => rfl
  | cons pair rest ih =>
    obtain ⟨head, value⟩ := pair
    obtain ⟨absent, distinct⟩ := List.nodup_cons.mp distinct
    by_cases here : head = key
    · subst here
      rw [find?_sweepPairs_first absent, find?, if_pos rfl]
      exact steady head value state
    · rw [find?_sweepPairs_later here, find?, if_neg here]
      exact ih distinct _

theorem get?_sweep {β : Type} {view : α → β} {left : κ → α → Option β}
    (steady : ∀ key value state, (step key value state).1.map view = left key value)
    (table : Keyed κ α) (state : σ) (key : κ) :
    ((table.sweep step state).1.get? key).map view = (table.get? key).bind (left key) :=
  find?_sweepPairs steady key table.distinct state

-- The state with which a sweep comes to a key. Its number is between those at the start and at
-- the end.
structure Visits (measure : σ → Nat) (step : κ → α → σ → Option α × σ) (pairs : List (κ × α))
    (state : σ) (key : κ) (during : σ) : Prop where
  after : measure state ≤ measure during
  before : ∀ value, find? key pairs = some value →
    measure (step key value during).2 ≤ measure (sweepPairs step pairs state).2
  found : find? key (sweepPairs step pairs state).1 =
    (find? key pairs).bind fun value => (step key value during).1

variable {measure : σ → Nat} {state during : σ}

theorem visits_nil : Visits measure step [] state key state := ⟨Nat.le_refl _, nofun, rfl⟩

theorem visits_first (grows : ∀ key value state, measure state ≤ measure (step key value state).2)
    (absent : key ∉ rest.map Prod.fst) :
    Visits measure step ((key, value) :: rest) state key state := by
  refine ⟨Nat.le_refl _, ?_, ?_⟩
  · intro _ here
    rw [find?, if_pos rfl] at here
    cases here
    rw [sweepPairs_left]
    exact sweepPairs_grows grows rest _
  · rw [find?_sweepPairs_first absent, find?, if_pos rfl, Option.bind_some]

theorem visits_later (grows : ∀ key value state, measure state ≤ measure (step key value state).2)
    (other : head ≠ key)
    (visits : Visits measure step rest (step head value state).2 key during) :
    Visits measure step ((head, value) :: rest) state key during := by
  refine ⟨Nat.le_trans (grows head value state) visits.after, ?_, ?_⟩
  · intro _ there
    rw [find?, if_neg other] at there
    rw [sweepPairs_left]
    exact visits.before _ there
  · rw [find?_sweepPairs_later other, find?, if_neg other]
    exact visits.found

theorem exists_visits (grows : ∀ key value state, measure state ≤ measure (step key value state).2)
    (key : κ) (distinct : (pairs.map Prod.fst).Nodup) (state : σ) :
    ∃ during, Visits measure step pairs state key during := by
  induction pairs generalizing state with
  | nil => exact ⟨state, visits_nil⟩
  | cons pair rest ih =>
    obtain ⟨head, value⟩ := pair
    obtain ⟨absent, distinct⟩ := List.nodup_cons.mp distinct
    by_cases here : head = key
    · subst here
      exact ⟨state, visits_first grows absent⟩
    · obtain ⟨during, visits⟩ := ih distinct (step head value state).2
      exact ⟨during, visits_later grows here visits⟩

theorem exists_visits_both
    (grows : ∀ key value state, measure state ≤ measure (step key value state).2)
    {one other : κ} (apart : one ≠ other) (distinct : (pairs.map Prod.fst).Nodup) (state : σ) :
    ∃ first second, Visits measure step pairs state one first ∧
      Visits measure step pairs state other second ∧
      ((∀ value, find? one pairs = some value →
          measure (step one value first).2 ≤ measure second) ∨
        ∀ value, find? other pairs = some value →
          measure (step other value second).2 ≤ measure first) := by
  induction pairs generalizing state with
  | nil => exact ⟨state, state, visits_nil, visits_nil, .inl nofun⟩
  | cons pair rest ih =>
    obtain ⟨head, value⟩ := pair
    obtain ⟨absent, distinct⟩ := List.nodup_cons.mp distinct
    by_cases first : head = one
    · subst first
      obtain ⟨during, visits⟩ := exists_visits grows other distinct (step head value state).2
      refine ⟨state, during, visits_first grows absent, visits_later grows apart visits, .inl ?_⟩
      intro _ here
      rw [find?, if_pos rfl] at here
      cases here
      exact visits.after
    · by_cases second : head = other
      · subst second
        obtain ⟨during, visits⟩ := exists_visits grows one distinct (step head value state).2
        refine ⟨during, state, visits_later grows first visits, visits_first grows absent, .inr ?_⟩
        intro _ here
        rw [find?, if_pos rfl] at here
        cases here
        exact visits.after
      · obtain ⟨during, meanwhile, visits, revisits, order⟩ := ih distinct (step head value state).2
        refine ⟨during, meanwhile, visits_later grows first visits,
          visits_later grows second revisits, ?_⟩
        simpa only [find?, if_neg first, if_neg second] using order

end Keyed
end ActorDirectory
