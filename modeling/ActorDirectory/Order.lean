namespace ActorDirectory.Order

def insert (precedes : α → α → Bool) (item : α) : List α → List α
  | [] => [item]
  | other :: rest =>
    if precedes item other then item :: other :: rest
    else other :: insert precedes item rest

def sort (precedes : α → α → Bool) (items : List α) : List α :=
  items.foldr (insert precedes) []

def sortOn [Ord κ] (key : α → κ) (items : List α) : List α :=
  sort (fun a b => (compare (key a) (key b)).isLE) items

theorem insert_perm (precedes : α → α → Bool) (item : α) (items : List α) :
    (insert precedes item items).Perm (item :: items) := by
  induction items with
  | nil => exact List.Perm.refl _
  | cons other rest ih =>
    by_cases first : precedes item other
    · simp [insert, first]
    · simp only [insert, first]
      exact (ih.cons other).trans (List.Perm.swap item other rest)

theorem sort_perm (precedes : α → α → Bool) (items : List α) :
    (sort precedes items).Perm items := by
  induction items with
  | nil => exact List.Perm.refl _
  | cons item rest ih => exact (insert_perm precedes item _).trans (ih.cons item)

theorem mem_sort {precedes : α → α → Bool} {item : α} {items : List α} :
    item ∈ sort precedes items ↔ item ∈ items :=
  (sort_perm precedes items).mem_iff

theorem insert_pairwise {precedes : α → α → Bool}
    (total : ∀ a b, precedes a b ∨ precedes b a)
    (trans : ∀ a b c, precedes a b → precedes b c → precedes a c)
    (item : α) {items : List α} (sorted : items.Pairwise (precedes · ·)) :
    (insert precedes item items).Pairwise (precedes · ·) := by
  induction items with
  | nil => simp [insert]
  | cons other rest ih =>
    obtain ⟨least, sorted⟩ := List.pairwise_cons.mp sorted
    by_cases first : precedes item other
    · simp only [insert, first, ↓reduceIte]
      refine List.pairwise_cons.mpr ⟨?_, List.pairwise_cons.mpr ⟨least, sorted⟩⟩
      intro next present
      rcases List.mem_cons.mp present with rfl | later
      · exact first
      · exact trans _ _ _ first (least next later)
    · simp only [insert, first, Bool.false_eq_true, ↓reduceIte]
      refine List.pairwise_cons.mpr ⟨?_, ih sorted⟩
      intro next present
      rcases List.mem_cons.mp ((insert_perm precedes item rest).mem_iff.mp present) with rfl | later
      · exact (total _ _).resolve_left first
      · exact least next later

theorem sort_pairwise {precedes : α → α → Bool}
    (total : ∀ a b, precedes a b ∨ precedes b a)
    (trans : ∀ a b c, precedes a b → precedes b c → precedes a c) (items : List α) :
    (sort precedes items).Pairwise (precedes · ·) := by
  induction items with
  | nil => exact .nil
  | cons item rest ih => exact insert_pairwise total trans item ih

theorem mem_sortOn [Ord κ] {key : α → κ} {item : α} {items : List α} :
    item ∈ sortOn key items ↔ item ∈ items := mem_sort

theorem sortOn_pairwise (rank : α → Nat) (items : List α) :
    (sortOn rank items).Pairwise (rank · ≤ rank ·) := by
  have order : ∀ a b, (compare (rank a) (rank b)).isLE = true ↔ rank a ≤ rank b :=
    fun a b => Nat.isLE_compare
  have ascending : (sortOn rank items).Pairwise
      fun a b => (compare (rank a) (rank b)).isLE = true :=
    sort_pairwise (fun a b => by simpa only [order] using Nat.le_total (rank a) (rank b))
      (fun a b c => by simpa only [order] using Nat.le_trans) items
  exact ascending.imp (order _ _).mp

theorem sortOn_eq_of_perm {rank : α → Nat} (apart : ∀ a b, rank a = rank b → a = b)
    {items others : List α} (same : items.Perm others) :
    sortOn rank items = sortOn rank others := by
  refine List.Perm.eq_of_pairwise ?_ (sortOn_pairwise rank items) (sortOn_pairwise rank others)
    (((sort_perm _ items).trans same).trans (sort_perm _ others).symm)
  intro a b _ _ below above
  exact apart a b (Nat.le_antisymm below above)

def group [DecidableEq κ] (key : α → κ) (items : List α) : List (κ × List α) :=
  (items.map key).eraseDups.map fun k => (k, items.filter fun item => key item = k)

theorem mem_group [DecidableEq κ] {key : α → κ} {items : List α} {k : κ} {members : List α} :
    (k, members) ∈ group key items ↔
      k ∈ items.map key ∧ members = items.filter fun item => key item = k := by
  simp only [group, List.mem_map, List.mem_eraseDups, Prod.mk.injEq]
  constructor
  · rintro ⟨other, present, rfl, rfl⟩
    exact ⟨present, rfl⟩
  · rintro ⟨present, rfl⟩
    exact ⟨k, present, rfl, rfl⟩

theorem eraseDups_nodup [DecidableEq κ] (keys : List κ) : keys.eraseDups.Nodup := by
  induction size : keys.length using Nat.strongRecOn generalizing keys with
  | _ size ih =>
    cases keys with
    | nil => exact List.nodup_nil
    | cons key rest =>
      rw [List.eraseDups_cons]
      refine List.nodup_cons.mpr ⟨by simp, ih _ ?_ _ rfl⟩
      rw [← size]
      exact Nat.lt_succ_of_le (List.length_filter_le _ _)

theorem foldl_group [DecidableEq κ] {key : α → κ} (act : σ → List α → σ)
    (idle : ∀ state, act state [] = state) (items : List α) (k : κ) (state : σ) :
    (group key items).foldl (fun state batch =>
      if batch.1 = k then act state batch.2 else state) state =
      act state (items.filter fun item => key item = k) := by
  have keys : ∀ keys : List κ, keys.Nodup →
      (keys.map fun other => (other, items.filter fun item => key item = other)).foldl
        (fun state batch => if batch.1 = k then act state batch.2 else state) state =
        if k ∈ keys then act state (items.filter fun item => key item = k) else state := by
    intro keys distinct
    induction keys generalizing state with
    | nil => rfl
    | cons first rest ih =>
      obtain ⟨absent, distinct⟩ := List.nodup_cons.mp distinct
      rw [List.map_cons, List.foldl_cons, ih _ distinct]
      by_cases here : first = k
      · subst here
        simp [absent]
      · simp [here, Ne.symm here]
  rw [group, keys _ (eraseDups_nodup _)]
  split
  · rfl
  · rename_i absent
    have unkeyed : (items.filter fun item => key item = k) = [] := by
      refine List.filter_eq_nil_iff.mpr fun item present same => absent ?_
      exact List.mem_eraseDups.mpr (List.mem_map.mpr ⟨item, present, of_decide_eq_true same⟩)
    rw [unkeyed, idle]

def chunks (size : Nat) (items : List α) : List (List α) :=
  cutRuns items.length items
where
  cutRuns : Nat → List α → List (List α)
    | 0, _ => []
    | fuel + 1, items =>
      if items.isEmpty then [] else items.take size :: cutRuns fuel (items.drop size)

-- Runs that make up a list. None is empty or too long, and all but the last are full.
structure Cuts (size : Nat) (items : List α) (runs : List (List α)) : Prop where
  whole : runs.flatten = items
  within : ∀ run ∈ runs, 1 ≤ run.length ∧ run.length ≤ size
  full : ∀ run ∈ runs.dropLast, run.length = size

theorem cutRuns_cuts {size : Nat} (positive : 0 < size) (fuel : Nat) {items : List α}
    (enough : items.length ≤ fuel) : Cuts size items (chunks.cutRuns size fuel items) := by
  induction fuel generalizing items with
  | zero =>
    rw [List.length_eq_zero_iff.mp (Nat.le_zero.mp enough)]
    exact ⟨rfl, nofun, nofun⟩
  | succ fuel ih =>
    cases items with
    | nil => exact ⟨rfl, nofun, nofun⟩
    | cons item rest =>
      have shorter : ((item :: rest).drop size).length ≤ fuel := by
        simp only [List.length_drop, List.length_cons] at enough ⊢
        omega
      have cut : chunks.cutRuns size (fuel + 1) (item :: rest) =
          (item :: rest).take size :: chunks.cutRuns size fuel ((item :: rest).drop size) := rfl
      have later := ih shorter
      rw [cut]
      generalize chunks.cutRuns size fuel ((item :: rest).drop size) = runs at later
      refine ⟨?_, fun run present => ?_, fun run present => ?_⟩
      · rw [List.flatten_cons, later.whole, List.take_append_drop]
      · rcases List.mem_cons.mp present with rfl | present
        · simp only [List.length_take, List.length_cons]
          omega
        · exact later.within run present
      · cases runs with
        | nil => cases present
        | cons next runs =>
          -- Something comes after the first run, so it is full.
          rcases List.mem_cons.mp present with rfl | present
          · have further := (later.within next (List.mem_cons_self ..)).1
            have longer : next.length ≤ ((item :: rest).drop size).length := by
              rw [← later.whole, List.flatten_cons, List.length_append]
              exact Nat.le_add_right _ _
            rw [List.length_drop] at longer
            rw [List.length_take]
            omega
          · exact later.full run present

theorem chunks_cuts {size : Nat} (positive : 0 < size) (items : List α) :
    Cuts size items (chunks size items) :=
  cutRuns_cuts positive items.length (Nat.le_refl _)

theorem flatten_chunks {size : Nat} (positive : 0 < size) (items : List α) :
    (chunks size items).flatten = items :=
  (chunks_cuts positive items).whole

theorem chunk_subset {size : Nat} (positive : 0 < size) {items run : List α}
    (present : run ∈ chunks size items) : run ⊆ items := fun item inside => by
  rw [← flatten_chunks positive items]
  exact List.mem_flatten.mpr ⟨run, present, inside⟩

theorem exists_chunk {size : Nat} (positive : 0 < size) {items : List α} {item : α}
    (present : item ∈ items) : ∃ run ∈ chunks size items, item ∈ run := by
  rw [← flatten_chunks positive items] at present
  exact List.mem_flatten.mp present

end ActorDirectory.Order
