import ActorDirectory.Store.Table

-- What each call of a client may do to a table, whatever faults it meets.
namespace ActorDirectory.TableStore

variable {store after : TableStore} {key : String × String}

def row? (store : TableStore) (key : String × String) : Option (Row × String) :=
  store.rows.bind (·.get? key)

theorem row_same (same : after.rows = store.rows) (key : String × String) :
    after.row? key = store.row? key := by
  rw [row?, row?, same]

theorem row_put {rows : Keyed (String × String) (Row × String)} (made : store.rows = some rows)
    (value : Row × String) (changed : after.rows = some (rows.put key value))
    (place : String × String) :
    after.row? place = if place = key then some value else store.row? place := by
  simp only [row?, made, changed, Option.bind_some, Keyed.get?_put]

theorem create_rows (store : TableStore) :
    (create store).2.row? = store.row? ∧ (create store).2.drawn = store.drawn := by
  simp only [create, faulted]
  cases store.faults with
  | succ faults => exact ⟨rfl, rfl⟩
  | zero =>
    refine ⟨funext fun key => ?_, rfl⟩
    cases made : store.rows <;> simp [row?, made]

inductive Used {α : Type} (use : Keyed (String × String) (Row × String) →
    Except StoreFault (α × Keyed (String × String) (Row × String))) (store : TableStore) :
    Except StoreFault α × TableStore → Prop where
  | failed {fault : StoreFault} {after : TableStore} : after.rows = store.rows →
      after.drawn = store.drawn → Used use store (.error fault, after)
  | used {rows next : Keyed (String × String) (Row × String)} {answer : α} {after : TableStore} :
      store.rows = some rows → use rows = .ok (answer, next) → after.rows = some next →
      after.drawn = store.drawn → Used use store (.ok answer, after)

theorem within_used {α : Type} (use : Keyed (String × String) (Row × String) →
    Except StoreFault (α × Keyed (String × String) (Row × String))) (store : TableStore) :
    Used use store (within use store) := by
  simp only [within, faulted]
  split
  · split
    · exact .failed rfl rfl
    · rename_i rows made
      split
      · exact .failed rfl rfl
      · rename_i served
        exact .used made served rfl rfl
  · exact .failed rfl rfl

inductive Inserted (row : Row) (store : TableStore) :
    Except StoreFault String × TableStore → Prop where
  | refused {fault : StoreFault} {after : TableStore} : after.rows = store.rows →
      after.drawn = store.drawn + 1 → Inserted row store (.error fault, after)
  | inserted {rows : Keyed (String × String) (Row × String)} {after : TableStore} :
      store.rows = some rows → rows.get? row.keys = none →
      after.rows = some (rows.put row.keys (row, etag (store.drawn + 1))) →
      after.drawn = store.drawn + 1 → Inserted row store (.ok (etag (store.drawn + 1)), after)

theorem insert_inserted (row : Row) (store : TableStore) :
    Inserted row store (insert row store) := by
  have used := within_used (fun rows =>
    if rows.contains row.keys then .error .alreadyExists
    else .ok (store.draw.1, rows.put row.keys (row, store.draw.1))) store.draw.2
  change Used _ _ (insert row store) at used
  generalize insert row store = called at used ⊢
  cases used with
  | failed same drawn => exact .refused same drawn
  | used made served changed drawn =>
    split at served
    · cases served
    · rename_i absent
      cases served
      exact .inserted made (by simpa [Keyed.contains] using absent) changed drawn

inductive ReadBack (key : String × String) (store : TableStore) :
    Except StoreFault (Option (Row × String)) × TableStore → Prop where
  | failed {fault : StoreFault} {after : TableStore} : after.rows = store.rows →
      after.drawn = store.drawn → ReadBack key store (.error fault, after)
  | found {after : TableStore} : after.rows = store.rows → after.drawn = store.drawn →
      ReadBack key store (.ok (store.row? key), after)

theorem read_readBack (cluster name : String) (store : TableStore) :
    ReadBack (cluster, name) store (read cluster name store) := by
  have used := within_used (fun rows => .ok (rows.get? (cluster, name), rows)) store
  change Used _ store (read cluster name store) at used
  generalize read cluster name store = called at used ⊢
  cases used with
  | failed same drawn => exact .failed same drawn
  | @used rows _ _ after made served changed drawn =>
    cases served
    have found : ReadBack (cluster, name) store (.ok (store.row? (cluster, name)), after) :=
      .found (changed.trans made.symm) drawn
    rwa [row?, made, Option.bind_some] at found

inductive Deleted (key : String × String) (tag : String) (store after : TableStore) : Prop where
  | kept : after.rows = store.rows → after.drawn = store.drawn → Deleted key tag store after
  | deleted {rows : Keyed (String × String) (Row × String)} {row : Row} :
      store.rows = some rows → rows.get? key = some (row, tag) →
      after.rows = some (rows.erase key) → after.drawn = store.drawn →
      Deleted key tag store after

theorem delete_deleted (cluster name tag : String) (store : TableStore) :
    Deleted (cluster, name) tag store (delete cluster name tag store).2 := by
  have used : Used _ store (delete cluster name tag store) := within_used _ store
  generalize delete cluster name tag store = called at used ⊢
  cases used with
  | failed same drawn => exact .kept same drawn
  | used made served changed drawn =>
    split at served
    · cases served
    · rename_i row current found
      split at served
      · rename_i same
        cases served
        exact .deleted made (same ▸ found) changed drawn
      · cases served

end ActorDirectory.TableStore
