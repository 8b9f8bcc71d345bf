import ActorDirectory.Proofs.Store.Rows
import ActorDirectory.Proofs.Text.Numerals

-- A table that several clients use. No e-tag is used twice, so a row that still has the e-tag
-- that was read with it is still the row that was read, whatever the others did in between.
namespace ActorDirectory

namespace TableStore
open Text

variable {store before middle after : TableStore} {key : String × String} {row other : Row}
  {tag : String}

inductive Deed where
  | create
  | insert (row : Row)
  | overwrite (row : Row)
  | read (cluster row : String)
  | delete (cluster row etag : String)
  | fail (faults : Nat)
  deriving DecidableEq, Repr

def undergo (store : TableStore) : Deed → TableStore
  | .create => (create store).2
  | .insert row => (insert row store).2
  | .overwrite row => store.overwrite row
  | .read cluster row => (read cluster row store).2
  | .delete cluster row etag => (delete cluster row etag store).2
  | .fail faults => { store with faults }

def undergoAll (store : TableStore) (deeds : List Deed) : TableStore := deeds.foldl undergo store

def Tidy (store : TableStore) : Prop :=
  ∀ key row tag, store.row? key = some (row, tag) →
    row.keys = key ∧ ∃ number ≤ store.drawn, tag = etag number

-- What has an e-tag that was drawn before has not changed since.
structure Succeeds (before after : TableStore) : Prop where
  drawn : before.drawn ≤ after.drawn
  same : ∀ key row, ∀ number ≤ before.drawn, after.row? key = some (row, etag number) →
    before.row? key = some (row, etag number)

theorem Succeeds.trans (first : Succeeds before middle) (second : Succeeds middle after) :
    Succeeds before after where
  drawn := Nat.le_trans first.drawn second.drawn
  same := fun key row number old found =>
    first.same key row number old
      (second.same key row number (Nat.le_trans old first.drawn) found)

theorem empty_tidy : Tidy {} := nofun

theorem Succeeds.unique (succeeds : Succeeds before after) (tidy : before.Tidy)
    (earlier : before.row? key = some (row, tag)) (later : after.row? key = some (other, tag)) :
    other = row := by
  obtain ⟨_, number, old, rfl⟩ := tidy key row tag earlier
  have found := succeeds.same key other number old later
  rw [earlier] at found
  exact (Prod.mk.inj (Option.some.inj found)).1.symm

inductive Becomes (before after : TableStore) : Prop where
  | fewer : before.drawn ≤ after.drawn →
      (∀ key value, after.row? key = some value → before.row? key = some value) →
      Becomes before after
  | put {row : Row} : after.drawn = before.drawn + 1 →
      (∀ key, after.row? key =
        if key = row.keys then some (row, etag (before.drawn + 1)) else before.row? key) →
      Becomes before after

theorem becomes_kept (same : after.rows = before.rows) (drawn : before.drawn ≤ after.drawn) :
    Becomes before after :=
  .fewer drawn fun key _ found => (row_same same key).symm.trans found

theorem insert_becomes (row : Row) (store : TableStore) :
    Becomes store (insert row store).2 := by
  have inserted := insert_inserted row store
  generalize insert row store = called at inserted
  cases inserted with
  | refused same drawn => exact becomes_kept same (by dsimp only; omega)
  | inserted made _ changed drawn => exact .put drawn (row_put made _ changed)

theorem overwrite_becomes (row : Row) (store : TableStore) :
    Becomes store (store.overwrite row) := by
  cases made : store.rows with
  | none => exact becomes_kept (by simp [overwrite, draw, made]) (Nat.le_succ _)
  | some rows =>
    exact .put rfl (row_put made (row, etag (store.drawn + 1)) (by simp [overwrite, draw, made]))

theorem read_becomes (cluster name : String) (store : TableStore) :
    Becomes store (read cluster name store).2 := by
  have readBack := read_readBack cluster name store
  generalize read cluster name store = called at readBack ⊢
  cases readBack with
  | failed same drawn => exact becomes_kept same (Nat.le_of_eq drawn.symm)
  | found same drawn => exact becomes_kept same (Nat.le_of_eq drawn.symm)

theorem delete_becomes (cluster name tag : String) (store : TableStore) :
    Becomes store (delete cluster name tag store).2 := by
  cases delete_deleted cluster name tag store with
  | kept same drawn => exact becomes_kept same (Nat.le_of_eq drawn.symm)
  | deleted made _ changed drawn =>
    refine .fewer (Nat.le_of_eq drawn.symm) fun key value found => ?_
    rw [row?, changed, Option.bind_some, Keyed.get?_erase] at found
    split at found
    · cases found
    · rwa [row?, made, Option.bind_some]

theorem create_becomes (store : TableStore) : Becomes store (create store).2 := by
  obtain ⟨same, drawn⟩ := create_rows store
  exact .fewer (Nat.le_of_eq drawn.symm) fun key row found => same ▸ found

theorem undergo_becomes (store : TableStore) (deed : Deed) :
    Becomes store (store.undergo deed) := by
  cases deed with
  | create => exact create_becomes store
  | insert row => exact insert_becomes row store
  | overwrite row => exact overwrite_becomes row store
  | read cluster row => exact read_becomes cluster row store
  | delete cluster row etag => exact delete_becomes cluster row etag store
  | fail faults => exact becomes_kept rfl (Nat.le_refl _)

theorem becomes_tidy (becomes : Becomes before after) (tidy : before.Tidy) : after.Tidy := by
  intro key row tag found
  cases becomes with
  | fewer drawn kept =>
    obtain ⟨place, number, old, same⟩ := tidy key row tag (kept key _ found)
    exact ⟨place, number, Nat.le_trans old drawn, same⟩
  | put drawn changed =>
    rw [changed] at found
    split at found
    · rename_i here
      cases found
      exact ⟨here.symm, before.drawn + 1, Nat.le_of_eq drawn.symm, rfl⟩
    · obtain ⟨place, number, old, same⟩ := tidy key row tag found
      exact ⟨place, number, by omega, same⟩

theorem undergoAll_induction {motive : TableStore → Prop}
    (step : ∀ store deed, motive store → motive (store.undergo deed)) (deeds : List Deed)
    (start : motive store) : motive (store.undergoAll deeds) := by
  induction deeds generalizing store with
  | nil => exact start
  | cons deed rest ih => exact ih (step store deed start)

theorem undergoAll_tidy (deeds : List Deed) (tidy : store.Tidy) :
    (store.undergoAll deeds).Tidy :=
  undergoAll_induction (fun store deed => becomes_tidy (undergo_becomes store deed)) deeds tidy

end TableStore

structure Moment where
  before : TableStore
  after : TableStore

namespace Moment

def Keeps (moment : Moment) : Prop := moment.after.rows = moment.before.rows

def Inserts (moment : Moment) (row : Row) (tag : String) : Prop :=
  ∃ rows, moment.before.rows = some rows ∧ rows.get? row.keys = none ∧
    moment.after.rows = some (rows.put row.keys (row, tag))

end Moment

-- A table that one client calls, with what the others do to it before each of the calls.
structure Contended where
  store : TableStore
  others : List (List TableStore.Deed)
  seen : List Moment

namespace Contended
open TableStore

variable {α : Type} {cluster : String} {record : Record} {version : Version}

def call (call : Call TableStore StoreFault α) : Call Contended StoreFault α := fun contended =>
  let before := contended.store.undergoAll (contended.others.headD [])
  let (answer, after) := call before
  (answer, ⟨after, contended.others.tail, ⟨before, after⟩ :: contended.seen⟩)

def client : TableClient Contended where
  createTable := call TableStore.create
  insert := fun row => call (TableStore.insert row)
  read := fun cluster row => call (TableStore.read cluster row)
  delete := fun cluster row etag => call (TableStore.delete cluster row etag)

inductive Registers (cluster : String) (record : Record) :
    Except BackendFault (Record × Version) × Contended → Prop where
  | failed {fault : BackendFault} {next : Contended} : (∀ moment ∈ next.seen, moment.Keeps) →
      Registers cluster record (.error fault, next)
  | inserted {moment : Moment} {tag : String} {next : Contended} : next.seen = [moment] →
      moment.Inserts (.ofRecord cluster record) tag →
      Registers cluster record (.ok (record, .ofEtag tag), next)
  | found {inserting reading : Moment} {row : Row} {tag : String} {next : Contended} :
      next.seen = [reading, inserting] → inserting.Keeps → reading.Keeps →
      reading.after.row? (cluster, Row.keyOf record.grain) = some (row, tag) →
      Registers cluster record (.ok (row.toRecord, .ofEtag tag), next)

theorem register_registers (cluster : String) (record : Record) (store : TableStore)
    (others : List (List Deed)) :
    Registers cluster record (client.register cluster record ⟨store, others, []⟩) := by
  have inserted := insert_inserted (.ofRecord cluster record)
    (store.undergoAll (others.headD []))
  simp only [TableClient.register, client, call]
  generalize store.undergoAll (others.headD []) = before at inserted ⊢
  generalize insert (.ofRecord cluster record) before = called at inserted ⊢
  cases inserted with
  | inserted made absent changed _ => exact .inserted rfl ⟨_, made, absent, changed⟩
  | @refused fault middle same _ =>
    cases fault with
    | alreadyExists =>
      have readBack := read_readBack cluster (Row.keyOf record.grain)
        (middle.undergoAll (others.tail.headD []))
      dsimp only
      generalize middle.undergoAll (others.tail.headD []) = between at readBack ⊢
      generalize read cluster (Row.keyOf record.grain) between = called at readBack ⊢
      cases readBack with
      | failed kept _ => exact .failed (by simp [Moment.Keeps, kept, same])
      | @found after kept _ =>
        cases stored : between.row? (cluster, Row.keyOf record.grain) with
        | none => exact .failed (by simp [Moment.Keeps, kept, same])
        | some found => exact .found rfl same kept ((row_same kept _).trans stored)
    | _ => exact .failed (by simp [Moment.Keeps, same])

example (row : Row) (written : row = .ofRecord "main" ⟨"silo", "user/1", "a"⟩) :
    let table : TableStore := ({} : TableStore).undergoAll [.create, .insert row]
    let (answer, left) := client.unregister "main" row.toRecord .unknown
      ⟨table, [[], [.overwrite row]], []⟩
    answer = .ok () ∧ left.store.row? row.keys = some (row, etag 2) := by
  subst written
  exact ⟨rfl, by decide +kernel⟩

end Contended
end ActorDirectory
