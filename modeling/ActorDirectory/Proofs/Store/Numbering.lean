import ActorDirectory.Proofs.Store.Interference
import ActorDirectory.Proofs.Text.Etags
import Mathlib.Data.List.Nodup

-- Versions are written as e-tags and read back from them. A table numbers its e-tags, so what is
-- read from them tells them apart.
namespace ActorDirectory

namespace TableStore

variable {store : TableStore} {tag : String}

def draws (store : TableStore) : Deed → List String
  | .insert _ => [store.draw.1]
  | .overwrite _ => [store.draw.1]
  | _ => []

def etags (store : TableStore) : List Deed → List String
  | [] => []
  | deed :: rest => store.draws deed ++ (store.undergo deed).etags rest

def Bears (store : TableStore) (tag : String) : Prop := ∃ key row, store.row? key = some (row, tag)

theorem draws_numbered (store : TableStore) (deed : Deed) :
    store.draws deed =
      (List.range' (store.drawn + 1) (store.draws deed).length).map etag := by
  cases deed <;> rfl

theorem undergo_drawn (store : TableStore) (deed : Deed) :
    (store.undergo deed).drawn = store.drawn + (store.draws deed).length := by
  cases deed with
  | create => exact (create_rows store).2
  | insert row =>
    have inserted := insert_inserted row store
    dsimp only [undergo]
    generalize insert row store = called at inserted ⊢
    cases inserted with
    | refused _ drawn => exact drawn
    | inserted _ _ _ drawn => exact drawn
  | overwrite row => rfl
  | read cluster name =>
    have readBack := read_readBack cluster name store
    dsimp only [undergo]
    generalize read cluster name store = called at readBack ⊢
    cases readBack with
    | failed _ drawn => exact drawn
    | found _ drawn => exact drawn
  | delete cluster name etag =>
    dsimp only [undergo]
    cases delete_deleted cluster name etag store with
    | kept _ drawn => exact drawn
    | deleted _ _ _ drawn => exact drawn
  | fail faults => rfl

-- Each deed goes on with the numbers where the one before it stopped.
theorem etags_numbered (deeds : List Deed) (store : TableStore) :
    store.etags deeds =
      (List.range' (store.drawn + 1) (store.etags deeds).length).map etag := by
  induction deeds generalizing store with
  | nil => rfl
  | cons deed rest ih =>
    have later := ih (store.undergo deed)
    rw [undergo_drawn, Nat.add_right_comm] at later
    rw [etags, List.length_append, ← List.range'_append_1, List.map_append,
      ← draws_numbered, ← later]

theorem undergo_bears (store : TableStore) (deed : Deed) (bears : (store.undergo deed).Bears tag) :
    store.Bears tag ∨ tag ∈ store.draws deed := by
  obtain ⟨key, row, found⟩ := bears
  cases undergo_becomes store deed with
  | fewer _ kept => exact .inl ⟨key, row, kept key _ found⟩
  | put drawn changed =>
    rw [changed] at found
    split at found
    · right
      have one : (store.draws deed).length = 1 :=
        Nat.add_left_cancel ((undergo_drawn store deed).symm.trans drawn)
      rw [draws_numbered, one, ← (Prod.mk.inj (Option.some.inj found)).2]
      exact List.mem_singleton.mpr rfl
    · exact .inl ⟨key, row, found⟩

theorem undergoAll_bears (deeds : List Deed) (bears : (store.undergoAll deeds).Bears tag) :
    store.Bears tag ∨ tag ∈ store.etags deeds := by
  induction deeds generalizing store with
  | nil => exact .inl bears
  | cons deed rest ih =>
    rcases ih bears with earlier | later
    · rcases undergo_bears store deed earlier with before | drawn
      · exact .inl before
      · exact .inr (List.mem_append_left _ drawn)
    · exact .inr (List.mem_append_right _ later)

end TableStore

namespace Version
open Text TableStore

variable {number : Nat}

theorem literal_etag {n : Nat} :
    Literal (etag number).toList n ↔ n = number ∧ number < UInt64.size := by
  have plain : withoutQuotes (withoutMark (etag number).toList) = decimal number := by
    simp [etag, withoutMark, withoutQuotes]
  rw [← literal_exact, plain]
  exact unsigned_decimal_iff

theorem ofEtag_etag (number : Nat) : ofEtag (etag number) =
    if number < UInt64.size then ⟨UInt64.ofNat number⟩ else .unknown := by
  split
  · rename_i small
    exact ofEtag_literal (literal_etag.mpr ⟨rfl, small⟩)
  · rename_i large
    exact ofEtag_strange fun n literal => large (literal_etag.mp literal).2

theorem etags_read (deeds : List Deed) (few : (etags {} deeds).length < UInt64.size) :
    ((etags {} deeds).map ofEtag).map (·.number.toNat) =
      List.range' 1 (etags {} deeds).length := by
  have numbered : etags {} deeds = (List.range' 1 (etags {} deeds).length).map etag :=
    etags_numbered deeds {}
  generalize (etags {} deeds).length = drawn at few numbered ⊢
  rw [numbered, List.map_map, List.map_map]
  apply (List.map_congr_left ?_).trans (List.map_id _)
  intro number listed
  obtain ⟨_, bounded⟩ := List.mem_range'_1.mp listed
  have small : number < UInt64.size := by omega
  exact ofEtag_number (literal_etag.mpr ⟨rfl, small⟩)

theorem etags_distinct (deeds : List Deed) (few : (etags {} deeds).length < UInt64.size) :
    ((etags {} deeds).map ofEtag).Nodup ∧ unknown ∉ (etags {} deeds).map ofEtag := by
  have numbers := etags_read deeds few
  constructor
  · apply List.Nodup.of_map (·.number.toNat)
    rw [numbers]
    exact List.nodup_range'
  · intro present
    have zero : 0 ∈ List.range' 1 (etags {} deeds).length := by
      rw [← numbers]
      exact List.mem_map_of_mem present
    exact absurd (List.mem_range'_1.mp zero).1 (by decide)

-- Every version comes back from its e-tag, and from its number in quotes, marked as weak or not.
-- A table numbers its e-tags with 64 bits. As long as these are enough, each e-tag that it draws
-- stands for a version of its own. Of all other texts, those that spell a number are read as the
-- version of that number, and the rest as the unknown version.
theorem versions_survive_etags :
    (∀ version : Version, ofEtag version.toEtag = version) ∧
    (∀ version : Version,
      let quoted := "\"" ++ String.ofList (decimal version.number.toNat) ++ "\""
      ofEtag quoted = version ∧ ofEtag ("W/" ++ quoted) = version) ∧
    (∀ deeds etag, (({} : TableStore).undergoAll deeds).Bears etag → etag ∈ etags {} deeds) ∧
    (∀ deeds, (etags {} deeds).length < UInt64.size →
      ((etags {} deeds).map ofEtag).Nodup ∧ unknown ∉ (etags {} deeds).map ofEtag) ∧
    (∀ etag version, ofEtag etag = version ∧ version ≠ unknown ↔
      Literal etag.toList version.number.toNat ∧ 0 < version.number.toNat) ∧
    (∀ etag, ofEtag etag = unknown ↔ ¬∃ n, Literal etag.toList n ∧ 0 < n) := by
  refine ⟨ofEtag_toEtag, ?_, ?_, etags_distinct, fun _ _ => ofEtag_exact, fun _ => ofEtag_unknown_iff⟩
  · intro version quoted
    have paired : Quoted quoted.toList version.number.toNat := by
      have whole : quoted.toList = '"' :: decimal version.number.toNat ++ ['"'] := by
        simp [quoted]
      rw [whole]
      exact .paired version.unsigned_number
    have marked : ("W/" ++ quoted).toList = 'W' :: '/' :: quoted.toList := by simp
    constructor
    · exact ofEtag_own (.strong paired)
    · apply ofEtag_own
      rw [marked]
      exact .weak paired
  · intro deeds etag bears
    rcases undergoAll_bears deeds bears with before | drawn
    · obtain ⟨_, _, absent⟩ := before
      cases absent
    · exact drawn

def booked : Row := .ofRecord "main" ⟨"10.0.0.1:100@1", "room/1", "0a"⟩

def bookings : List Deed := [.create, .insert booked, .insert booked, .overwrite booked]

theorem bookings_told_apart :
    etags {} bookings = ["W/\"1\"", "W/\"2\"", "W/\"3\""] ∧ "W/\"3\"" ∈ etags {} bookings ∧
    ((etags {} bookings).map ofEtag).Nodup ∧ unknown ∉ (etags {} bookings).map ofEtag := by
  obtain ⟨_, _, listed, apart, _⟩ := versions_survive_etags
  have last : (({} : TableStore).undergoAll bookings).Bears "W/\"3\"" :=
    ⟨booked.keys, booked, by decide +kernel⟩
  exact ⟨by decide +kernel, listed bookings _ last, apart bookings (by decide +kernel)⟩

end Version
end ActorDirectory
