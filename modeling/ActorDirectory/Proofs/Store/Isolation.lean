import ActorDirectory.Proofs.Store.Framing

-- Two clusters that keep their records in one keyspace, each under keys that begin with its id.
-- Keys of both are the same only if one id goes on where the other ends, so that what stands
-- between the ends can be read as the beginning of a grain.
namespace ActorDirectory

namespace Grain

def Names (text : String) : Prop := (parse? text).isSome = true

instance (text : String) : Decidable (Names text) := inferInstanceAs (Decidable (_ = true))

theorem names_iff {text : String} : Names text ↔ ∃ kind key : List Char,
    text.toList = kind ++ '/' :: key ∧ kind ≠ [] ∧ '/' ∉ kind ∧ key ≠ [] := by
  rw [Names, Option.isSome_iff_exists]
  constructor
  · rintro ⟨grain, read⟩
    obtain ⟨⟨kind, apart, key⟩, rfl⟩ := parse_eq_some.mp read
    refine ⟨grain.kind.toList, grain.key.toList, by simp [toText], ?_, apart, ?_⟩
    · exact fun empty => kind (String.toList_inj.mp empty)
    · exact fun empty => key (String.toList_inj.mp empty)
  · rintro ⟨kind, key, whole, nonempty, apart, more⟩
    refine ⟨⟨.ofList kind, .ofList key⟩, parse_eq_some.mpr ⟨⟨?_, ?_, ?_⟩, ?_⟩⟩
    · simpa [← String.toList_inj] using nonempty
    · simpa using apart
    · simpa [← String.toList_inj] using more
    · simp [toText, ← String.toList_inj, whole]

end Grain

namespace KeyValueClient

variable {one other grain foreign rest : String}

theorem toList_key (cluster grain : String) :
    (key cluster grain).toList = cluster.toList ++ '-' :: grain.toList := by
  simp [key]

theorem key_eq_iff : key one grain = key other foreign ↔ one = other ∧ grain = foreign ∨
    ∃ rest, other = key one rest ∧ grain = key rest foreign ∨
      one = key other rest ∧ foreign = key rest grain := by
  simp only [← String.toList_inj, toList_key, List.append_eq_append_iff]
  constructor
  · rintro (⟨between, ends, begins⟩ | ⟨between, ends, begins⟩)
    · cases between with
      | nil => exact .inl ⟨by simpa using ends.symm, by simpa using begins⟩
      | cons mark between =>
        obtain ⟨rfl, begins⟩ := List.cons.inj begins
        exact .inr ⟨.ofList between, .inl ⟨by simpa using ends, by simpa using begins⟩⟩
    · cases between with
      | nil => exact .inl ⟨by simpa using ends, by simpa using begins.symm⟩
      | cons mark between =>
        obtain ⟨rfl, begins⟩ := List.cons.inj begins
        exact .inr ⟨.ofList between, .inr ⟨by simpa using ends, by simpa using begins⟩⟩
  · rintro (⟨same, alike⟩ | ⟨rest, ⟨ends, begins⟩ | ⟨ends, begins⟩⟩)
    · exact .inl ⟨[], by simp [same], by simp [alike]⟩
    · exact .inl ⟨'-' :: rest.toList, ends, by simp [begins]⟩
    · exact .inr ⟨'-' :: rest.toList, ends, by simp [begins]⟩

def Overlap (one other : String) : Prop :=
  ∃ rest, rest.toList.head? ≠ some '/' ∧ (other = key one rest ∨ one = key other rest)

theorem overlap_symm (overlap : Overlap one other) : Overlap other one := by
  obtain ⟨rest, begins, either⟩ := overlap
  exact ⟨rest, begins, either.symm⟩

-- What is put in front of a grain's kind makes it another kind, or makes it part of the key.
theorem key_names (named : Grain.Names foreign) :
    Grain.Names (key rest foreign) ↔ rest.toList.head? ≠ some '/' := by
  obtain ⟨kind, name, whole, _, apart, more⟩ := Grain.names_iff.mp named
  simp only [Grain.names_iff, toList_key, whole]
  constructor
  · rintro ⟨front, back, same, nonempty, lacks, _⟩ slash
    obtain ⟨c, front, rfl⟩ := List.exists_cons_of_ne_nil nonempty
    obtain ⟨tail, begins⟩ := List.head?_eq_some_iff.mp slash
    rw [begins] at same
    exact lacks ((List.cons.inj same).1 ▸ List.mem_cons_self ..)
  · intro begins
    by_cases slash : '/' ∈ rest.toList
    · obtain ⟨front, back, split, lacks⟩ := List.eq_append_cons_of_mem slash
      refine ⟨front, back ++ '-' :: (kind ++ '/' :: name), by simp [split], ?_, lacks, by simp⟩
      rintro rfl
      exact begins (by simp [split])
    · exact ⟨rest.toList ++ '-' :: kind, name, by simp, by simp, by simp [slash, apart], more⟩

theorem keys_meet (distinct : one ≠ other) : (∃ grain foreign, Grain.Names grain ∧
    Grain.Names foreign ∧ key one grain = key other foreign) ↔ Overlap one other := by
  constructor
  · rintro ⟨grain, foreign, here, there, same⟩
    rcases key_eq_iff.mp same with ⟨equal, _⟩ | ⟨rest, ⟨ends, rfl⟩ | ⟨ends, rfl⟩⟩
    · exact absurd equal distinct
    · exact ⟨rest, (key_names there).mp here, .inl ends⟩
    · exact ⟨rest, (key_names here).mp there, .inr ends⟩
  · rintro ⟨rest, begins, ends | ends⟩
    · have named : Grain.Names "x/1" := by decide
      exact ⟨key rest "x/1", "x/1", (key_names named).mpr begins, named,
        key_eq_iff.mpr (.inr ⟨rest, .inl ⟨ends, rfl⟩⟩)⟩
    · have named : Grain.Names "x/1" := by decide
      exact ⟨"x/1", key rest "x/1", named, (key_names named).mpr begins,
        key_eq_iff.mpr (.inr ⟨rest, .inr ⟨ends, rfl⟩⟩)⟩

end KeyValueClient

inductive RecordCall where
  | register (record : Record)
  | unregister (record : Record) (version : Version)
  | lookup (grain : String)
  deriving DecidableEq, Repr

namespace RecordCall

def grain : RecordCall → String
  | register record => record.grain
  | unregister record _ => record.grain
  | lookup grain => grain

end RecordCall

namespace Backend

variable {σ : Type}

def undergo (backend : Backend σ) (store : σ) : RecordCall → σ
  | .register record => (backend.register record store).2
  | .unregister record version => (backend.unregister record version store).2
  | .lookup grain => (backend.lookup grain store).2

def undergoAll (backend : Backend σ) (store : σ) (calls : List RecordCall) : σ :=
  calls.foldl backend.undergo store

end Backend

namespace KeyValueStore

variable {one other cluster grain foreign : String} {store after : KeyValueStore}
  {call : RecordCall}

def Alike (cluster grain : String) (store after : KeyValueStore) : Prop :=
  ∀ faults, (client.lookup cluster grain { after with faults }).1 =
    (client.lookup cluster grain { store with faults }).1

-- All that another directory's calls leave as it is: whether there is a keyspace, and what it
-- has under the keys that the calls are not about.
structure Spares (key : String) (store after : KeyValueStore) : Prop where
  made : after.keyspace.isSome = store.keyspace.isSome
  raw : after.raw key = store.raw key

theorem spares_same (same : after.keyspace = store.keyspace) (key : String) :
    Spares key store after := ⟨by rw [same], congrFun (raw_same same) key⟩

theorem spares_alike (spares : Spares (KeyValueClient.key cluster grain) store after) :
    Alike cluster grain store after := by
  intro faults
  obtain ⟨made, kept⟩ := spares
  simp only [KeyValueClient.lookup, client, within, faulted]
  cases faults with
  | succ faults => rfl
  | zero =>
    simp only [KeyValueStore.raw] at kept
    cases here : store.keyspace with
    | none =>
      cases there : after.keyspace with
      | none => rfl
      | some keyspace => simp [here, there] at made
    | some keyspace =>
      cases there : after.keyspace with
      | none => simp [here, there] at made
      | some other =>
        simp only [here, there, Option.bind_some] at kept
        simp only [kept]
        cases keyspace.get? (KeyValueClient.key cluster grain) <;> rfl

theorem undergo_spares {key : String} (apart : KeyValueClient.key cluster call.grain ≠ key)
    (store : KeyValueStore) : Spares key store ((client.backend cluster).undergo store call) := by
  cases call with
  | register record =>
    have registers := register_registers cluster record store
    change Spares key store (client.register cluster record store).2
    generalize client.register cluster record store = called at registers ⊢
    cases registers with
    | failed same => exact spares_same same key
    | found same => exact spares_same same key
    | inserted made _ changed =>
      refine ⟨by rw [made, changed]; rfl, ?_⟩
      simp only [raw, made, changed, Option.bind_some, Keyed.get?_put]
      exact if_neg (Ne.symm apart)
  | unregister record version =>
    have used := within_used (fun keyspace =>
      if keyspace.get? (KeyValueClient.key cluster record.grain) = some record.toJsonText then
        (true, keyspace.erase (KeyValueClient.key cluster record.grain))
      else (false, keyspace)) store
    simp only [Backend.undergo, KeyValueClient.backend, KeyValueClient.unregister, client]
    generalize within _ store = called at used ⊢
    cases used with
    | failed same => exact spares_same same key
    | used made changed =>
      split at changed
      · refine ⟨by rw [made, changed]; rfl, ?_⟩
        simp only [raw, made, changed, Option.bind_some, Keyed.get?_erase]
        exact if_neg (Ne.symm apart)
      · exact spares_same (changed.trans made.symm) key
  | lookup grain =>
    have used := within_used
      (fun keyspace => (keyspace.get? (KeyValueClient.key cluster grain), keyspace)) store
    simp only [Backend.undergo, KeyValueClient.backend, KeyValueClient.lookup, client]
    generalize within _ store = called at used ⊢
    cases used with
    | failed same => exact spares_same same key
    | @used keyspace after made changed =>
      have same := changed.trans made.symm
      cases keyspace.get? (KeyValueClient.key cluster grain) <;> exact spares_same same key

theorem undergoAll_spares {key : String} {calls : List RecordCall}
    (apart : ∀ call ∈ calls, KeyValueClient.key cluster call.grain ≠ key)
    (store : KeyValueStore) :
    Spares key store ((client.backend cluster).undergoAll store calls) := by
  induction calls generalizing store with
  | nil => exact spares_same rfl key
  | cons call rest ih =>
    have first := undergo_spares (apart call (List.mem_cons_self ..)) store
    have later := ih (fun call listed => apart call (List.mem_cons_of_mem _ listed))
      ((client.backend cluster).undergo store call)
    exact ⟨later.made.trans first.made, later.raw.trans first.raw⟩

theorem registered_seen {record : Record} (same : KeyValueClient.key one record.grain =
    KeyValueClient.key other foreign) :
    let made : KeyValueStore := { keyspace := some .empty }
    ¬Alike other foreign made ((client.backend one).undergo made (.register record)) := by
  intro made alike
  have ready : Holds one made .none := ⟨rfl, _, rfl, fun _ => rfl⟩
  have registers : ∃ next, client.register one record made = (.ok (record, .unknown), next) ∧
      Holds one next (Records.none.add record) := register_holds ready
  obtain ⟨next, called, working, keyspace, there, known⟩ := registers
  have left : (client.backend one).undergo made (.register record) = next :=
    congrArg Prod.snd called
  have kept : keyspace.get? (KeyValueClient.key other foreign) = some record.toJsonText := by
    have added : (Records.none.add record) record.grain = some record := by
      simp [Records.add, Records.none]
    rw [← same, known, added, Option.map_some]
  have looked := alike 0
  have before : { made with faults := 0 } = made := rfl
  have calm : made.faults = 0 := rfl
  have empty : made.keyspace = some .empty := rfl
  have after : { next with faults := 0 } = next := by rw [← working]
  rw [left, before, after] at looked
  simp [KeyValueClient.lookup, client, within_ok working there, kept, within_ok calm empty,
    KeyValueClient.decode, Record.ofJsonText_toJsonText, Except.map] at looked

def Isolated (one other : String) : Prop :=
  ∀ calls, (∀ call ∈ calls, Grain.Names call.grain) → ∀ foreign, Grain.Names foreign →
    ∀ store, Alike other foreign store ((client.backend one).undergoAll store calls)

theorem isolated_iff (distinct : one ≠ other) :
    Isolated one other ↔ ¬KeyValueClient.Overlap one other := by
  have meet := KeyValueClient.keys_meet distinct
  refine ⟨fun isolated overlap => ?_, fun disjoint calls named foreign there store => ?_⟩
  · obtain ⟨grain, foreign, here, there, same⟩ := meet.mpr overlap
    let record : Record := ⟨"", grain, ""⟩
    have same : KeyValueClient.key one record.grain = KeyValueClient.key other foreign := same
    exact registered_seen same
      (isolated [.register record] (by simpa [RecordCall.grain] using here) foreign there _)
  · refine spares_alike (undergoAll_spares (fun call listed same => disjoint ?_) store)
    exact meet.mp ⟨call.grain, foreign, named call listed, there, same⟩

-- The ids decide. If they overlap, what the one cluster registers is found in the other, either
-- way round.
theorem clusters_isolated_iff (distinct : one ≠ other) :
    (Isolated one other ↔ ¬KeyValueClient.Overlap one other) ∧
      (Isolated other one ↔ ¬KeyValueClient.Overlap one other) ∧
      ((∃ grain foreign, Grain.Names grain ∧ Grain.Names foreign ∧
        KeyValueClient.key one grain = KeyValueClient.key other foreign) ↔
          KeyValueClient.Overlap one other) := by
  refine ⟨isolated_iff distinct, (isolated_iff distinct.symm).trans ?_,
    KeyValueClient.keys_meet distinct⟩
  exact not_congr ⟨KeyValueClient.overlap_symm, KeyValueClient.overlap_symm⟩

end KeyValueStore

namespace Solo

theorem overlapping_not_isolated : "a" ≠ "a-b" ∧ ¬KeyValueStore.Isolated "a" "a-b" ∧
    KeyValueClient.key "a" "b-x/1" = KeyValueClient.key "a-b" "x/1" := by
  have distinct : "a" ≠ "a-b" := by decide
  refine ⟨distinct, fun isolated => ?_, by decide⟩
  refine (KeyValueStore.clusters_isolated_iff distinct).1.mp isolated ?_
  exact ⟨"b", by decide, .inl (by decide)⟩

end Solo
end ActorDirectory
