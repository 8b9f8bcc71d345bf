import ActorDirectory.Resolver
import Mathlib.Data.List.Basic
import Mathlib.Data.List.Induction

-- A resolver is refused with all that is wrong with its set-up, or it finds the directory of
-- every kind of grain, whatever it was asked before.
namespace ActorDirectory

namespace Keyed

variable {κ α : Type} {pairs : List (κ × α)} {key : κ} {value : α}

def LastOf (pairs : List (κ × α)) (key : κ) (value : α) : Prop :=
  ∃ earlier later, pairs = earlier ++ (key, value) :: later ∧ key ∉ later.map Prod.fst

theorem lastOf_of_mem (distinct : (pairs.map Prod.fst).Nodup) (present : (key, value) ∈ pairs) :
    LastOf pairs key value := by
  obtain ⟨earlier, later, rfl⟩ := List.append_of_mem present
  refine ⟨earlier, later, rfl, ?_⟩
  simp only [List.map_append, List.map_cons] at distinct
  exact (List.nodup_cons.mp (List.nodup_append.mp distinct).2.1).1

theorem lastOf_mem (last : LastOf pairs key value) : (key, value) ∈ pairs := by
  obtain ⟨earlier, later, rfl, _⟩ := last
  simp

variable [DecidableEq κ]

theorem lastOf_concat (pairs : List (κ × α)) (last : κ × α) :
    LastOf (pairs ++ [last]) key value ↔
      if key = last.1 then last.2 = value else LastOf pairs key value := by
  constructor
  · intro found
    obtain ⟨earlier, later, whole, absent⟩ := found
    rcases List.eq_nil_or_concat later with nothing | ⟨before, final, written⟩
    · subst nothing
      obtain ⟨_, same⟩ := List.append_inj' whole rfl
      cases (List.cons.inj same).1
      rw [if_pos rfl]
    · subst written
      have split : pairs ++ [last] = (earlier ++ (key, value) :: before) ++ [final] := by
        simpa using whole
      obtain ⟨same, ends⟩ := List.append_inj' split rfl
      cases (List.cons.inj ends).1
      rw [List.concat_eq_append, List.map_append, List.mem_append, not_or] at absent
      rw [if_neg fun here : key = last.1 => absent.2 (here ▸ List.mem_cons_self ..)]
      exact ⟨earlier, before, same, absent.1⟩
  · intro found
    split at found
    · rename_i here
      subst here found
      exact ⟨pairs, [], rfl, List.not_mem_nil⟩
    · rename_i other
      obtain ⟨earlier, later, rfl, absent⟩ := found
      refine ⟨earlier, later ++ [last], by simp, ?_⟩
      rw [List.map_append, List.mem_append, not_or]
      exact ⟨absent, fun here => other (List.mem_singleton.mp here)⟩

theorem get?_ofList : (ofList pairs).get? key = some value ↔ LastOf pairs key value := by
  induction pairs using List.reverseRecOn with
  | nil => simp [ofList, LastOf]
  | append_singleton pairs last ih =>
    have put : ofList (pairs ++ [last]) = (ofList pairs).put last.1 last.2 := by simp [ofList]
    rw [put, get?_put, lastOf_concat, ← ih]
    split <;> simp

theorem get?_ofList_isSome : ((ofList pairs).get? key).isSome ↔ key ∈ pairs.map Prod.fst := by
  rw [Option.isSome_iff_exists]
  constructor
  · intro known
    obtain ⟨value, found⟩ := known
    exact List.mem_map.mpr ⟨_, lastOf_mem (get?_ofList.mp found), rfl⟩
  · intro known
    induction pairs using List.reverseRecOn with
    | nil => cases known
    | append_singleton pairs last ih =>
      simp only [get?_ofList, lastOf_concat] at ih ⊢
      by_cases here : key = last.1
      · exact ⟨last.2, by rw [if_pos here]⟩
      · obtain ⟨value, found⟩ := ih (by simpa [here] using known)
        exact ⟨value, by rwa [if_neg here]⟩

end Keyed

namespace Refusal

inductive Tells : Refusal → List Problem → Prop where
  | one (problem : Problem) : Tells (.one problem) [problem]
  | several (first second : Problem) (rest : List Problem) :
      Tells (.several (first :: second :: rest)) (first :: second :: rest)

variable {α : Type} {problems : List Problem} {accepted result : α} {refusal : Refusal}

theorem unlessEmpty_ok :
    unlessEmpty problems accepted = .ok result ↔ problems = [] ∧ accepted = result := by
  unfold unlessEmpty
  split
  · simp
  · simp
  · rename_i someone _
    exact ⟨nofun, fun both => absurd both.1 someone⟩

theorem unlessEmpty_error :
    unlessEmpty problems accepted = .error refusal ↔ refusal.Tells problems := by
  constructor
  · intro refused
    match problems with
    | [] => cases refused
    | [problem] =>
      cases refused
      exact .one problem
    | first :: second :: rest =>
      cases refused
      exact .several first second rest
  · intro tells
    cases tells <;> rfl

end Refusal

namespace Routing

variable {δ : Type} {routing : Routing δ} {resolver : Resolver δ} {kind name : String}

def names (routing : Routing δ) : List String := routing.directories.map Prod.fst

def repeats (names : List String) : List String :=
  names.zipIdx.filterMap fun (name, place) => if name ∈ names.take place then some name else none

def mistakes (routing : Routing δ) : List Problem :=
  (repeats routing.names).map .duplicateDirectory ++
    (routing.declared.filter fun pair => pair.2 ∉ routing.names).map
      (fun pair => .unknownDirectory pair.1 pair.2) ++
    (routing.fallback.toList.filter fun name => name ∉ routing.names).map (.unknownDirectory "*")

theorem repeated_eq (seen names : List String) : repeated seen names =
    (names.zipIdx.filterMap fun (name, place) =>
      if name ∈ seen ∨ name ∈ names.take place then some name else none).map
        .duplicateDirectory := by
  induction names generalizing seen with
  | nil => rfl
  | cons name rest ih =>
    have shift : ∀ other place, (other ∈ seen ∨ other ∈ (name :: rest).take (place + 1)) ↔
        (other ∈ name :: seen ∨ other ∈ rest.take place) := by
      intro other place
      rw [List.take_succ_cons, List.mem_cons, List.mem_cons]
      exact or_left_comm.trans or_assoc.symm
    have later : (rest.zipIdx 1).filterMap (fun (other, place) =>
          if other ∈ seen ∨ other ∈ (name :: rest).take place then some other else none) =
        rest.zipIdx.filterMap fun (other, place) =>
          if other ∈ name :: seen ∨ other ∈ rest.take place then some other else none := by
      rw [List.zipIdx_succ, List.filterMap_map]
      refine List.filterMap_congr fun item _ => ?_
      simp only [Function.comp_apply, shift]
    rw [List.zipIdx_cons, List.filterMap_cons, Nat.zero_add, later, repeated]
    by_cases here : name ∈ seen
    · have known : ∀ other, other ∈ name :: seen ↔ other ∈ seen := by
        intro other
        rw [List.mem_cons]
        exact or_iff_right_of_imp fun same => same ▸ here
      simp [here, ih, known]
    · simp [here, ih]

theorem problems_eq (routing : Routing δ) : routing.problems = routing.mistakes := by
  have duplicates : repeated [] routing.names =
      (repeats routing.names).map .duplicateDirectory := by
    simpa [repeats] using repeated_eq [] routing.names
  have declarations : routing.declared.filterMap (fun pair => routing.unknown pair.1 pair.2) =
      (routing.declared.filter fun pair => pair.2 ∉ routing.names).map
        fun pair => .unknownDirectory pair.1 pair.2 := by
    induction routing.declared with
    | nil => rfl
    | cons pair rest ih =>
      rw [List.filterMap_cons, List.filter_cons, unknown, ih, ← names]
      by_cases known : pair.2 ∈ routing.names <;> simp [known]
  have default : (routing.fallback.bind (routing.unknown "*")).toList =
      (routing.fallback.toList.filter fun name => name ∉ routing.names).map
        (.unknownDirectory "*") := by
    cases routing.fallback with
    | none => rfl
    | some name =>
      rw [Option.bind_some, unknown, ← names, Option.toList_some, List.filter_cons]
      by_cases known : name ∈ routing.names <;> simp [known]
  unfold problems mistakes
  rw [declarations, default, ← names, duplicates]

theorem repeated_nil {seen names : List String} :
    repeated seen names = [] ↔ names.Nodup ∧ ∀ name ∈ names, name ∉ seen := by
  induction names generalizing seen with
  | nil => simp [repeated]
  | cons name rest ih =>
    rw [repeated]
    by_cases here : name ∈ seen
    · simp [here]
    · simp only [here, ↓reduceIte, ih, List.nodup_cons, List.mem_cons, forall_eq_or_imp, not_or,
        not_false_eq_true, true_and]
      grind

-- Names that a set-up uses are registered, each once.
structure Valid (routing : Routing δ) : Prop where
  distinct : routing.names.Nodup
  declared : ∀ pair ∈ routing.declared, pair.2 ∈ routing.names
  fallback : ∀ name, routing.fallback = some name → name ∈ routing.names

theorem problems_nil : routing.problems = [] ↔ routing.Valid := by
  have declarations : (∀ pair ∈ routing.declared, routing.unknown pair.1 pair.2 = none) ↔
      ∀ pair ∈ routing.declared, pair.2 ∈ routing.names := by
    simp [unknown, names]
  have default : (routing.fallback.bind (routing.unknown "*")).toList = [] ↔
      ∀ name, routing.fallback = some name → name ∈ routing.names := by
    cases routing.fallback <;> simp [unknown, names]
  unfold problems
  rw [List.append_eq_nil_iff, List.append_eq_nil_iff, repeated_nil, List.filterMap_eq_nil_iff,
    declarations, default]
  constructor
  · intro nothing
    exact ⟨nothing.1.1.1, nothing.1.2, nothing.2⟩
  · intro valid
    exact ⟨⟨⟨valid.distinct, fun _ _ => List.not_mem_nil⟩, valid.declared⟩, valid.fallback⟩

theorem not_valid_iff : ¬routing.Valid ↔
    ¬routing.names.Nodup ∨ (∃ pair ∈ routing.declared, pair.2 ∉ routing.names) ∨
      ∃ name, routing.fallback = some name ∧ name ∉ routing.names := by
  constructor
  · intro invalid
    by_contra fine
    simp only [not_or, not_not, not_exists, not_and] at fine
    exact invalid ⟨fine.1, fine.2.1, fine.2.2⟩
  · intro mistake valid
    rcases mistake with twice | ⟨pair, present, absent⟩ | ⟨name, default, absent⟩
    · exact twice valid.distinct
    · exact absent (valid.declared pair present)
    · exact absent (valid.fallback name default)

-- Where grains of a kind are kept: in the directory that the last declaration of the kind names,
-- else in the one that is named for all other kinds, else in the cluster.
inductive Keeps (routing : Routing δ) (kind : String) : Option δ → Prop where
  | declared {name : String} {directory : δ} : Keyed.LastOf routing.declared kind name →
      (name, directory) ∈ routing.directories → Keeps routing kind (some directory)
  | fallback {name : String} {directory : δ} : kind ∉ routing.declared.map Prod.fst →
      routing.fallback = some name → (name, directory) ∈ routing.directories →
      Keeps routing kind (some directory)
  | inCluster : kind ∉ routing.declared.map Prod.fst → routing.fallback = none →
      Keeps routing kind none

theorem build_eq_ok : routing.build = .ok resolver ↔ routing.Valid ∧ resolver =
    ⟨.ofList routing.directories, .ofList routing.declared, routing.fallback, .empty⟩ := by
  rw [build, Refusal.unlessEmpty_ok, problems_nil, eq_comm (a := resolver)]

theorem build_eq_error {refusal : Refusal} :
    routing.build = .error refusal ↔ refusal.Tells routing.mistakes := by
  rw [build, Refusal.unlessEmpty_error, problems_eq]

theorem get?_directory (valid : routing.Valid) {directory : δ}
    (present : (name, directory) ∈ routing.directories) :
    (Keyed.ofList routing.directories).get? name = some directory :=
  Keyed.get?_ofList.mpr (Keyed.lastOf_of_mem valid.distinct present)

theorem get?_undeclared : (Keyed.ofList routing.declared).get? kind = none ↔
    kind ∉ routing.declared.map Prod.fst := by
  rw [← Keyed.get?_ofList_isSome, Option.not_isSome_iff_eq_none]

theorem exists_directory (known : name ∈ routing.names) :
    ∃ directory, (name, directory) ∈ routing.directories := by
  obtain ⟨⟨_, directory⟩, present, rfl⟩ := List.mem_map.mp known
  exact ⟨directory, present⟩

theorem exists_keeps (valid : routing.Valid) (kind : String) :
    ∃ answer, routing.Keeps kind answer := by
  cases declared : (Keyed.ofList routing.declared).get? kind with
  | some name =>
    have last := Keyed.get?_ofList.mp declared
    obtain ⟨directory, present⟩ := exists_directory (valid.declared _ (Keyed.lastOf_mem last))
    exact ⟨some directory, .declared last present⟩
  | none =>
    have undeclared := get?_undeclared.mp declared
    cases default : routing.fallback with
    | none => exact ⟨none, .inCluster undeclared default⟩
    | some name =>
      obtain ⟨directory, present⟩ := exists_directory (valid.fallback name default)
      exact ⟨some directory, .fallback undeclared default present⟩

theorem decide_of_keeps (built : routing.build = .ok resolver) {answer : Option δ}
    (keeps : routing.Keeps kind answer) : resolver.decide kind = answer := by
  obtain ⟨valid, rfl⟩ := build_eq_ok.mp built
  unfold Resolver.decide
  cases keeps with
  | declared last present => simp [Keyed.get?_ofList.mpr last, get?_directory valid present]
  | fallback undeclared default present =>
    simp [get?_undeclared.mpr undeclared, default, get?_directory valid present]
  | inCluster undeclared default => simp [get?_undeclared.mpr undeclared, default]

theorem decide_exact (built : routing.build = .ok resolver) (kind : String) (answer : Option δ) :
    resolver.decide kind = answer ↔ routing.Keeps kind answer := by
  constructor
  · intro same
    obtain ⟨other, keeps⟩ := exists_keeps (build_eq_ok.mp built).1 kind
    rwa [← same, decide_of_keeps built keeps]
  · exact decide_of_keeps built

end Routing

namespace Resolver

variable {δ : Type} {resolver : Resolver δ}

theorem resolve_resolve (resolver : Resolver δ) (kind other : String) :
    ((resolver.resolve kind).2.resolve other).1 = (resolver.resolve other).1 := by
  cases known : resolver.remembered.get? kind with
  | some answer => simp only [resolve, known]
  | none =>
    by_cases same : other = kind
    · subst same
      simp [resolve, known]
    · cases found : resolver.remembered.get? other <;> simp [resolve, known, same, found, decide]

inductive Query where
  | resolve (kind : String)
  | isInCluster (kind : String)
  deriving DecidableEq, Repr

def ask (resolver : Resolver δ) : Query → Resolver δ
  | .resolve kind => (resolver.resolve kind).2
  | .isInCluster kind => (resolver.isInCluster kind).2

def askAll (resolver : Resolver δ) (queries : List Query) : Resolver δ := queries.foldl ask resolver

theorem resolve_ask (resolver : Resolver δ) (query : Query) (kind : String) :
    ((resolver.ask query).resolve kind).1 = (resolver.resolve kind).1 := by
  cases query with
  | resolve other => exact resolve_resolve resolver other kind
  | isInCluster other => exact resolve_resolve resolver other kind

theorem resolve_askAll (resolver : Resolver δ) (queries : List Query) (kind : String) :
    ((resolver.askAll queries).resolve kind).1 = (resolver.resolve kind).1 := by
  induction queries generalizing resolver with
  | nil => rfl
  | cons query rest ih => exact (ih (resolver.ask query)).trans (resolve_ask resolver query kind)

end Resolver

namespace Routing

variable {δ : Type} {routing : Routing δ} {resolver : Resolver δ}

theorem resolve_exact (built : routing.build = .ok resolver) (queries : List Resolver.Query)
    (kind : String) (answer : Option δ) :
    ((resolver.askAll queries).resolve kind).1 = answer ↔ routing.Keeps kind answer := by
  have fresh : resolver.remembered = .empty := by
    rw [(build_eq_ok.mp built).2]
  have decided : (resolver.resolve kind).1 = resolver.decide kind := by
    simp [Resolver.resolve, fresh]
  rw [Resolver.resolve_askAll, decided, decide_exact built]

theorem keeps_outside {answer : Option δ} (declared : kind ∈ routing.declared.map Prod.fst)
    (keeps : routing.Keeps kind answer) : answer.isSome := by
  cases keeps with
  | declared => rfl
  | fallback undeclared => exact absurd declared undeclared
  | inCluster undeclared => exact absurd declared undeclared

-- A set-up is refused exactly if it is not valid, and then for all that is wrong with it. If it
-- is accepted, the resolver finds what was set up for each kind, whatever it was asked before;
-- what was declared is never looked for in the cluster.
theorem resolves_what_was_set_up (routing : Routing δ) :
    ((∃ refusal, routing.build = .error refusal) ↔
      ¬routing.names.Nodup ∨ (∃ pair ∈ routing.declared, pair.2 ∉ routing.names) ∨
        ∃ name, routing.fallback = some name ∧ name ∉ routing.names) ∧
    (∀ refusal, routing.build = .error refusal ↔ refusal.Tells routing.mistakes) ∧
    ∀ resolver, routing.build = .ok resolver → ∀ queries kind,
      (∀ answer, ((resolver.askAll queries).resolve kind).1 = answer ↔
        routing.Keeps kind answer) ∧
      (((resolver.askAll queries).isInCluster kind).1 = true ↔ routing.Keeps kind none) ∧
      (kind ∈ routing.declared.map Prod.fst →
        ((resolver.askAll queries).isInCluster kind).1 = false) := by
  refine ⟨?_, fun refusal => build_eq_error, ?_⟩
  · rw [← not_valid_iff]
    constructor
    · intro refused valid
      obtain ⟨refusal, refused⟩ := refused
      cases refused.symm.trans (build_eq_ok.mpr ⟨valid, rfl⟩)
    · intro invalid
      cases built : routing.build with
      | error refusal => exact ⟨refusal, rfl⟩
      | ok resolver => exact absurd (build_eq_ok.mp built).1 invalid
  · intro resolver built queries kind
    have exactly := resolve_exact built queries kind
    have inCluster : ((resolver.askAll queries).isInCluster kind).1 =
      ((resolver.askAll queries).resolve kind).1.isNone := rfl
    refine ⟨exactly, ?_, fun declared => ?_⟩
    · rw [inCluster, Option.isNone_iff_eq_none]
      exact exactly none
    · have outside := keeps_outside declared ((exactly _).mp rfl)
      rw [inCluster, Option.isNone_eq_false_iff]
      exact outside

def ledgers : Routing String where
  directories := [("kv", "key-value store"), ("table", "table store")]
  declared := [("account", "kv"), ("account", "table")]
  fallback := some "kv"

def mistyped : Routing String where
  directories := [("kv", "key-value store"), ("kv", "another")]
  declared := [("account", "missing"), ("account", "kv")]
  fallback := some "also missing"

theorem ledgers_resolve : ∃ resolver, ledgers.build = .ok resolver ∧
    (∀ queries, ((resolver.askAll queries).resolve "account").1 = some "table store" ∧
      ((resolver.askAll queries).resolve "user").1 = some "key-value store" ∧
      ((resolver.askAll queries).isInCluster "account").1 = false) ∧
    mistyped.build = .error (.several [.duplicateDirectory "kv",
      .unknownDirectory "account" "missing", .unknownDirectory "*" "also missing"]) := by
  obtain ⟨_, _, found⟩ := resolves_what_was_set_up ledgers
  refine ⟨_, rfl, fun queries => ⟨?_, ?_, ?_⟩, ?_⟩
  · refine ((found _ rfl queries "account").1 _).mpr (.declared ⟨[("account", "kv")], [], rfl, ?_⟩ ?_)
    · exact List.not_mem_nil
    · decide
  · exact ((found _ rfl queries "user").1 _).mpr (.fallback (by decide) rfl (by decide))
  · exact (found _ rfl queries "account").2.2 (by decide)
  · exact ((resolves_what_was_set_up mistyped).2.1 _).mpr (.several _ _ _)

end Routing
end ActorDirectory
