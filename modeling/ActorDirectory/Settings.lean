namespace ActorDirectory

inductive Problem where
  | unknownDirectory (kind name : String)
  | duplicateDirectory (name : String)
  | notPositive (option : String)
  deriving DecidableEq, Repr

inductive Refusal where
  | one (problem : Problem)
  | several (problems : List Problem)
  deriving DecidableEq, Repr

structure Settings where
  cacheSize : Nat := 1000000
  cacheTtl : Nat := 240000
  handoffRetryDelay : Nat := 250
  handoffMaxAttempts : Nat := 2
  handoffChunkSize : Nat := 500
  backendMaxAttempts : Nat := 3
  backendRetryDelay : Nat := 100
  bucketsPerSilo : Nat := 30
  maxHops : UInt8 := 3
  deriving DecidableEq, Repr

namespace Problem

def kind : Problem → String
  | unknownDirectory _ _ => "UnknownDirectory"
  | duplicateDirectory _ => "DuplicateDirectory"
  | notPositive _ => "InvalidOption"

def message : Problem → String
  | unknownDirectory kind name => s!"Grain type '{kind}' uses unknown directory '{name}'"
  | duplicateDirectory name => s!"Directory '{name}' registered more than once"
  | notPositive option => s!"Invalid option {option}: must be greater than zero"

end Problem

namespace Refusal

def kind : Refusal → String
  | one problem => problem.kind
  | several _ => "Multiple"

def message : Refusal → String
  | one problem => problem.message
  | several problems =>
    s!"{problems.length} configuration errors: " ++ "; ".intercalate (problems.map Problem.message)

def unlessEmpty (problems : List Problem) (accepted : α) : Except Refusal α :=
  match problems with
  | [] => .ok accepted
  | [problem] => .error (.one problem)
  | _ => .error (.several problems)

end Refusal

namespace Settings

-- Delays may be zero, every other bound may not.
def problems (settings : Settings) : List Problem :=
  [(settings.cacheSize, "cache_size"), (settings.cacheTtl, "cache_ttl"),
    (settings.handoffMaxAttempts, "handoff_max_attempts"),
    (settings.handoffChunkSize, "handoff_chunk_size"),
    (settings.backendMaxAttempts, "backend_max_attempts"),
    (settings.bucketsPerSilo, "buckets_per_silo"),
    (settings.maxHops.toNat, "max_hops")].filterMap fun bound =>
      if bound.1 = 0 then some (.notPositive bound.2) else none

theorem bounds_positive {settings : Settings} (valid : settings.problems = []) :
    ∀ bound ∈ [settings.cacheSize, settings.cacheTtl, settings.handoffMaxAttempts,
      settings.handoffChunkSize, settings.backendMaxAttempts, settings.bucketsPerSilo,
      settings.maxHops.toNat], 0 < bound := by
  simpa [problems, Nat.pos_iff_ne_zero] using List.filterMap_eq_nil_iff.mp valid

theorem positive {settings : Settings} (valid : settings.problems = []) :
    0 < settings.handoffChunkSize ∧ 0 < settings.bucketsPerSilo ∧ 0 < settings.maxHops.toNat := by
  have each := bounds_positive valid
  exact ⟨each _ (by simp), each _ (by simp), each _ (by simp)⟩

theorem cache_positive {settings : Settings} (valid : settings.problems = []) :
    0 < settings.cacheSize ∧ 0 < settings.cacheTtl := by
  have each := bounds_positive valid
  exact ⟨each _ (by simp), each _ (by simp)⟩

def check (settings : Settings) : Except Refusal Settings :=
  Refusal.unlessEmpty settings.problems settings

end Settings
end ActorDirectory
