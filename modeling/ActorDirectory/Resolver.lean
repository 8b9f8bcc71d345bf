import ActorDirectory.Keyed
import ActorDirectory.Settings

namespace ActorDirectory

structure Routing (δ : Type) where
  directories : List (String × δ)
  declared : List (String × String)
  fallback : Option String

structure Resolver (δ : Type) where
  directories : Keyed String δ
  declared : Keyed String String
  fallback : Option String
  remembered : Keyed String (Option δ)

namespace Routing

variable {δ : Type}

def repeated : List String → List String → List Problem
  | _, [] => []
  | seen, name :: rest =>
    if name ∈ seen then .duplicateDirectory name :: repeated seen rest
    else repeated (name :: seen) rest

def unknown (routing : Routing δ) (kind name : String) : Option Problem :=
  if name ∈ routing.directories.map Prod.fst then none else some (.unknownDirectory kind name)

-- Also a declaration that a later one overrides must name a directory.
def problems (routing : Routing δ) : List Problem :=
  repeated [] (routing.directories.map Prod.fst) ++
    routing.declared.filterMap (fun pair => routing.unknown pair.1 pair.2) ++
    (routing.fallback.bind (routing.unknown "*")).toList

def build (routing : Routing δ) : Except Refusal (Resolver δ) :=
  Refusal.unlessEmpty routing.problems
    ⟨.ofList routing.directories, .ofList routing.declared, routing.fallback, .empty⟩

end Routing

namespace Resolver

variable {δ : Type}

def inClusterOnly : Resolver δ := ⟨.empty, .empty, none, .empty⟩

def decide (resolver : Resolver δ) (kind : String) : Option δ :=
  (resolver.declared.get? kind <|> resolver.fallback).bind resolver.directories.get?

def resolve (resolver : Resolver δ) (kind : String) : Option δ × Resolver δ :=
  match resolver.remembered.get? kind with
  | some answer => (answer, resolver)
  | none =>
    let answer := resolver.decide kind
    (answer, { resolver with remembered := resolver.remembered.put kind answer })

def isInCluster (resolver : Resolver δ) (kind : String) : Bool × Resolver δ :=
  let (answer, resolver) := resolver.resolve kind
  (answer.isNone, resolver)

end Resolver
end ActorDirectory
