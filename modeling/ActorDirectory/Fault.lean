import ActorDirectory.Silo
import ActorDirectory.Version

namespace ActorDirectory

inductive ParseFault where
  | grain (text : String)
  | silo (text : String)
  | activation (text : String)
  | entry (text reason : String)
  deriving DecidableEq, Repr

inductive StoreFault where
  | alreadyExists
  | conditionNotSatisfied
  | notFound
  | unavailable (reason : String)
  deriving DecidableEq, Repr

inductive BackendFault where
  | store (fault : StoreFault)
  | serialization
  | parse (fault : ParseFault)
  deriving DecidableEq, Repr

inductive Fault where
  | backend (fault : BackendFault)
  | retriesExhausted (attempts : Nat) (last : BackendFault)
  | parse (fault : ParseFault)
  | siloUnavailable (silo : Silo)
  | tooManyHops (grain : String) (hops : UInt8)
  | staleVersion (grain : String) (presented current : Version)
  | notRunning
  | noActiveSilos
  | noDirectory (kind : String)
  | transport (reason : String)
  deriving DecidableEq, Repr

namespace ParseFault

def kind : ParseFault → String
  | grain _ => "InvalidGrainId"
  | silo _ => "InvalidSiloAddress"
  | activation _ => "InvalidActivationId"
  | entry _ _ => "InvalidEntry"

def message : ParseFault → String
  | grain text => s!"Invalid grain id '{text}' (expected 'type/key')"
  | silo text => s!"Invalid silo address '{text}' (expected 'ip:port@generation')"
  | activation text => s!"Invalid activation id '{text}'"
  | entry text reason => s!"Invalid directory entry '{text}': {reason}"

end ParseFault

namespace StoreFault

def kind : StoreFault → String
  | alreadyExists => "AlreadyExists"
  | conditionNotSatisfied => "ConditionNotSatisfied"
  | notFound => "NotFound"
  | unavailable _ => "Unavailable"

def message : StoreFault → String
  | alreadyExists => "Entity already exists"
  | conditionNotSatisfied => "Write condition not satisfied"
  | notFound => "Entity not found"
  | unavailable reason => "Store unavailable: " ++ reason

end StoreFault

namespace BackendFault

-- Only an unavailable store may answer differently when asked again.
def isTransient : BackendFault → Bool
  | store (.unavailable _) => true
  | _ => false

def kind : BackendFault → String
  | store fault => "Store." ++ fault.kind
  | serialization => "Serialization"
  | parse fault => "Parse." ++ fault.kind

def message : BackendFault → String
  | store fault => "Store error: " ++ fault.message
  | serialization => "Serialization error"
  | parse fault => "Parse error: " ++ fault.message

end BackendFault

namespace Fault

def kind : Fault → String
  | backend fault => "Backend." ++ fault.kind
  | retriesExhausted _ last => "RetriesExhausted." ++ last.kind
  | parse fault => "Parse." ++ fault.kind
  | siloUnavailable _ => "SiloUnavailable"
  | tooManyHops _ _ => "TooManyHops"
  | staleVersion _ _ _ => "StaleVersion"
  | notRunning => "NotRunning"
  | noActiveSilos => "NoActiveSilos"
  | noDirectory _ => "NoDirectory"
  | transport _ => "Transport"

def message : Fault → String
  | backend fault => "Backend error: " ++ fault.message
  | retriesExhausted attempts last =>
    s!"Backend call failed after {attempts} attempts: " ++ last.message
  | parse fault => "Parse error: " ++ fault.message
  | siloUnavailable silo => "Silo unavailable: " ++ silo.toText
  | tooManyHops grain hops => s!"Too many hops ({hops.toNat}) routing request for {grain}"
  | staleVersion grain presented current =>
    s!"Stale version {presented.toText} for {grain} (current {current.toText})"
  | notRunning => "Directory is not running"
  | noActiveSilos => "No active silos in membership"
  | noDirectory kind => s!"No pluggable directory serves grain type '{kind}'"
  | transport reason => "Transport error: " ++ reason

end Fault
end ActorDirectory
