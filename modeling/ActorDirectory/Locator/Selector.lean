import ActorDirectory.Locator.External

namespace ActorDirectory

structure Finder where
  register : Locators → World → Address → Except Fault Tagged × Locators × World
  unregister : Locators → World → Cause → Address → Except Fault Unit × Locators × World
  unregisterMany :
    Locators → World → Cause → List Address → Except Fault Unit × Locators × World
  lookup : Locators → World → Grain → Except Fault (Option Found) × Locators × World
  tryLocal : Locators → World → Grain → Option Found × Locators
  invalidate : Locators → Address → Locators

namespace Locators

def isInCluster (locators : Locators) (kind : String) : Bool × Locators :=
  let (answer, resolver) := locators.resolver.isInCluster kind
  (answer, { locators with resolver })

def register (locators : Locators) (world : World) (address : Address) :
    Except Fault Tagged × Locators × World :=
  match locators.isInCluster address.grain.kind with
  | (true, locators) => locators.registerInCluster world address
  | (false, locators) => locators.registerExternal world address

def unregister (locators : Locators) (world : World) (cause : Cause) (address : Address) :
    Except Fault Unit × Locators × World :=
  match locators.isInCluster address.grain.kind with
  | (true, locators) => locators.unregisterInCluster world cause address
  | (false, locators) => locators.unregisterExternal world cause address

def divide : Locators → List Address → (List Address × List Address) × Locators
  | locators, [] => (([], []), locators)
  | locators, address :: rest =>
    let (inCluster, locators) := locators.isInCluster address.grain.kind
    let ((near, far), locators) := divide locators rest
    if inCluster then ((address :: near, far), locators) else ((near, address :: far), locators)

-- Both families are attempted, the cluster first; its fault counts before the other's.
def unregisterMany (locators : Locators) (world : World) (cause : Cause)
    (addresses : List Address) : Except Fault Unit × Locators × World :=
  let ((near, far), locators) := locators.divide addresses
  let (inCluster, locators, world) := locators.unregisterManyInCluster world cause near
  let (external, locators, world) := locators.unregisterManyExternal world cause far
  (Cluster.firstFault inCluster external, locators, world)

def lookup (locators : Locators) (world : World) (grain : Grain) :
    Except Fault (Option Found) × Locators × World :=
  match locators.isInCluster grain.kind with
  | (true, locators) => locators.lookupInCluster world grain
  | (false, locators) => locators.lookupExternal world grain

def tryLocal (locators : Locators) (world : World) (grain : Grain) : Option Found × Locators :=
  match locators.isInCluster grain.kind with
  | (true, locators) => locators.tryInCluster world grain
  | (false, locators) => locators.tryExternal world grain

def invalidate (locators : Locators) (address : Address) : Locators :=
  match locators.isInCluster address.grain.kind with
  | (true, locators) => locators.invalidateInCluster address
  | (false, locators) => locators.invalidateExternal address

end Locators

namespace Finder

def inCluster : Finder :=
  ⟨Locators.registerInCluster, Locators.unregisterInCluster, Locators.unregisterManyInCluster,
    Locators.lookupInCluster, Locators.tryInCluster, Locators.invalidateInCluster⟩

def external : Finder :=
  ⟨Locators.registerExternal, Locators.unregisterExternal, Locators.unregisterManyExternal,
    Locators.lookupExternal, Locators.tryExternal, Locators.invalidateExternal⟩

def selector : Finder :=
  ⟨Locators.register, Locators.unregister, Locators.unregisterMany, Locators.lookup,
    Locators.tryLocal, Locators.invalidate⟩

end Finder
end ActorDirectory
