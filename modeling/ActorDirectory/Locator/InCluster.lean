import ActorDirectory.Cache
import ActorDirectory.Resolver
import ActorDirectory.World

namespace ActorDirectory

inductive Cause where
  | force
  | nonexistent
  deriving DecidableEq, Repr

structure Locators where
  silo : Silo
  resolver : Resolver String
  foreign : Cache
  external : Cache

namespace Cache

-- Unless it was forced, other activations of the grain stay known.
def forget (cache : Cache) (cause : Cause) (address : Address) : Cache :=
  match cause with
  | .force => (cache.remove address.grain).2
  | .nonexistent => (cache.invalidate address).2

def addTagged (cache : Cache) (now : Nat) (grain : Grain) (tagged : Tagged) : Cache :=
  cache.add now grain [tagged.address.toInstance] tagged.version

end Cache

namespace Locators

def ofSettings (settings : Settings) (silo : Silo) (resolver : Resolver String) : Locators :=
  let cache := Cache.empty settings.cacheSize settings.cacheTtl
  ⟨silo, resolver, cache, cache⟩

def forgetForeign (locators : Locators) (cause : Cause) (address : Address) : Locators :=
  { locators with foreign := locators.foreign.forget cause address }

def registerInCluster (locators : Locators) (world : World) (address : Address) :
    Except Fault Tagged × Locators × World :=
  let (result, cluster) := world.cluster.register locators.silo address true 0
  let world := world.withCluster cluster
  match result with
  | .error fault => (.error fault, locators, world)
  | .ok tagged =>
    if cluster.owns locators.silo address.grain then (.ok tagged, locators, world)
    else
      let foreign := locators.foreign.addTagged world.now address.grain tagged
      (.ok tagged, { locators with foreign }, world)

def registerMulti (locators : Locators) (world : World) (address : Address) :
    Except Fault Tagged × World :=
  let (result, cluster) := world.cluster.register locators.silo address false 0
  (result, world.withCluster cluster)

-- What was learnt is forgotten even if the directory fails.
def unregisterInCluster (locators : Locators) (world : World) (cause : Cause)
    (address : Address) : Except Fault Unit × Locators × World :=
  let (result, cluster) := world.cluster.unregister locators.silo address 0
  (result, locators.forgetForeign cause address, world.withCluster cluster)

def unregisterManyInCluster (locators : Locators) (world : World) (cause : Cause)
    (addresses : List Address) : Except Fault Unit × Locators × World :=
  if addresses.isEmpty then (.ok (), locators, world)
  else
    let locators := addresses.foldl (·.forgetForeign cause ·) locators
    let (result, cluster) := world.cluster.unregisterMany locators.silo addresses 0
    (result, locators, world.withCluster cluster)

-- Only for grains that other silos own is the cache asked first.
def lookupInCluster (locators : Locators) (world : World) (grain : Grain) :
    Except Fault (Option Found) × Locators × World :=
  let (result, cluster) := world.cluster.lookup locators.silo grain 0
  let asked := world.withCluster cluster
  if world.cluster.owns locators.silo grain then (result, locators, asked)
  else
    match locators.foreign.lookup world.now grain with
    | (some found, foreign) => (.ok (some found), { locators with foreign }, world)
    | (none, foreign) =>
      match result with
      | .ok (some found) =>
        (result, { locators with foreign := foreign.addFound world.now found }, asked)
      | _ => (result, { locators with foreign }, asked)

def tryInCluster (locators : Locators) (world : World) (grain : Grain) :
    Option Found × Locators :=
  if world.cluster.owns locators.silo grain then
    (world.cluster.localLookup locators.silo grain, locators)
  else
    let (found, foreign) := locators.foreign.lookup world.now grain
    (found, { locators with foreign })

def invalidateInCluster (locators : Locators) (address : Address) : Locators :=
  { locators with foreign := (locators.foreign.invalidate address).2 }

end Locators
end ActorDirectory
