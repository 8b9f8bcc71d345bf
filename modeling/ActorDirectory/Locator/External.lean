import ActorDirectory.Locator.InCluster

namespace ActorDirectory.Locators

def forgetExternal (locators : Locators) (cause : Cause) (address : Address) : Locators :=
  { locators with external := locators.external.forget cause address }

def directoryOf (locators : Locators) (kind : String) : Except Fault String × Locators :=
  let (name, resolver) := locators.resolver.resolve kind
  let locators := { locators with resolver }
  match name with
  | some name => (.ok name, locators)
  | none => (.error (.noDirectory kind), locators)

def ask (locators : Locators) (world : World) (kind : String)
    (use : External → Timed α × External) : Except Fault α × Locators × World :=
  match locators.directoryOf kind with
  | (.error fault, locators) => (.error fault, locators, world)
  | (.ok name, locators) =>
    match world.ask name use with
    | none => (.error (.noDirectory kind), locators, world)
    | some (result, world) => (.ok result, locators, world)

def registerExternal (locators : Locators) (world : World) (address : Address) :
    Except Fault Tagged × Locators × World :=
  let entry := Entry.ofAddress address .unknown
  match locators.ask world address.grain.kind (·.register entry) with
  | (.error fault, locators, world) => (.error fault, locators, world)
  | (.ok outcome, locators, world) =>
    match outcome.authoritative with
    | .error fault => (.error fault, locators, world)
    | .ok stored =>
      match stored.toTagged with
      | .error fault => (.error (.parse fault), locators, world)
      | .ok tagged =>
        let external := locators.external.addTagged world.now tagged.address.grain tagged
        (.ok tagged, { locators with external }, world)

-- What was learnt is forgotten even if the directory fails, but not if there is none.
def unregisterExternal (locators : Locators) (world : World) (cause : Cause)
    (address : Address) : Except Fault Unit × Locators × World :=
  let entry := Entry.ofAddress address .unknown
  match locators.ask world address.grain.kind (·.unregister entry) with
  | (.error fault, locators, world) => (.error fault, locators, world)
  | (.ok outcome, locators, world) =>
    (outcome.authoritative.map fun _ => (), locators.forgetExternal cause address, world)

def directoriesOf : Locators → List Address → List (Address × Except Fault String) × Locators
  | locators, [] => ([], locators)
  | locators, address :: rest =>
    let (name, locators) := locators.directoryOf address.grain.kind
    let (names, locators) := directoriesOf locators rest
    ((address, name) :: names, locators)

def batches (named : List (Address × Except Fault String)) :
    List (String × List (String × Address × Nat)) :=
  Order.group Prod.fst (named.zipIdx.filterMap fun ((address, name), place) =>
    match name with
    | .ok name => some (name, address, place)
    | .error _ => none)

-- Each directory unregisters its batch; the batches run side by side, so that the longest wait
-- counts. Answers the faults with their places.
def unregisterBatches (stores : Keyed String External) :
    List (String × List (String × Address × Nat)) →
      List (Fault × Nat) × Nat × Keyed String External
  | [] => ([], 0, stores)
  | (name, batch) :: rest =>
    match stores.get? name with
    | none => unregisterBatches stores rest
    | some store =>
      let (timed, store) :=
        store.unregisterMany (batch.map fun item => Entry.ofAddress item.2.1 .unknown)
      let faults := (List.zip timed.result batch).filterMap fun (outcome, item) =>
        match outcome.authoritative with
        | .error fault => some (fault, item.2.2)
        | .ok _ => none
      let (others, waited, stores) := unregisterBatches (stores.put name store) rest
      (faults ++ others, max timed.waited waited, stores)

-- All addresses are attempted at once; of several faults that of the first address counts.
def unregisterManyExternal (locators : Locators) (world : World) (cause : Cause)
    (addresses : List Address) : Except Fault Unit × Locators × World :=
  let (named, locators) := locators.directoriesOf addresses
  let (faults, waited, stores) := unregisterBatches world.stores (batches named)
  let unnamed := named.zipIdx.filterMap fun ((_, name), place) =>
    match name with
    | .ok _ => none
    | .error fault => some (fault, place)
  let world := { world with stores }.wait waited
  let locators := named.foldl (fun locators (address, name) =>
    match name with
    | .ok _ => locators.forgetExternal cause address
    | .error _ => locators) locators
  match Order.sortOn Prod.snd (unnamed ++ faults) with
  | [] => (.ok (), locators, world)
  | (fault, _) :: _ => (.error fault, locators, world)

def lookupExternal (locators : Locators) (world : World) (grain : Grain) :
    Except Fault (Option Found) × Locators × World :=
  match locators.external.lookup world.now grain with
  | (some found, external) => (.ok (some found), { locators with external }, world)
  | (none, external) =>
    match { locators with external }.ask world grain.kind (·.lookup grain.toText) with
    | (.error fault, locators, world) => (.error fault, locators, world)
    | (.ok (.error fault), locators, world) => (.error fault, locators, world)
    | (.ok (.ok none), locators, world) => (.ok none, locators, world)
    | (.ok (.ok (some entry)), locators, world) =>
      match entry.toFound with
      | .error fault => (.error (.parse fault), locators, world)
      | .ok found =>
        (.ok (some found),
          { locators with external := locators.external.addFound world.now found }, world)

def tryExternal (locators : Locators) (world : World) (grain : Grain) :
    Option Found × Locators :=
  let (found, external) := locators.external.lookup world.now grain
  (found, { locators with external })

def invalidateExternal (locators : Locators) (address : Address) : Locators :=
  { locators with external := (locators.external.invalidate address).2 }

end ActorDirectory.Locators
