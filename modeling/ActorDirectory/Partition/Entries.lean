import ActorDirectory.Partition

namespace ActorDirectory.Partition

-- The same activation registered again is a success, wherever it is said to run.
def registerEntry (partition : Partition) (entry : Entry) : Outcome × Partition :=
  match entry.toAddress with
  | .error fault => (.failure entry (.parse fault), partition)
  | .ok address =>
    let (stored, partition) := partition.register address true
    let actual := Entry.ofAddress stored.address stored.version
    if stored.address.activation = address.activation then (.success actual, partition)
    else (.redirect entry actual, partition)

def unregisterEntry (partition : Partition) (entry : Entry) : Outcome × Partition :=
  match entry.toAddress with
  | .error fault => (.failure entry (.parse fault), partition)
  | .ok address =>
    match partition.unregisterAt address entry.version with
    | .error fault => (.failure entry fault, partition)
    | .ok (_, partition) => (.success entry, partition)

def lookupEntry (partition : Partition) (grain : String) : Except Fault (Option Entry) :=
  match Grain.parse grain with
  | .error fault => .error (.parse fault)
  | .ok grain =>
    .ok do
      let found ← partition.lookup grain
      (Entry.ofAddress · found.version) <$> found.primary?

def each (step : Partition → α → β × Partition) (partition : Partition) :
    List α → List β × Partition
  | [] => ([], partition)
  | item :: rest =>
    let (result, partition) := step partition item
    let (results, partition) := each step partition rest
    (result :: results, partition)

def registerEntries : Partition → List Entry → List Outcome × Partition := each registerEntry

def unregisterEntries : Partition → List Entry → List Outcome × Partition := each unregisterEntry

def lookupEntries (partition : Partition) (grains : List String) :
    List (Except Fault (Option Entry)) :=
  grains.map partition.lookupEntry

end ActorDirectory.Partition
