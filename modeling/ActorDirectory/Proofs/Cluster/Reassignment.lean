import ActorDirectory.Proofs.Cluster.Reached
import ActorDirectory.Proofs.Membership.Differences
import ActorDirectory.Proofs.Partition.Primacy

-- What a silo closes, keeps and hands over when the owners of grains change.
namespace ActorDirectory

namespace Snapshot

variable {snapshot earlier later : Snapshot} {silo : Silo}

theorem alive_eq (snapshot : Snapshot) (silo : Silo) :
    (!snapshot.isDead silo) = (snapshot.status? silo).any (· ≠ .dead) := by
  cases found : snapshot.status? silo <;> simp [isDead, status, found]

-- The silo was active and is not so any more, or it was known to live and is dead or unknown.
def Departs (earlier later : Snapshot) (silo : Silo) : Prop :=
  (earlier.status? silo = some .active ∧ later.status? silo ≠ some .active) ∨
    (∃ status, earlier.status? silo = some status ∧ status ≠ .dead) ∧
      (later.status? silo = none ∨ later.status? silo = some .dead)

theorem departs_iff : earlier.Departs later silo ↔
    silo ∈ (later.changesSince earlier).removed ++ (later.changesSince earlier).died := by
  rw [List.mem_append, mem_removed, mem_died]
  exact Iff.rfl

end Snapshot

namespace Partition

variable {partition : Partition} {stays : Grain → Silo → Bool} {grain : Grain}

theorem retain_listed (partition : Partition) (stays : Grain → Silo → Bool) (grain : Grain) :
    (partition.retain stays).2.listed grain =
      (partition.listed grain).filter fun inst => stays grain inst.silo := by
  rw [listed, listed, retain_roster]
  cases partition.roster? grain with
  | none => rfl
  | some roster =>
    simp only [Option.bind_some, Roster.keep, Option.map_some, Option.getD_some]
    split
    · rename_i emptied
      exact (List.isEmpty_iff.mp emptied).symm
    · rfl

theorem retain_known : ((partition.retain stays).2.held.get? grain).isSome ↔
    (partition.retain stays).2.listed grain ≠ [] := by
  have known : ((partition.retain stays).2.held.get? grain).isSome =
      ((partition.retain stays).2.roster? grain).isSome := Option.isSome_map.symm
  rw [known, listed]
  cases left : (partition.retain stays).2.roster? grain with
  | none => simp
  | some kept =>
    rw [retain_roster] at left
    obtain ⟨roster, _, remains⟩ := Option.bind_eq_some_iff.mp left
    obtain ⟨someone, rfl⟩ := Roster.keep_eq_some.mp remains
    simpa using someone

end Partition

namespace Channel

def errands (channel : Channel) (requests : List (Request Channel Errand)) : List Errand :=
  requests.filterMap fun
    | .enqueue key errand => if key = channel then some errand else none
    | .close _ => none

@[simp] theorem errands_append (channel : Channel)
    (earlier later : List (Request Channel Errand)) :
    channel.errands (earlier ++ later) = channel.errands earlier ++ channel.errands later :=
  List.filterMap_append

theorem errands_flatMap (channel : Channel) (items : List α)
    (requests : α → List (Request Channel Errand)) :
    channel.errands (items.flatMap requests) =
      items.flatMap fun item => channel.errands (requests item) :=
  List.filterMap_flatMap

@[simp] theorem errands_closing (channel : Channel) (silos : List Silo) (key : Silo → Channel) :
    channel.errands (silos.map fun silo => .close (key silo)) = [] := by
  simp [errands]

theorem errands_enqueued (channel key : Channel) (asked : List Errand) :
    channel.errands (asked.map (.enqueue key)) = if key = channel then asked else [] := by
  simp only [errands, List.filterMap_map, Function.comp_def]
  split
  · exact List.filterMap_some ..
  · exact List.filterMap_eq_nil_iff.mpr fun _ _ => rfl

end Channel

namespace Node

variable {hash : String → UInt64} {chunk : Nat} {node : Node} {previous current : Membership}

def accepts (chunk : Nat) (moved : List Hosted) : List Errand :=
  (Order.chunks chunk ((moved.filter (·.single)).map Hosted.address)).map (.accept · []) ++
    (Order.chunks chunk ((moved.filter (!·.single)).map Hosted.address)).map (.accept [] ·)

theorem handoffs_eq (chunk : Nat) (source owner : Silo) (moved : List Hosted) :
    handoffs chunk source owner moved =
      (accepts chunk moved).map (.enqueue (.handoff source owner)) := by
  simp [handoffs, accepts, Function.comp_def]

def regained (hash : String → UInt64) (node : Node) (previous current : Membership)
    (target : Silo) : List Hosted :=
  node.catalog.hosted.filter fun hosted =>
    current.owner? hash hosted.address.grain = some target ∧
      previous.owner? hash hosted.address.grain ≠ some target

theorem moved_to (target : Silo) :
    ((node.moved hash previous current).filter fun pair => pair.1 = target).map Prod.snd =
      node.regained hash previous current target := by
  rw [moved, regained]
  induction node.catalog.hosted with
  | nil => rfl
  | cons hosted rest ih =>
    rw [List.filterMap_cons, List.filter_cons]
    cases owned : current.owner? hash hosted.address.grain with
    | none => simpa [owned] using ih
    | some owner =>
      by_cases stayed : previous.owner? hash hosted.address.grain = some owner
      · by_cases same : owner = target <;> simpa [owned, stayed, same] using ih
      · by_cases same : owner = target <;> simp_all

theorem reassign_errands (hash : String → UInt64) (chunk : Nat) (node : Node)
    (previous current : Membership) (target : Silo) :
    (Channel.handoff node.silo target).errands
        (node.reassign hash chunk previous current).2 =
      accepts chunk (node.regained hash previous current target) := by
  have each : ∀ batch : Silo × List (Silo × Hosted),
      (Channel.handoff node.silo target).errands
          (handoffs chunk node.silo batch.1 (batch.2.map Prod.snd)) =
        if batch.1 = target then accepts chunk (batch.2.map Prod.snd) else [] := by
    intro batch
    rw [handoffs_eq, Channel.errands_enqueued]
    simp only [Channel.handoff.injEq, true_and]
  have gathered : (Order.group Prod.fst (node.moved hash previous current)).foldl
      (fun asked batch => if batch.1 = target then asked ++ accepts chunk (batch.2.map Prod.snd)
        else asked) [] = accepts chunk (node.regained hash previous current target) := by
    rw [← moved_to]
    exact Order.foldl_group (fun asked batch => asked ++ accepts chunk (batch.map Prod.snd))
      (fun asked => List.append_nil asked) (node.moved hash previous current) target []
  rw [reassign, Channel.errands_append, Channel.errands_closing, List.nil_append,
    Channel.errands_flatMap, List.flatMap_eq_foldl, ← gathered]
  refine congrArg (fun gather => List.foldl gather [] _) (funext fun asked => funext fun batch => ?_)
  rw [each]
  split
  · rfl
  · exact List.append_nil asked

-- What is asked for and what the silo keeps. The lanes to silos that left are closed before
-- anything is handed over.
structure Reassigns (hash : String → UInt64) (chunk : Nat) (node : Node)
    (previous current : Membership) (after : Node) (requests : List (Request Channel Errand)) :
    Prop where
  framed : after = { node with partition := after.partition }
  closed : ∃ (gone : List Silo) (handing : List (Request Channel Errand)),
    requests = gone.map (fun silo => .close (.handoff node.silo silo)) ++ handing ∧
    (∀ silo, silo ∈ gone ↔ previous.snapshot.Departs current.snapshot silo) ∧
    ∀ request ∈ handing, ∃ target single multi,
      request = .enqueue (.handoff node.silo target) (.accept single multi)
  handed : ∀ target, ∃ singles multis : List (List Address),
    (Channel.handoff node.silo target).errands requests =
      singles.map (.accept · []) ++ multis.map (.accept [] ·) ∧
    Order.Cuts chunk
      (((node.regained hash previous current target).filter (·.single)).map Hosted.address)
      singles ∧
    Order.Cuts chunk
      (((node.regained hash previous current target).filter (!·.single)).map Hosted.address)
      multis
  unmoved : ∀ hosted ∈ node.catalog.hosted,
    current.owner? hash hosted.address.grain = none ∨
      current.owner? hash hosted.address.grain = previous.owner? hash hosted.address.grain →
    ∀ key single multi, .enqueue key (.accept single multi) ∈ requests →
      hosted.address ∉ single ++ multi
  kept : ∀ grain, after.partition.listed grain = (node.partition.listed grain).filter fun inst =>
    current.owner? hash grain = some node.silo &&
      (current.snapshot.status? inst.silo).any (· ≠ .dead)
  known : ∀ grain, (after.partition.held.get? grain).isSome ↔ after.partition.listed grain ≠ []

theorem reassign_hands_over (hash : String → UInt64) {chunk : Nat} (positive : 0 < chunk)
    (node : Node) (previous current : Membership) :
    Reassigns hash chunk node previous current (node.reassign hash chunk previous current).1
      (node.reassign hash chunk previous current).2 := by
  refine ⟨rfl, ⟨_, _, rfl, fun silo => Snapshot.departs_iff.symm, fun request asked => ?_⟩,
    fun target => ?_, fun hosted here stays key single multi asked listed => ?_, fun grain => ?_,
    fun grain => Partition.retain_known⟩
  · obtain ⟨⟨owner, batch⟩, _, asked⟩ := List.mem_flatMap.mp asked
    obtain ⟨single, multi, same, _, _⟩ := mem_handoffs positive asked
    exact ⟨owner, single, multi, same⟩
  · exact ⟨_, _, reassign_errands hash chunk node previous current target,
      Order.chunks_cuts positive _, Order.chunks_cuts positive _⟩
  · obtain ⟨owner, _, _, _, same, singles, multis⟩ := reassign_asks positive asked
    cases same
    have moves : current.owner? hash hosted.address.grain = some owner ∧
        previous.owner? hash hosted.address.grain ≠ some owner := by
      rcases List.mem_append.mp listed with one | many
      · exact (mem_moved.mp (singles _ one)).2
      · exact (mem_moved.mp (multis _ many)).2
    obtain ⟨owned, apart⟩ := moves
    rcases stays with ownerless | unchanged
    · rw [ownerless] at owned
      cases owned
    · exact apart (unchanged ▸ owned)
  · refine (Partition.retain_listed node.partition _ grain).trans ?_
    simp only [Snapshot.alive_eq]

end Node

namespace Duo

def third : Silo := ⟨.v4 ⟨10, 0, 0, 3⟩, 100, 1⟩

def ranks (epoch : UInt64) (one two three : Status) : Membership :=
  .ofSnapshot Xxh3.hashText 1
    (.ofMembers [.unnamed first one, .unnamed second two, .unnamed third three] ⟨epoch⟩)

def manned : Membership := ranks 1 .active .active .joining

def relieved : Membership := ranks 2 .active .dead .active

def guarded : List Hosted :=
  [⟨numbered "0" first 10, true⟩, ⟨numbered "1" first 11, true⟩, ⟨numbered "10" first 20, false⟩,
    ⟨numbered "4" first 14, true⟩, ⟨numbered "7" first 17, true⟩]

def guarding : Node where
  silo := first
  partition := Partition.empty.run [.register (numbered "0" first 10) true,
    .register (numbered "2" second 12) false, .register (numbered "2" third 13) false,
    .register (numbered "8" third 18) true]
  catalog := { hosted := guarded }

theorem guarding_hands_over : 0 < 2 ∧
    (guarding.reassign Xxh3.hashText 2 manned relieved).2 =
      [.close (.handoff first second), .close (.handoff first second),
        .enqueue (.handoff first third) (.accept [numbered "1" first 11, numbered "4" first 14] []),
        .enqueue (.handoff first third) (.accept [numbered "7" first 17] []),
        .enqueue (.handoff first third) (.accept [] [numbered "10" first 20])] ∧
    Node.Reassigns Xxh3.hashText 2 guarding manned relieved
      (guarding.reassign Xxh3.hashText 2 manned relieved).1
      (guarding.reassign Xxh3.hashText 2 manned relieved).2 :=
  ⟨by decide, by decide +kernel,
    Node.reassign_hands_over Xxh3.hashText (by decide) guarding manned relieved⟩

end Duo
end ActorDirectory
