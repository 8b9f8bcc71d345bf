import ActorDirectory.Cluster.Handoff
import ActorDirectory.Proofs.Membership.Ownership
import ActorDirectory.Proofs.Partition.Roster

-- What one silo does when it takes in a snapshot or a hand-over reaches it.
namespace ActorDirectory

namespace Partition

def enlist (single : Bool) (partition : Partition) (addresses : List Address) : Partition :=
  addresses.foldl (fun partition address => (partition.register address single).2) partition

def receive (state : List Address × Partition) (address : Address) : List Address × Partition :=
  let (stored, partition) := state.2.register address true
  if stored.address.activation = address.activation then (state.1, partition)
  else (state.1 ++ [address], partition)

theorem accept_eq (partition : Partition) (single multi : List Address) :
    partition.accept single multi =
      ((single.foldl receive ([], partition)).1,
        (single.foldl receive ([], partition)).2.enlist false multi) := rfl

theorem received_partition (state : List Address × Partition) (single : List Address) :
    (single.foldl receive state).2 = state.2.enlist true single := by
  refine (List.foldl_hom Prod.snd fun state address => ?_).symm
  simp only [receive]
  split <;> rfl

theorem accept_partition (partition : Partition) (single multi : List Address) :
    (partition.accept single multi).2 = (partition.enlist true single).enlist false multi := by
  rw [accept_eq, received_partition]

variable {partition : Partition} {single : Bool} {addresses : List Address}

theorem enlist_proper (proper : partition.Proper) : (partition.enlist single addresses).Proper := by
  induction addresses generalizing partition with
  | nil => exact proper
  | cons address rest ih => exact ih (register_proper proper address single)

theorem enlist_keeps {other : Address} (addresses : List Address)
    (held : partition.Holds other) :
    (partition.enlist single addresses).Holds other := by
  induction addresses generalizing partition with
  | nil => exact held
  | cons address rest ih => exact ih (register_holds.mpr (.inl held))

theorem of_enlist {other : Address} (held : (partition.enlist single addresses).Holds other) :
    partition.Holds other ∨ other ∈ addresses := by
  induction addresses generalizing partition with
  | nil => exact .inl held
  | cons address rest ih =>
    rcases ih held with earlier | later
    · rcases register_holds.mp earlier with earlier | ⟨rfl, _⟩
      · exact .inl earlier
      · exact .inr (List.mem_cons_self ..)
    · exact .inr (List.mem_cons_of_mem _ later)

theorem enlist_known {grain : Grain} :
    ((partition.enlist single addresses).roster? grain).isSome ↔
      (partition.roster? grain).isSome ∨ ∃ address ∈ addresses, address.grain = grain := by
  induction addresses generalizing partition with
  | nil => simp [enlist]
  | cons address rest ih =>
    refine (@ih (partition.register address single).2).trans ?_
    rw [register_roster]
    by_cases same : grain = address.grain
    · simp [same]
    · simp [same, Ne.symm same]

theorem accept_known {single multi : List Address} {grain : Grain} :
    ((partition.accept single multi).2.roster? grain).isSome ↔
      (partition.roster? grain).isSome ∨ ∃ address ∈ single ++ multi, address.grain = grain := by
  rw [accept_partition, enlist_known, enlist_known, or_assoc]
  simp only [List.mem_append, or_and_right, exists_or]

-- Every entry is of activations that are known to run, and one that runs at most once leaves
-- room for no other.
def Welcomes (partition : Partition) (runs : Hosted → Prop) : Prop :=
  ∀ grain roster, partition.roster? grain = some roster → roster.instances ≠ [] ∧
    ∀ inst ∈ roster.instances, (∃ hosted, runs hosted ∧ hosted.address = inst.address grain) ∧
      (roster.single = true → ∀ hosted, runs hosted → hosted.address.grain = grain →
        hosted.address = inst.address grain)

-- A grain that runs at most once has one activation.
def Alone (runs : Hosted → Prop) : Prop :=
  ∀ hosted other, runs hosted → runs other → hosted.single = true →
    other.address.grain = hosted.address.grain → other.address = hosted.address

section Welcome

variable {runs : Hosted → Prop} {address : Address}

theorem register_welcome (alone : Alone runs) (welcomes : partition.Welcomes runs)
    (known : runs ⟨address, single⟩) :
    (partition.register address single).1.address = address ∧
      (partition.register address single).2.Welcomes runs := by
  have own : address.toInstance.address address.grain = address := rfl
  constructor
  · rw [register_answer]
    cases found : partition.roster? address.grain with
    | none => rfl
    | some roster =>
      simp only [Roster.chosen]
      split
      · rename_i guarded
        obtain ⟨someone, each⟩ := welcomes _ _ found
        cases listed : roster.instances with
        | nil => exact absurd listed someone
        | cons first rest =>
          obtain ⟨⟨hosted, hosting, here⟩, only⟩ := each first (by simp [listed])
          simp only [List.headD_cons]
          cases lone : roster.single with
          | true => exact (only lone _ known rfl).symm
          | false =>
            have exclusive : single = true := by simpa [lone] using guarded
            rw [← here]
            exact alone ⟨address, single⟩ hosted known hosting exclusive (by rw [here]; rfl)
      · exact own
  · intro grain after found
    rw [register_roster] at found
    split at found
    · rename_i same
      subst same
      cases found
      refine ⟨Roster.enrol_someone (fun roster here => (welcomes _ roster here).1) _ _,
        fun inst present => ?_⟩
      rw [Roster.enrol_single]
      rcases Roster.mem_enrol.mp present with ⟨roster, earlier, present⟩ | ⟨rfl, _⟩
      · rw [earlier]
        exact (welcomes _ _ earlier).2 inst present
      · refine ⟨⟨_, known, own.symm⟩, fun lone hosted hosting same => ?_⟩
        cases earlier : partition.roster? address.grain with
        | none =>
          have first : single = true := by simpa [earlier] using lone
          exact alone ⟨address, single⟩ hosted known hosting first same
        | some roster =>
          have lone : roster.single = true := by simpa [earlier] using lone
          obtain ⟨someone, each⟩ := welcomes _ _ earlier
          obtain ⟨first, listed⟩ := List.exists_mem_of_ne_nil _ someone
          have only := (each first listed).2 lone
          rw [only hosted hosting same, own]
          exact (only _ known rfl).symm
    · exact welcomes grain after found

variable {single multi : List Address}

theorem enlist_welcome (alone : Alone runs) {flag : Bool} (welcomes : partition.Welcomes runs)
    (known : ∀ address ∈ addresses, runs ⟨address, flag⟩) :
    (partition.enlist flag addresses).Welcomes runs ∧
      ∀ address ∈ addresses, (partition.enlist flag addresses).Holds address := by
  induction addresses generalizing partition with
  | nil => exact ⟨welcomes, fun _ absent => nomatch absent⟩
  | cons first rest ih =>
    obtain ⟨answer, next⟩ := register_welcome alone welcomes (known first (List.mem_cons_self ..))
    obtain ⟨last, all⟩ := ih next fun address later => known address (List.mem_cons_of_mem _ later)
    refine ⟨last, fun address present => ?_⟩
    rcases List.mem_cons.mp present with rfl | later
    · exact enlist_keeps rest (register_holds.mpr (.inr ⟨rfl, answer⟩))
    · exact all address later

theorem receive_welcome (alone : Alone runs) (welcomes : partition.Welcomes runs)
    (known : ∀ address ∈ single, runs ⟨address, true⟩) (losers : List Address) :
    (single.foldl receive (losers, partition)).1 = losers := by
  induction single generalizing partition with
  | nil => rfl
  | cons first rest ih =>
    obtain ⟨answer, next⟩ := register_welcome alone welcomes (known first (List.mem_cons_self ..))
    have kept : receive (losers, partition) first =
        (losers, (partition.register first true).2) := by
      simp only [receive, answer, ↓reduceIte]
    rw [List.foldl_cons, kept]
    exact ih next fun address later => known address (List.mem_cons_of_mem _ later)

theorem accept_welcome (alone : Alone runs) (welcomes : partition.Welcomes runs)
    (singles : ∀ address ∈ single, runs ⟨address, true⟩)
    (multis : ∀ address ∈ multi, runs ⟨address, false⟩) :
    (partition.accept single multi).1 = [] ∧
      (partition.accept single multi).2.Welcomes runs ∧
      ∀ address ∈ single ++ multi, (partition.accept single multi).2.Holds address := by
  rw [accept_partition]
  obtain ⟨first, held⟩ := enlist_welcome alone welcomes singles
  obtain ⟨second, others⟩ := enlist_welcome alone first multis
  refine ⟨receive_welcome alone welcomes singles [], second, fun address handed => ?_⟩
  rcases List.mem_append.mp handed with one | many
  · exact enlist_keeps multi (held address one)
  · exact others address many

theorem retain_welcomes (welcomes : partition.Welcomes runs) (stays : Grain → Silo → Bool) :
    (partition.retain stays).2.Welcomes runs := by
  intro grain kept found
  rw [retain_roster] at found
  obtain ⟨roster, known, left⟩ := Option.bind_eq_some_iff.mp found
  obtain ⟨someone, rfl⟩ := Roster.keep_eq_some.mp left
  exact ⟨someone, fun inst present =>
    (welcomes grain roster known).2 inst (List.mem_filter.mp present).1⟩

end Welcome

end Partition

namespace Node

variable {hash : String → UInt64} {settings : Settings} {node : Node} {snapshot : Snapshot}
  {current : Membership}

def installs? (hash : String → UInt64) (settings : Settings) (node : Node)
    (snapshot : Snapshot) : Option Membership :=
  if node.isRunning then node.membership.install? hash settings.bucketsPerSilo snapshot else none

def adopts? (hash : String → UInt64) (settings : Settings) (node : Node)
    (snapshot : Snapshot) : Option Membership :=
  (node.installs? hash settings snapshot).filter fun current =>
    !(current.snapshot.changesSince node.membership.snapshot).isEmpty

theorem installs_eq_some : node.installs? hash settings snapshot = some current ↔
    node.isRunning = true ∧ ¬snapshot.epoch.number < node.membership.snapshot.epoch.number ∧
      current = .ofSnapshot hash settings.bucketsPerSilo snapshot := by
  simp only [installs?, Membership.install?]
  split
  · rename_i running
    split
    · rename_i older
      simp [older]
    · rename_i newer
      simp [running, newer, eq_comm]
  · rename_i stopped
    simp [stopped]

theorem adopts_eq_some : node.adopts? hash settings snapshot = some current ↔
    node.installs? hash settings snapshot = some current ∧
      ¬(current.snapshot.changesSince node.membership.snapshot).isEmpty := by
  simp [adopts?, Option.filter_eq_some_iff]

theorem apply_ignored (ignored : node.installs? hash settings snapshot = none) :
    node.apply hash settings snapshot = (node, []) := by
  simp only [installs?] at ignored
  simp only [apply]
  cases running : node.isRunning with
  | false => rfl
  | true =>
    simp only [running, ↓reduceIte] at ignored
    simp [ignored]

theorem apply_installed (installed : node.installs? hash settings snapshot = some current) :
    node.apply hash settings snapshot =
      if (current.snapshot.changesSince node.membership.snapshot).isEmpty then
        ({ node with membership := current }, [])
      else
        reassign hash settings.handoffChunkSize { node with membership := current }
          node.membership current := by
  obtain ⟨running, _⟩ := installs_eq_some.mp installed
  simp only [installs?, running, ↓reduceIte] at installed
  simp [apply, running, installed]

theorem apply_adopted (adopted : node.adopts? hash settings snapshot = some current) :
    node.apply hash settings snapshot =
      reassign hash settings.handoffChunkSize { node with membership := current }
        node.membership current := by
  obtain ⟨installed, changed⟩ := adopts_eq_some.mp adopted
  rw [apply_installed installed, if_neg changed]

theorem apply_frame : (node.apply hash settings snapshot).1.silo = node.silo ∧
    (node.apply hash settings snapshot).1.isRunning = node.isRunning ∧
    (node.apply hash settings snapshot).1.catalog = node.catalog := by
  cases installed : node.installs? hash settings snapshot with
  | none => simp [apply_ignored installed]
  | some current =>
    rw [apply_installed installed]
    split
    · exact ⟨rfl, rfl, rfl⟩
    · exact ⟨rfl, rfl, rfl⟩

theorem apply_membership : (node.apply hash settings snapshot).1.membership =
    (node.installs? hash settings snapshot).getD node.membership := by
  cases installed : node.installs? hash settings snapshot with
  | none => simp [apply_ignored installed]
  | some current =>
    rw [apply_installed installed]
    split
    · rfl
    · rfl

theorem apply_owner (made : node.membership.Made hash settings.bucketsPerSilo)
    (ignored : node.adopts? hash settings snapshot = none) (grain : Grain) :
    (node.apply hash settings snapshot).1.owner? hash grain = node.owner? hash grain := by
  rw [owner?, apply_membership]
  cases installed : node.installs? hash settings snapshot with
  | none => rfl
  | some current =>
    have unchanged : (current.snapshot.changesSince node.membership.snapshot).isEmpty = true := by
      simpa [adopts?, installed] using ignored
    obtain ⟨_, _, rfl⟩ := installs_eq_some.mp installed
    rw [Option.getD_some, owner?, made]
    exact Membership.owner_of_unchanged unchanged grain

theorem apply_partition : (node.apply hash settings snapshot).1.partition =
    match node.adopts? hash settings snapshot with
    | none => node.partition
    | some current => (node.partition.retain fun grain host =>
        current.owner? hash grain = some node.silo && !current.snapshot.isDead host).2 := by
  cases adopted : node.adopts? hash settings snapshot with
  | some current => rw [apply_adopted adopted]; rfl
  | none =>
    cases installed : node.installs? hash settings snapshot with
    | none => rw [apply_ignored installed]
    | some current =>
      have unchanged : (current.snapshot.changesSince node.membership.snapshot).isEmpty = true := by
        simpa [adopts?, installed] using adopted
      rw [apply_installed installed, if_pos unchanged]

theorem apply_proper (proper : node.partition.Proper) :
    (node.apply hash settings snapshot).1.partition.Proper := by
  rw [apply_partition]
  split
  · exact proper
  · exact Partition.retain_proper proper _

theorem apply_holds {address : Address} :
    (node.apply hash settings snapshot).1.partition.Holds address ↔
      node.partition.Holds address ∧ ∀ current ∈ node.adopts? hash settings snapshot,
        current.owner? hash address.grain = some node.silo ∧
          current.snapshot.isDead address.silo = false := by
  rw [apply_partition]
  cases adopted : node.adopts? hash settings snapshot with
  | none => simp
  | some current => simp [Partition.retain_holds]

theorem mem_handoffs {chunk : Nat} {source owner : Silo} {moved : List Hosted}
    {request : Request Channel Errand} (positive : 0 < chunk)
    (asked : request ∈ handoffs chunk source owner moved) :
    ∃ single multi, request = .enqueue (.handoff source owner) (.accept single multi) ∧
      (∀ address ∈ single, ⟨address, true⟩ ∈ moved) ∧
      ∀ address ∈ multi, ⟨address, false⟩ ∈ moved := by
  have flagged : ∀ flag, ∀ address ∈ (moved.filter (·.single == flag)).map Hosted.address,
      ⟨address, flag⟩ ∈ moved := by
    intro flag address present
    obtain ⟨hosted, chosen, rfl⟩ := List.mem_map.mp present
    obtain ⟨here, same⟩ := List.mem_filter.mp chosen
    exact (beq_iff_eq.mp same) ▸ here
  rcases List.mem_append.mp asked with asked | asked
  · obtain ⟨run, cut, rfl⟩ := List.mem_map.mp asked
    refine ⟨run, [], rfl, fun address present => flagged true address ?_, by simp⟩
    simpa using Order.chunk_subset positive cut present
  · obtain ⟨run, cut, rfl⟩ := List.mem_map.mp asked
    refine ⟨[], run, rfl, by simp, fun address present => flagged false address ?_⟩
    simpa using Order.chunk_subset positive cut present

theorem exists_handoff {chunk : Nat} {moved : List Hosted} {hosted : Hosted}
    (positive : 0 < chunk) (source owner : Silo) (present : hosted ∈ moved) :
    ∃ single multi, .enqueue (.handoff source owner) (.accept single multi) ∈
      handoffs chunk source owner moved ∧ hosted.address ∈ single ++ multi := by
  cases flag : hosted.single with
  | true =>
    have chosen : hosted.address ∈ (moved.filter (·.single)).map Hosted.address :=
      List.mem_map.mpr ⟨hosted, List.mem_filter.mpr ⟨present, flag⟩, rfl⟩
    obtain ⟨run, cut, inside⟩ := Order.exists_chunk positive chosen
    exact ⟨run, [], List.mem_append_left _ (List.mem_map.mpr ⟨run, cut, rfl⟩), by simpa⟩
  | false =>
    have chosen : hosted.address ∈ (moved.filter (!·.single)).map Hosted.address :=
      List.mem_map.mpr ⟨hosted, List.mem_filter.mpr ⟨present, by simp [flag]⟩, rfl⟩
    obtain ⟨run, cut, inside⟩ := Order.exists_chunk positive chosen
    exact ⟨[], run, List.mem_append_right _ (List.mem_map.mpr ⟨run, cut, rfl⟩), by simpa⟩

theorem mem_moved {previous : Membership} {owner : Silo} {hosted : Hosted} :
    (owner, hosted) ∈ node.moved hash previous current ↔ hosted ∈ node.catalog.hosted ∧
      current.owner? hash hosted.address.grain = some owner ∧
      previous.owner? hash hosted.address.grain ≠ some owner := by
  simp only [moved, List.mem_filterMap]
  constructor
  · rintro ⟨other, here, moves⟩
    split at moves
    · cases moves
    · rename_i next owned
      split at moves
      · cases moves
      · rename_i relocated
        cases moves
        exact ⟨here, owned, relocated⟩
  · rintro ⟨here, owned, other⟩
    exact ⟨hosted, here, by simp [owned, other]⟩

theorem reassign_asks {previous : Membership} {chunk : Nat} {key : Channel} {errand : Errand}
    (positive : 0 < chunk)
    (asked : .enqueue key errand ∈ (node.reassign hash chunk previous current).2) :
    ∃ owner single multi, key = .handoff node.silo owner ∧ errand = .accept single multi ∧
      (∀ address ∈ single, (owner, ⟨address, true⟩) ∈ node.moved hash previous current) ∧
      ∀ address ∈ multi, (owner, ⟨address, false⟩) ∈ node.moved hash previous current := by
  rcases List.mem_append.mp asked with closing | asked
  · obtain ⟨_, _, same⟩ := List.mem_map.mp closing
    cases same
  · obtain ⟨⟨owner, batch⟩, grouped, asked⟩ := List.mem_flatMap.mp asked
    obtain ⟨_, rfl⟩ := Order.mem_group.mp grouped
    obtain ⟨single, multi, same, singles, multis⟩ := mem_handoffs positive asked
    cases same
    have moves : ∀ hosted, hosted ∈ (((node.moved hash previous current).filter
        fun pair => pair.1 = owner).map Prod.snd) →
          (owner, hosted) ∈ node.moved hash previous current := by
      intro hosted present
      obtain ⟨⟨next, _⟩, chosen, rfl⟩ := List.mem_map.mp present
      obtain ⟨moves, same⟩ := List.mem_filter.mp chosen
      cases of_decide_eq_true same
      exact moves
    exact ⟨owner, single, multi, rfl, rfl, fun address present => moves _ (singles address present),
      fun address present => moves _ (multis address present)⟩

theorem apply_asks {key : Channel} {errand : Errand} (positive : 0 < settings.handoffChunkSize)
    (asked : .enqueue key errand ∈ (node.apply hash settings snapshot).2) :
    ∃ current owner single multi, node.adopts? hash settings snapshot = some current ∧
      key = .handoff node.silo owner ∧ errand = .accept single multi ∧
      (∀ address ∈ single, ⟨address, true⟩ ∈ node.catalog.hosted ∧
        current.owner? hash address.grain = some owner) ∧
      ∀ address ∈ multi, ⟨address, false⟩ ∈ node.catalog.hosted ∧
        current.owner? hash address.grain = some owner := by
  cases adopted : node.adopts? hash settings snapshot with
  | none =>
    cases installed : node.installs? hash settings snapshot with
    | none => simp [apply_ignored installed] at asked
    | some current =>
      have unchanged : (current.snapshot.changesSince node.membership.snapshot).isEmpty = true := by
        simpa [adopts?, installed] using adopted
      simp [apply_installed installed, unchanged] at asked
  | some current =>
    rw [apply_adopted adopted] at asked
    obtain ⟨owner, single, multi, rfl, rfl, singles, multis⟩ := reassign_asks positive asked
    refine ⟨current, owner, single, multi, rfl, rfl, rfl, fun address present => ?_,
      fun address present => ?_⟩
    · obtain ⟨here, owned, _⟩ := mem_moved.mp (singles address present)
      exact ⟨here, owned⟩
    · obtain ⟨here, owned, _⟩ := mem_moved.mp (multis address present)
      exact ⟨here, owned⟩

theorem asks_moved {hosted : Hosted} {owner : Silo} (positive : 0 < settings.handoffChunkSize)
    (adopted : node.adopts? hash settings snapshot = some current)
    (here : hosted ∈ node.catalog.hosted)
    (owned : current.owner? hash hosted.address.grain = some owner)
    (other : node.membership.owner? hash hosted.address.grain ≠ some owner) :
    ∃ single multi, .enqueue (.handoff node.silo owner) (.accept single multi) ∈
      (node.apply hash settings snapshot).2 ∧ hosted.address ∈ single ++ multi := by
  have moves : (owner, hosted) ∈ node.moved hash node.membership current :=
    mem_moved.mpr ⟨here, owned, other⟩
  have batched : hosted ∈ ((node.moved hash node.membership current).filter
      fun pair => pair.1 = owner).map Prod.snd :=
    List.mem_map.mpr ⟨_, List.mem_filter.mpr ⟨moves, by simp⟩, rfl⟩
  obtain ⟨single, multi, asked, inside⟩ := exists_handoff positive node.silo owner batched
  refine ⟨single, multi, ?_, inside⟩
  rw [apply_adopted adopted]
  refine List.mem_append_right _ (List.mem_flatMap.mpr ⟨(owner, _), ?_, asked⟩)
  exact Order.mem_group.mpr ⟨List.mem_map.mpr ⟨_, moves, rfl⟩, rfl⟩

theorem accept_frame {single multi : List Address} :
    (node.accept single multi).2.1 =
      { node with partition := (node.partition.accept single multi).2 } := rfl

end Node
end ActorDirectory
