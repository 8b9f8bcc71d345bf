import ActorDirectory.Proofs.Cluster.Shares

-- To its clients a cluster whose silos agree is one table, wherever they call.
namespace ActorDirectory

inductive Question where
  | register (silo : Silo) (address : Address) (single : Bool)
  | unregister (silo : Silo) (address : Address)
  | unregisterMany (silo : Silo) (addresses : List Address)
  | lookup (silo : Silo) (grain : Grain)

inductive Answer where
  | registered (address : Address)
  | unregistered
  | found (addresses : Option (List Address))
  deriving DecidableEq, Repr

namespace Question

def silo : Question → Silo
  | register silo _ _ => silo
  | unregister silo _ => silo
  | unregisterMany silo _ => silo
  | lookup silo _ => silo

end Question

namespace Partition

def answer (partition : Partition) : Question → Answer × Partition
  | .register _ address single =>
    let (tagged, partition) := partition.register address single
    (.registered tagged.address, partition)
  | .unregister _ address => (.unregistered, (partition.unregister address).2)
  | .unregisterMany _ addresses => (.unregistered, partition.withdraw addresses)
  | .lookup _ grain => (.found ((partition.lookup grain).map Found.addresses), partition)

def answers (partition : Partition) : List Question → List Answer × Partition
  | [] => ([], partition)
  | question :: rest =>
    let (first, partition) := partition.answer question
    let (others, partition) := partition.answers rest
    (first :: others, partition)

end Partition

namespace Cluster

def answer (cluster : Cluster) : Question → Except Fault Answer × Cluster
  | .register silo address single =>
    let (result, cluster) := cluster.register silo address single 0
    (result.map fun tagged => .registered tagged.address, cluster)
  | .unregister silo address =>
    let (result, cluster) := cluster.unregister silo address 0
    (result.map fun _ => .unregistered, cluster)
  | .unregisterMany silo addresses =>
    let (result, cluster) := cluster.unregisterMany silo addresses 0
    (result.map fun _ => .unregistered, cluster)
  | .lookup silo grain =>
    let (result, cluster) := cluster.lookup silo grain 0
    (result.map fun found => .found (found.map Found.addresses), cluster)

def answers (cluster : Cluster) : List Question → List (Except Fault Answer) × Cluster
  | [] => ([], cluster)
  | question :: rest =>
    let (first, cluster) := cluster.answer question
    let (others, cluster) := cluster.answers rest
    (first :: others, cluster)

end Cluster

namespace Partition

variable {partition : Partition} {addresses : List Address} {grain : Grain}

theorem withdraw_roster : (partition.withdraw addresses).roster? grain =
    (addresses.filter (·.grain = grain)).foldl
      (fun roster address => roster.bind (Roster.strike address.activation))
      (partition.roster? grain) := by
  induction addresses generalizing partition with
  | nil => rfl
  | cons address rest ih =>
    refine (@ih (partition.unregister address).2).trans ?_
    rw [unregister_roster]
    by_cases same : address.grain = grain
    · simp [same]
    · simp [same, Ne.symm same]

end Partition

namespace Cluster

variable {cluster after : Cluster} {snapshot : Snapshot} {silo owner : Silo} {node : Node}
  {grain : Grain} {change : Silo → Partition → Partition}

theorem becomes_ownerIn (becomes : cluster.Becomes change after) (snapshot : Snapshot)
    (grain : Grain) : after.ownerIn snapshot grain = cluster.ownerIn snapshot grain := by
  obtain ⟨⟨nodes, sent, rfl⟩, _⟩ := becomes
  rfl

-- All silos run with one snapshot installed, and those that it calls active can be reached.
structure Uniform (cluster : Cluster) (snapshot : Snapshot) : Prop where
  valid : cluster.settings.problems = []
  named : cluster.Named
  running : ∀ silo node, cluster.nodes.get? silo = some node → node.isRunning = true
  follows : ∀ silo node, cluster.nodes.get? silo = some node → node.membership =
    .ofSnapshot cluster.hash cluster.settings.bucketsPerSilo snapshot
  someone : ∃ silo, snapshot.isActive silo = true
  served : ∀ silo, snapshot.isActive silo = true → ∃ node, cluster.reach silo = .ok node

theorem uniform_of_tables (valid : cluster.settings.problems = [])
    (each : ∀ pair ∈ cluster.nodes.pairs, pair.2.silo = pair.1 ∧ pair.2.isRunning = true ∧
      pair.2.membership = .ofSnapshot cluster.hash cluster.settings.bucketsPerSilo snapshot)
    (someone : ∃ silo, snapshot.isActive silo = true)
    (served : ∀ silo ∈ snapshot.activeSilos, ∃ pair ∈ cluster.nodes.pairs, pair.1 = silo ∧
      silo ∉ cluster.unreachable ∧ silo ∈ cluster.linked) : cluster.Uniform snapshot := by
  refine ⟨valid, ?_, ?_, ?_, someone, fun silo active => ?_⟩
  · exact fun silo node here => (each _ (Keyed.mem_of_get? here)).1
  · exact fun silo node here => (each _ (Keyed.mem_of_get? here)).2.1
  · exact fun silo node here => (each _ (Keyed.mem_of_get? here)).2.2
  · obtain ⟨pair, present, rfl, reachable, linked⟩ :=
      served silo (Snapshot.mem_activeSilos.mpr active)
    exact ⟨pair.2, reach_of reachable linked (Keyed.get?_of_mem present)⟩

theorem becomes_uniform (uniform : cluster.Uniform snapshot) (becomes : cluster.Becomes change after) :
    after.Uniform snapshot := by
  obtain ⟨⟨nodes, sent, rfl⟩, related⟩ := becomes
  have origin : ∀ silo node, nodes.get? silo = some node → ∃ before,
      cluster.nodes.get? silo = some before ∧
        { before with partition := change silo before.partition } = node := by
    intro silo node found
    exact Option.map_eq_some_iff.mp ((related silo).symm.trans found)
  refine ⟨uniform.valid, ?_, ?_, ?_, uniform.someone, ?_⟩
  · intro silo node found
    obtain ⟨before, here, rfl⟩ := origin silo node found
    exact uniform.named silo before here
  · intro silo node found
    obtain ⟨before, here, rfl⟩ := origin silo node found
    exact uniform.running silo before here
  · intro silo node found
    obtain ⟨before, here, rfl⟩ := origin silo node found
    exact uniform.follows silo before here
  · intro silo active
    obtain ⟨node, reached⟩ := uniform.served silo active
    exact ⟨_, becomes_reach ⟨⟨_, _, rfl⟩, related⟩ reached⟩

theorem uniform_owner (uniform : cluster.Uniform snapshot) (grain : Grain) :
    ∃ owner, cluster.ownerIn snapshot grain = some owner := by
  obtain ⟨silo, active⟩ := uniform.someone
  exact ownerIn_exists uniform.valid active grain

theorem uniform_asked (uniform : cluster.Uniform snapshot)
    (here : cluster.nodes.get? silo = some node) {hops : UInt8} (few : hops.toNat ≤ 1) :
    cluster.Asked silo node hops := by
  refine ⟨here, uniform.named silo node here, uniform.running silo node here, ?_⟩
  have positive := (Settings.positive uniform.valid).2.2
  rw [UInt8.le_iff_toNat_le]
  omega

theorem uniform_owner? (uniform : cluster.Uniform snapshot)
    (here : cluster.nodes.get? silo = some node) :
    node.owner? cluster.hash = cluster.ownerIn snapshot := by
  funext grain
  rw [Node.owner?, uniform.follows silo node here, ownerIn]

-- A request that was forwarded at most once is answered by the owner and forwarded by the others.
theorem uniform_route (uniform : cluster.Uniform snapshot)
    (here : cluster.nodes.get? silo = some node) (owned : cluster.ownerIn snapshot grain = some owner)
    {hops : UInt8} (few : hops.toNat ≤ 1) :
    node.route cluster.hash cluster.settings.maxHops grain hops =
      .ok (if owner = silo then .here else .forward owner) :=
  asked_route (uniform_asked uniform here few) (by rw [uniform_owner? uniform here, owned])

theorem travelFrom_owner (uniform : cluster.Uniform snapshot)
    (here : cluster.nodes.get? silo = some node)
    (owned : cluster.ownerIn snapshot grain = some owner) :
    (cluster.travelFrom silo grain 0).2 = .ok owner := by
  have name := uniform.named silo node here
  have room : roomAt 0 = 254 + 1 := rfl
  simp only [travelFrom, here, room]
  rw [travel, uniform_route uniform here owned (by decide)]
  by_cases same : owner = silo
  · simp [same, name]
  · obtain ⟨next, reached⟩ := uniform.served owner (ownerIn_active owned)
    have there := (reach_ok reached).2.2
    simp only [same, ↓reduceIte, reached]
    rw [travel, uniform_route uniform there owned (by decide)]
    simp [uniform.named owner next there]

theorem register_owner (uniform : cluster.Uniform snapshot)
    (here : cluster.nodes.get? silo = some node) {address : Address} (single : Bool)
    (owned : cluster.ownerIn snapshot address.grain = some owner) :
    ∃ there, cluster.nodes.get? owner = some there ∧
      (cluster.register silo address single 0).1 =
        .ok (there.partition.register address single).1 ∧
      cluster.Becomes (fun other partition =>
        if other = owner then (partition.register address single).2 else partition)
        (cluster.register silo address single 0).2 := by
  obtain ⟨there, reached⟩ := uniform.served owner (ownerIn_active owned)
  have owning := (reach_ok reached).2.2
  obtain ⟨sent, sending⟩ := sendAlong_sent cluster (cluster.travelFrom silo address.grain 0).1
    (.register address single)
  refine ⟨there, owning, ?_, ?_⟩
  · simp only [register, travelFrom_owner uniform here owned, sending, owning]
  · simp only [register, travelFrom_owner uniform here owned, sending, owning]
    refine becomes_congr (becomes_trans (becomes_sent cluster sent) (becomes_modify _ owner _)) ?_
    intro silo node found
    split
    · rename_i same
      subst same
      rw [owning] at found
      cases found
      rfl
    · rfl

theorem lookup_owner (uniform : cluster.Uniform snapshot)
    (here : cluster.nodes.get? silo = some node)
    (owned : cluster.ownerIn snapshot grain = some owner) :
    ∃ there, cluster.nodes.get? owner = some there ∧
      (cluster.lookup silo grain 0).1 = .ok (there.partition.lookup grain) ∧
      cluster.Becomes (fun _ partition => partition) (cluster.lookup silo grain 0).2 := by
  obtain ⟨there, reached⟩ := uniform.served owner (ownerIn_active owned)
  have owning := (reach_ok reached).2.2
  obtain ⟨sent, sending⟩ := sendAlong_sent cluster (cluster.travelFrom silo grain 0).1
    (.lookup grain)
  refine ⟨there, owning, ?_, ?_⟩
  · simp only [lookup, travelFrom_owner uniform here owned, sending, owning, Option.bind_some]
  · simp only [lookup, travelFrom_owner uniform here owned, sending]
    exact becomes_sent cluster sent

def remote (cluster : Cluster) (snapshot : Snapshot) (silo : Silo) (addresses : List Address) :
    List (Silo × Address) :=
  addresses.filterMap fun address =>
    ((cluster.ownerIn snapshot address.grain).filter (· ≠ silo)).map (·, address)

theorem remote_owned (cluster : Cluster) (snapshot : Snapshot) (silo other : Silo)
    (addresses : List Address) :
    ((cluster.remote snapshot silo addresses).filter (·.1 = other)).map Prod.snd =
      if other = silo then []
      else addresses.filter fun address => cluster.ownerIn snapshot address.grain = some other :=
  Batch.foreign_share (cluster.ownerIn snapshot) silo other addresses

theorem unregisterHere_owned (uniform : cluster.Uniform snapshot)
    (here : cluster.nodes.get? silo = some node) (room : Nat) (few : (hopsAt room).toNat ≤ 1)
    (addresses : List Address) :
    ∃ after, cluster.unregisterHere silo room addresses =
        (.ok (cluster.remote snapshot silo addresses), after) ∧
      cluster.Becomes (fun other partition =>
        if other = silo then
          partition.withdraw (addresses.filter fun address =>
            cluster.ownerIn snapshot address.grain = some silo)
        else partition) after := by
  have asked := uniform_asked uniform here few
  have known := uniform_owner? uniform here
  have countable : (hopsAt room).toNat + 1 < UInt8.size := by
    rw [UInt8.size]
    omega
  have sorted := (unregisterHere_sorts asked addresses).resolve_right (by
    rintro ⟨_, spent | ⟨grain, nobody⟩⟩
    · exact countable_iff.mp countable spent
    · obtain ⟨owner, owned⟩ := uniform_owner uniform grain
      rw [known, owned] at nobody
      cases nobody)
  have becomes := unregisterHere_becomes asked addresses
  rw [known] at sorted becomes
  rw [Batch.own_countable countable] at becomes
  exact ⟨_, Prod.ext sorted rfl, becomes⟩

theorem forwardBatch_owned (uniform : cluster.Uniform snapshot) (silo : Silo)
    {pairs : List (Silo × Address)}
    (all : ∀ pair ∈ pairs, cluster.ownerIn snapshot pair.2.grain = some owner)
    (reached : cluster.reach owner = .ok node) :
    ∃ after, forwardBatch 254 silo (.ok (), cluster) (owner, pairs) = (.ok (), after) ∧
      cluster.Becomes (fun other partition =>
        if owner = other then partition.withdraw (pairs.map Prod.snd) else partition) after := by
  have sent : cluster.Becomes _ (cluster.send silo owner
      (.unregister (pairs.map Prod.snd) (hopsAt 254))) := becomes_sent cluster _
  have owned : ∀ address ∈ pairs.map Prod.snd,
      cluster.ownerIn snapshot address.grain = some owner := by
    intro address present
    obtain ⟨pair, here, rfl⟩ := List.mem_map.mp present
    exact all pair here
  obtain ⟨after, done, becomes⟩ := unregisterHere_owned (becomes_uniform uniform sent)
    (becomes_node sent (reach_ok reached).2.2) 254 (by decide)
    (pairs.map Prod.snd)
  have nothing : (cluster.send silo owner
      (.unregister (pairs.map Prod.snd) (hopsAt 254))).remote snapshot owner
        (pairs.map Prod.snd) = [] := by
    refine List.filterMap_eq_nil_iff.mpr fun address present => ?_
    rw [becomes_ownerIn sent, owned address present]
    simp [Option.filter_some]
  refine ⟨after, ?_, becomes_congr (becomes_trans sent becomes) ?_⟩
  · simp only [forwardBatch, send_reach, reached]
    rw [unregisterAll_succ, done, nothing]
    rfl
  · intro other node _
    have every : ((pairs.map Prod.snd).filter fun address =>
        cluster.ownerIn snapshot address.grain = some owner) = pairs.map Prod.snd :=
      List.filter_eq_self.mpr fun address present => by simp [owned address present]
    simp only [becomes_ownerIn sent, every]
    by_cases same : other = owner
    · simp [same]
    · simp [same, Ne.symm same]

theorem forwardBatches_owned (uniform : cluster.Uniform snapshot) (silo : Silo)
    (batches : List (Silo × List (Silo × Address)))
    (all : ∀ batch ∈ batches, ∀ pair ∈ batch.2,
      cluster.ownerIn snapshot pair.2.grain = some batch.1)
    (reached : ∀ batch ∈ batches, snapshot.isActive batch.1 = true) :
    ∃ after, batches.foldl (forwardBatch 254 silo) (.ok (), cluster) = (.ok (), after) ∧
      cluster.Becomes (fun other partition => batches.foldl (fun partition batch =>
        if batch.1 = other then partition.withdraw (batch.2.map Prod.snd) else partition)
        partition) after := by
  induction batches generalizing cluster with
  | nil => exact ⟨cluster, rfl, becomes_sent cluster cluster.sent⟩
  | cons batch rest ih =>
    obtain ⟨node, there⟩ := uniform.served batch.1 (reached batch (List.mem_cons_self ..))
    obtain ⟨middle, first, becomes⟩ := forwardBatch_owned uniform silo
      (all batch (List.mem_cons_self ..)) there
    obtain ⟨after, last, lastBecomes⟩ := ih (becomes_uniform uniform becomes)
      (fun other later pair present => by
        rw [becomes_ownerIn becomes]
        exact all other (List.mem_cons_of_mem _ later) pair present)
      (fun other later => reached other (List.mem_cons_of_mem _ later))
    refine ⟨after, ?_, becomes_trans becomes lastBecomes⟩
    rw [List.foldl_cons, first, last]

theorem unregisterMany_owned (uniform : cluster.Uniform snapshot)
    (here : cluster.nodes.get? silo = some node) (addresses : List Address) :
    ∃ after, cluster.unregisterMany silo addresses 0 = (.ok (), after) ∧
      cluster.Becomes (fun other partition => partition.withdraw (addresses.filter fun address =>
        cluster.ownerIn snapshot address.grain = some other)) after := by
  obtain ⟨middle, first, becomes⟩ := unregisterHere_owned uniform here 255 (by decide)
    addresses
  have owned : ∀ pair ∈ cluster.remote snapshot silo addresses,
      cluster.ownerIn snapshot pair.2.grain = some pair.1 :=
    fun pair present => (Batch.mem_foreign.mp present).2.1
  obtain ⟨after, last, lastBecomes⟩ := forwardBatches_owned (becomes_uniform uniform becomes) silo
    (Order.group Prod.fst (cluster.remote snapshot silo addresses)) (by
      rintro ⟨owner, members⟩ grouped pair present
      obtain ⟨_, rfl⟩ := Order.mem_group.mp grouped
      obtain ⟨inside, same⟩ := List.mem_filter.mp present
      rw [becomes_ownerIn becomes, owned pair inside, of_decide_eq_true same]) (by
      rintro ⟨owner, members⟩ grouped
      obtain ⟨listed, _⟩ := Order.mem_group.mp grouped
      obtain ⟨pair, inside, rfl⟩ := List.mem_map.mp listed
      exact ownerIn_active (owned pair inside))
  refine ⟨after, ?_, becomes_congr (becomes_trans becomes lastBecomes) ?_⟩
  · have room : roomAt 0 = 254 + 1 := rfl
    rw [unregisterMany, room, unregisterAll_succ, first]
    exact last
  · intro other node _
    rw [Order.foldl_group (fun partition pairs =>
      Partition.withdraw partition (pairs.map Prod.snd)) (fun _ => rfl), remote_owned]
    by_cases same : other = silo
    · simp [same, Partition.withdraw]
    · simp [same]

-- Each grain is registered with its owner as in the one table, and nowhere else.
def Mirrors (cluster : Cluster) (snapshot : Snapshot) (partition : Partition) : Prop :=
  ∀ silo node grain, cluster.nodes.get? silo = some node → node.partition.roster? grain =
    if cluster.ownerIn snapshot grain = some silo then partition.roster? grain else none

variable {partition following : Partition} {question : Question}

theorem becomes_mirrors (becomes : cluster.Becomes change after)
    (mirrored : ∀ silo node grain, cluster.nodes.get? silo = some node →
      (change silo node.partition).roster? grain =
        if cluster.ownerIn snapshot grain = some silo then following.roster? grain else none) :
    after.Mirrors snapshot following := by
  intro silo node grain found
  rw [becomes.2] at found
  obtain ⟨before, here, rfl⟩ := Option.map_eq_some_iff.mp found
  rw [becomes_ownerIn becomes]
  exact mirrored silo before grain here

theorem register_mirrors (uniform : cluster.Uniform snapshot)
    (mirrors : cluster.Mirrors snapshot partition) (here : cluster.nodes.get? silo = some node)
    (address : Address) (single : Bool) :
    (∃ tagged, (cluster.register silo address single 0).1 = .ok tagged ∧
      tagged.address = (partition.register address single).1.address) ∧
    (cluster.register silo address single 0).2.Mirrors snapshot
      (partition.register address single).2 := by
  obtain ⟨owner, owned⟩ := uniform_owner uniform address.grain
  obtain ⟨there, found, done, becomes⟩ := register_owner uniform here single owned
  have same := mirrors owner there address.grain found
  rw [if_pos owned] at same
  refine ⟨⟨_, done, ?_⟩, becomes_mirrors becomes fun silo node grain known => ?_⟩
  · rw [Partition.register_answer, Partition.register_answer, same]
  · have before := mirrors silo node grain known
    by_cases mine : silo = owner
    · subst mine
      rw [found] at known
      cases known
      simp only [↓reduceIte, Partition.register_roster]
      by_cases own : grain = address.grain
      · subst own
        simp [owned, same]
      · simpa [own] using before
    · simp only [mine, ↓reduceIte, before, Partition.register_roster]
      by_cases own : grain = address.grain
      · subst own
        have other : ¬owner = silo := fun equal => mine equal.symm
        simp [owned, other]
      · simp [own]

theorem withdraw_mirrors (mirrors : cluster.Mirrors snapshot partition)
    {addresses : List Address}
    (becomes : cluster.Becomes (fun other partition =>
      partition.withdraw (addresses.filter fun address =>
        cluster.ownerIn snapshot address.grain = some other)) after) :
    after.Mirrors snapshot (partition.withdraw addresses) := by
  refine becomes_mirrors becomes fun silo node grain known => ?_
  rw [Partition.withdraw_roster, mirrors silo node grain known, List.filter_filter]
  split
  · rename_i owned
    rw [Partition.withdraw_roster]
    refine congrArg (List.foldl _ _) (List.filter_congr fun address _ => ?_)
    by_cases same : address.grain = grain
    · simp [same, owned]
    · simp [same]
  · generalize (addresses.filter _) = taken
    induction taken with
    | nil => rfl
    | cons address rest ih => exact ih

theorem answer_mirrors (uniform : cluster.Uniform snapshot)
    (mirrors : cluster.Mirrors snapshot partition)
    (issued : ∃ node, cluster.nodes.get? question.silo = some node) :
    (cluster.answer question).1 = .ok (partition.answer question).1 ∧
      (cluster.answer question).2.Mirrors snapshot (partition.answer question).2 ∧
      ∃ change, cluster.Becomes change (cluster.answer question).2 := by
  obtain ⟨node, here⟩ := issued
  cases question with
  | register silo address single =>
    have here : cluster.nodes.get? silo = some node := here
    obtain ⟨owner, owned⟩ := uniform_owner uniform address.grain
    obtain ⟨_, _, _, becomes⟩ := register_owner uniform here single owned
    obtain ⟨⟨tagged, done, same⟩, mirrored⟩ := register_mirrors uniform mirrors here address single
    exact ⟨by simp [answer, Partition.answer, done, Except.map, same], mirrored, _, becomes⟩
  | unregister silo address =>
    have here : cluster.nodes.get? silo = some node := here
    obtain ⟨after, done, becomes⟩ := unregisterMany_owned uniform here [address]
    have mirrored := withdraw_mirrors mirrors becomes
    have same : cluster.unregister silo address 0 = (.ok (), after) := done
    simp only [answer, same]
    exact ⟨rfl, mirrored, _, becomes⟩
  | unregisterMany silo addresses =>
    have here : cluster.nodes.get? silo = some node := here
    obtain ⟨after, done, becomes⟩ := unregisterMany_owned uniform here addresses
    have mirrored := withdraw_mirrors mirrors becomes
    simp only [answer, done]
    exact ⟨rfl, mirrored, _, becomes⟩
  | lookup silo grain =>
    have here : cluster.nodes.get? silo = some node := here
    obtain ⟨owner, owned⟩ := uniform_owner uniform grain
    obtain ⟨there, found, done, becomes⟩ := lookup_owner uniform here owned
    have same := mirrors owner there grain found
    rw [if_pos owned] at same
    refine ⟨?_, becomes_mirrors becomes fun silo node grain known => ?_, _, becomes⟩
    · simp only [answer, done, Partition.answer, Except.map, Partition.lookup_addresses, same]
    · exact mirrors silo node grain known

theorem answers_mirrors (uniform : cluster.Uniform snapshot)
    (mirrors : cluster.Mirrors snapshot partition) (questions : List Question)
    (issued : ∀ question ∈ questions, ∃ node, cluster.nodes.get? question.silo = some node) :
    (cluster.answers questions).1 = (partition.answers questions).1.map .ok ∧
      (cluster.answers questions).2.Mirrors snapshot (partition.answers questions).2 ∧
      ∃ change, cluster.Becomes change (cluster.answers questions).2 := by
  induction questions generalizing cluster partition with
  | nil => exact ⟨rfl, mirrors, _, becomes_sent cluster cluster.sent⟩
  | cons question rest ih =>
    obtain ⟨first, mirrored, _, becomes⟩ :=
      answer_mirrors uniform mirrors (issued question (List.mem_cons_self ..))
    obtain ⟨others, last, _, lastBecomes⟩ := ih (becomes_uniform uniform becomes) mirrored
      (fun later present => by
        obtain ⟨node, here⟩ := issued later (List.mem_cons_of_mem _ present)
        exact ⟨_, becomes_node becomes here⟩)
    refine ⟨?_, last, _, becomes_trans becomes lastBecomes⟩
    simp only [answers, Partition.answers, List.map_cons, first, others]

-- Every answer is that of one table, and so is what is registered in the end.
theorem cluster_is_one_table (uniform : cluster.Uniform snapshot)
    (empty : ∀ silo node, cluster.nodes.get? silo = some node → node.partition.held = .empty)
    (questions : List Question)
    (issued : ∀ question ∈ questions, ∃ node, cluster.nodes.get? question.silo = some node) :
    (cluster.answers questions).1 = (Partition.empty.answers questions).1.map .ok ∧
      ∀ grain, ∃ owner node, cluster.ownerIn snapshot grain = some owner ∧
        (cluster.answers questions).2.nodes.get? owner = some node ∧
        node.partition.roster? grain = (Partition.empty.answers questions).2.roster? grain ∧
        ∀ other node, (cluster.answers questions).2.nodes.get? other = some node → other ≠ owner →
          node.partition.roster? grain = none := by
  have initially : cluster.Mirrors snapshot .empty := by
    intro silo node grain here
    rw [Partition.roster?, empty silo node here]
    exact (ite_self none).symm
  obtain ⟨answered, mirrors, _, becomes⟩ := answers_mirrors uniform initially questions issued
  refine ⟨answered, fun grain => ?_⟩
  obtain ⟨owner, owned⟩ := uniform_owner uniform grain
  obtain ⟨before, reached⟩ := uniform.served owner (ownerIn_active owned)
  have there := becomes_node becomes (reach_ok reached).2.2
  have assigned := (becomes_ownerIn becomes snapshot grain).trans owned
  refine ⟨owner, _, owned, there, ?_, fun other node found away => ?_⟩
  · exact (mirrors owner _ grain there).trans (if_pos assigned)
  · refine (mirrors other node grain found).trans (if_neg fun same => away ?_)
    exact Option.some.inj (same.symm.trans assigned)

end Cluster

namespace Duo

def formed : Cluster :=
  ((World.empty Xxh3.hashText settings).play [.start first, .start second,
    .apply first (listed 1 .active .active), .apply second (listed 1 .active .active)]).cluster

def contending : List Question :=
  [.register first (runningOn first) true, .register second (runningOn second) true,
    .lookup second grain, .unregisterMany second [runningOn second, runningOn first],
    .lookup first grain]

theorem contention_settled : (formed.answers contending).1 =
    [.registered (runningOn first), .registered (runningOn first),
      .found (some [runningOn first]), .unregistered, .found none].map .ok := by
  have uniform : formed.Uniform (listed 1 .active .active) := by
    refine Cluster.uniform_of_tables (by decide) ?_ ⟨first, by decide⟩ ?_
    · decide +kernel
    · decide +kernel
  have empty : ∀ pair ∈ formed.nodes.pairs, pair.2.partition.held = .empty := by
    decide +kernel
  have issued : ∀ question ∈ contending, (formed.nodes.get? question.silo).isSome = true := by
    decide +kernel
  exact (Cluster.cluster_is_one_table uniform
    (fun silo node here => empty _ (Keyed.mem_of_get? here)) contending
    (fun question asked => Option.isSome_iff_exists.mp (issued question asked))).1.trans
      (congrArg _ (by decide))

end Duo
end ActorDirectory
