import ActorDirectory.Proofs.Locator.Readback

-- A request for a grain that the cluster keeps does nothing outside, and one for a grain that is
-- kept outside does nothing in the cluster.
namespace ActorDirectory

namespace Dispatch

variable {κ ω σ : Type} {rules : Rules κ ω σ} {dispatch after : Dispatch κ ω σ}

theorem next?_drained (drained : dispatch.IsDrained) (number : Nat) :
    dispatch.next? number = none := by
  refine Option.eq_none_iff_forall_ne_some.mpr fun next found => ?_
  obtain ⟨lane, present, operation, first, _⟩ : ∃ lane, dispatch.lanes[number]? = some lane ∧
      ∃ operation, lane.next? = some operation ∧ (lane, operation) = next := by
    simpa [next?, Option.bind_eq_some_iff] using found
  unfold Lane.next? at first
  split at first
  · cases first
  · rename_i live
    exact drained lane.key operation ⟨lane, List.mem_of_getElem? present, rfl,
      Bool.not_eq_true _ ▸ live, List.mem_of_head? first⟩

theorem works_drained [DecidableEq κ] (works : Works rules dispatch after)
    (drained : dispatch.IsDrained) : after.world = dispatch.world := by
  induction works with
  | done => rfl
  | @turn dispatch _ number _ ih =>
    have idle : dispatch.next? number = none := next?_drained drained number
    have still : (dispatch.turn rules number).IsDrained := fun key task waits =>
      drained key task (((turn_idle idle).2.1 key task).mp waits)
    rw [ih still, (turn_idle idle).1]
  | pass time _ ih => exact ih drained

end Dispatch

namespace World

variable {before after world : World}

-- Nothing has been done in the cluster but what was pending, which goes on as time passes.
structure Rests (before after : World) : Prop where
  alone : after.dispatch = (before.wait (after.now - before.now)).dispatch
  unchanged : before.dispatch.IsDrained ∨ after.now = before.now →
    after.cluster = before.cluster

theorem wait_drained (drained : world.dispatch.IsDrained) (duration : Nat) :
    (world.wait duration).cluster = world.cluster := by
  have works : Dispatch.Works world.rules world.dispatch (world.wait duration).dispatch := by
    unfold wait Dispatch.wait
    split
    · exact .done
    · exact Dispatch.advanceTo_works _ _
  exact Dispatch.works_drained works drained

theorem wait_rests (world : World) (stores : Keyed String External) (duration : Nat) :
    world.Rests ({ world with stores }.wait duration) := by
  have now : ({ world with stores }.wait duration).now = world.now + duration :=
    wait_now { world with stores } duration
  constructor
  · rw [now, Nat.add_sub_cancel_left]
    rfl
  · intro still
    rcases still with drained | same
    · exact @wait_drained { world with stores } drained duration
    · have zero : duration = 0 := by omega
      subst zero
      rfl

theorem rests_refl (world : World) : world.Rests world := wait_rests world world.stores 0

end World

namespace Family

def Spares : Family → Locators × World → Locators × World → Prop
  | inCluster, before, after =>
    after.1.external = before.1.external ∧ after.2.stores = before.2.stores
  | external, before, after => after.1.foreign = before.1.foreign ∧ before.2.Rests after.2

end Family

namespace Locators

variable {locators : Locators} {world : World} {address : Address} {grain : Grain} {cause : Cause}

section Inside

theorem registerInCluster_spares (locators : Locators) (world : World) (address : Address) :
    Family.inCluster.Spares (locators, world) (locators.registerInCluster world address).2 := by
  have made := registerInCluster_made locators world address
  generalize locators.registerInCluster world address = result at made ⊢
  cases made <;> exact ⟨rfl, rfl⟩

theorem lookupInCluster_spares (locators : Locators) (world : World) (grain : Grain) :
    Family.inCluster.Spares (locators, world) (locators.lookupInCluster world grain).2 := by
  have found := lookupInCluster_found locators world grain
  generalize locators.lookupInCluster world grain = result at found ⊢
  cases found <;> exact ⟨rfl, rfl⟩

theorem tryInCluster_spares (locators : Locators) (world : World) (grain : Grain) :
    Family.inCluster.Spares (locators, world) ((locators.tryInCluster world grain).2, world) := by
  unfold tryInCluster
  split <;> exact ⟨rfl, rfl⟩

theorem unregisterManyInCluster_spares (locators : Locators) (world : World) (cause : Cause)
    (addresses : List Address) : Family.inCluster.Spares (locators, world)
      (locators.unregisterManyInCluster world cause addresses).2 := by
  rw [unregisterManyInCluster_eq]
  exact ⟨rfl, rfl⟩

end Inside

section Outside

theorem ask_spares {α : Type} (locators : Locators) (world : World) (kind : String)
    (use : External → Timed α × External) :
    Family.external.Spares (locators, world) (locators.ask world kind use).2 := by
  have asked := ask_asked locators world kind use
  generalize locators.ask world kind use = called at asked ⊢
  cases asked with
  | refused => exact ⟨rfl, World.rests_refl world⟩
  | answered _ _ same =>
    rw [same]
    exact ⟨rfl, World.wait_rests world _ _⟩

theorem registerExternal_spares (locators : Locators) (world : World) (address : Address) :
    Family.external.Spares (locators, world) (locators.registerExternal world address).2 := by
  obtain ⟨external, ended⟩ := registerExternal_learns locators world address
  rw [ended]
  exact ask_spares locators world address.grain.kind _

theorem unregisterExternal_spares (locators : Locators) (world : World) (cause : Cause)
    (address : Address) : Family.external.Spares (locators, world)
      (locators.unregisterExternal world cause address).2 := by
  obtain ⟨external, ended⟩ := unregisterExternal_learns locators world cause address
  rw [ended]
  exact ask_spares locators world address.grain.kind _

theorem lookupExternal_spares (locators : Locators) (world : World) (grain : Grain) :
    Family.external.Spares (locators, world) (locators.lookupExternal world grain).2 := by
  obtain ⟨external, ended⟩ := lookupExternal_learns locators world grain
  rcases ended with same | ⟨learnt, same⟩
  · rw [same]
    exact ⟨rfl, World.rests_refl world⟩
  · rw [same]
    exact ask_spares { locators with external } world grain.kind _

theorem unregisterManyExternal_spares (locators : Locators) (world : World) (cause : Cause)
    (addresses : List Address) : Family.external.Spares (locators, world)
      (locators.unregisterManyExternal world cause addresses).2 := by
  obtain ⟨resolver, ended, _⟩ := unregisterManyExternal_exact locators world cause addresses
  rw [ended]
  exact ⟨rfl, World.wait_rests world _ _⟩

end Outside

end Locators

namespace Family

variable {ask : Ask} {kind : String}

theorem serve_spares (about : ask.kind? = some kind) (family : Family) (locators : Locators)
    (world : World) :
    family.Spares (locators, world) (family.finder.serve locators world ask) := by
  cases ask with
  | registerMulti | unregisterMany | clear => cases about
  | register address =>
    cases family with
    | inCluster => exact Locators.registerInCluster_spares locators world address
    | external => exact Locators.registerExternal_spares locators world address
  | unregister cause address =>
    cases family with
    | inCluster => exact ⟨rfl, rfl⟩
    | external => exact Locators.unregisterExternal_spares locators world cause address
  | lookup grain =>
    cases family with
    | inCluster => exact Locators.lookupInCluster_spares locators world grain
    | external => exact Locators.lookupExternal_spares locators world grain
  | tryLocal grain =>
    cases family with
    | inCluster => exact Locators.tryInCluster_spares locators world grain
    | external => exact ⟨rfl, World.rests_refl world⟩
  | invalidate address =>
    cases family with
    | inCluster => exact ⟨rfl, rfl⟩
    | external => exact ⟨rfl, World.rests_refl world⟩

theorem spares_noting {family : Family} {locators : Locators} {world : World}
    {after : Locators × World} (kind : String)
    (spares : family.Spares (locators.noting kind, world) after) :
    family.Spares (locators, world) after := by
  cases family with
  | inCluster => exact spares
  | external => exact spares

end Family

namespace Cluster

theorem firstFault_ok {near far : Except Fault Unit} :
    firstFault near far = .ok () ↔ near = .ok () ∧ far = .ok () := by
  cases near with
  | error fault => simp [firstFault]
  | ok => simp [firstFault]

theorem firstFault_error {near far : Except Fault Unit} {fault : Fault} :
    firstFault near far = .error fault ↔
      near = .error fault ∨ near = .ok () ∧ far = .error fault := by
  cases near with
  | error other => simp [firstFault]
  | ok => simp [firstFault]

end Cluster

namespace Locators

variable {locators : Locators} {world : World}

-- What a request to give up addresses of both families comes to, out of what each family would
-- have come to by itself: each has done its part, whatever became of the other. In the cluster
-- nothing is done after that but what was pending, until the directories outside are done.
structure Joins (near far both : Except Fault Unit × Locators × World) :
    Prop where
  foreign : both.2.1.foreign = near.2.1.foreign
  external : both.2.1.external = far.2.1.external
  stores : both.2.2.stores = far.2.2.stores
  now : both.2.2.now = far.2.2.now
  cluster : near.2.2.Rests both.2.2
  done : both.1 = .ok () ↔ near.1 = .ok () ∧ far.1 = .ok ()
  fault : ∀ fault, both.1 = .error fault ↔
    near.1 = .error fault ∨ near.1 = .ok () ∧ far.1 = .error fault

theorem unregisterManyExternal_apart {after : Locators} (alike : locators.Alike after)
    (learnt : after.external = locators.external) (world : World) (cluster : Cluster)
    (cause : Cause) (addresses : List Address) : ∃ resolver,
      let ends := locators.attemptOutside world.stores addresses
      after.unregisterManyExternal (world.withCluster cluster) cause addresses = (ends.1,
        { after with
          resolver
          external := locators.external.forgetAll cause (locators.outside addresses) },
        ({ world with stores := ends.2.2 }.withCluster cluster).wait ends.2.1) := by
  obtain ⟨resolver, ended, _⟩ := unregisterManyExternal_exact after (world.withCluster cluster)
    cause addresses
  have sent : after.attemptOutside (world.withCluster cluster).stores addresses =
      locators.attemptOutside world.stores addresses :=
    attemptOutside_alike alike world.stores addresses
  rw [sent, learnt, outside_alike alike] at ended
  exact ⟨resolver, ended⟩

theorem unregisterMany_joins (locators : Locators) (world : World) (cause : Cause)
    (addresses : List Address) :
    Joins (locators.unregisterManyInCluster world cause (locators.inside addresses))
      (locators.unregisterManyExternal world cause (locators.outside addresses))
      (locators.unregisterMany world cause addresses) := by
  obtain ⟨resolver, divided, alike⟩ := divide_eq locators addresses
  have near := unregisterManyInCluster_exact locators world cause (locators.inside addresses)
  have noted := unregisterManyInCluster_exact { locators with resolver } world cause
    (locators.inside addresses)
  obtain ⟨_, far, _⟩ := unregisterManyExternal_exact locators world cause
    (locators.outside addresses)
  unfold unregisterMany
  simp only [divided, noted]
  generalize world.cluster.unregisterMany locators.silo (locators.inside addresses) 0 = ended
    at near ⊢
  have alike : locators.Alike
      { locators with
        resolver
        foreign := locators.foreign.forgetAll cause (locators.inside addresses) } := alike
  obtain ⟨_, both⟩ := unregisterManyExternal_apart alike rfl world ended.2 cause
    (locators.outside addresses)
  rw [near, far, both]
  generalize locators.attemptOutside world.stores (locators.outside addresses) = sent
  constructor
  case now => rw [World.wait_now, World.wait_now]; rfl
  case cluster => exact World.wait_rests (world.withCluster ended.2) sent.2.2 sent.2.1
  case done => exact Cluster.firstFault_ok
  case fault => exact fun _ => Cluster.firstFault_error
  all_goals rfl

end Locators

namespace Way

-- A request to the selector for one grain is served by the family that the grain is of, and the
-- other is spared. Addresses of both families are given up by each family as if the other had not
-- been told.
theorem families_kept_apart (locators : Locators) (world : World) :
    (∀ ask kind, Ask.kind? ask = some kind →
      let family := locators.familyOf kind
      let after := selector.finder.serve locators world ask
      after = family.finder.serve (locators.noting kind) world ask ∧
      family.Spares (locators, world) after) ∧
    ∀ cause addresses,
      let near := locators.unregisterManyInCluster world cause (locators.inside addresses)
      let far := locators.unregisterManyExternal world cause (locators.outside addresses)
      Family.inCluster.Spares (locators, world) near.2 ∧
      Family.external.Spares (locators, world) far.2 ∧
      Locators.Joins near far (selector.finder.unregisterMany locators world cause addresses) := by
  constructor
  · intro ask kind about
    have served := serve_selected about selector locators world
    refine ⟨served, ?_⟩
    rw [served]
    apply Family.spares_noting kind
    exact Family.serve_spares about (locators.familyOf kind) (locators.noting kind) world
  · intro cause addresses
    refine ⟨?_, ?_, Locators.unregisterMany_joins locators world cause addresses⟩
    · exact Locators.unregisterManyInCluster_spares locators world cause _
    · exact Locators.unregisterManyExternal_spares locators world cause _

end Way

namespace Duo

def kept (world : World) : Option (Except Fault (Option Entry)) :=
  (world.stores.get? "orders").map fun store => (store.lookup "order/1").1.result

theorem order_given_up_despite_fault :
    kept ordered.2 = some (.ok (some (.ofAddress order ⟨1⟩))) ∧
    let both := Way.selector.finder.unregisterMany ordered.1 ordered.2 .force
      [runningOn second, order]
    both.1 = .error (.siloUnavailable first) ∧ kept both.2.2 = some (.ok none) := by
  refine ⟨by decide +kernel, ?_⟩
  obtain ⟨_, _, joins⟩ := (Way.families_kept_apart ordered.1 ordered.2).2 .force
    [runningOn second, order]
  refine ⟨(joins.fault _).mpr (.inl ?_), ?_⟩
  · decide +kernel
  · unfold kept
    rw [joins.stores]
    decide +kernel

end Duo
end ActorDirectory
