import ActorDirectory.Proofs.Store.Truth

-- Faults that are fewer than the attempts do not show but in the time that passes. A call that
-- meets a fault does nothing else, so each attempt that fails only leaves one fault less; then the
-- call finds the store as it was.
namespace ActorDirectory

namespace Retry

variable {σ α : Type} {call : Call σ BackendFault α} {left : Nat → σ} {faults further : Nat}
  {value : α} {after : σ}

def Stumbles (call : Call σ BackendFault α) (left : Nat → σ) (faults : Nat) : Prop :=
  ∀ number < faults, ∃ reason,
    call (left (number + 1)) = (.error (.store (.unavailable reason)), left number)

theorem runFrom_stumbles (stumbles : Stumbles call left faults) (few : faults ≤ further)
    (made : Nat) : runFrom call further made (left faults) =
      runFrom call (further - faults) (made + faults) (left 0) := by
  induction faults generalizing further made with
  | zero => rfl
  | succ faults ih =>
    obtain ⟨reason, failed⟩ := stumbles faults (Nat.lt_succ_self _)
    obtain ⟨fewer, rfl⟩ : ∃ fewer, further = fewer + 1 := ⟨further - 1, by omega⟩
    rw [runFrom, failed]
    simp only [BackendFault.isTransient, ↓reduceIte]
    rw [ih (fun number less => stumbles number (Nat.lt_succ_of_lt less)) (by omega),
      Nat.add_sub_add_right, Nat.add_right_comm, Nat.add_assoc]

theorem run_stumbles (retry : Retry) (stumbles : Stumbles call left faults)
    (few : faults < retry.attempts) (answered : call (left 0) = (.ok value, after)) :
    retry.run call (left faults) = (⟨.ok value, faults * retry.delay⟩, after) := by
  have made : runFrom call retry.further 0 (left faults) = (.ok value, faults + 1, after) := by
    rw [runFrom_stumbles stumbles (by rw [further]; omega), runFrom, answered, Nat.zero_add]
  simp [run, made]

end Retry

open Retry (Stumbles)

def Call.Masked {σ α : Type} (arm : Nat → σ → σ) (twin : Nat → σ → σ → Prop)
    (call : Call σ BackendFault α) (alike : α → α → Prop) (number after faults : Nat) : Prop :=
  ∀ clean other, twin number clean other → ∃ left : Nat → σ, left faults = arm faults other ∧
    Stumbles call left faults ∧ ∃ value told next last, call clean = (.ok value, next) ∧
      call (left 0) = (.ok told, last) ∧ alike value told ∧ twin after next last

-- The number is that of the registrations so far. A registration may draw e-tags that go unused,
-- so versions may change.
structure Backend.Masks {σ : Type} (backend : Backend σ) (start : σ) (arm : Nat → σ → σ)
    (twin : Nat → σ → σ → Prop) (change : Version → Version) (fits : Nat → Nat → Prop) : Prop where
  prepare : ∀ faults, Stumbles backend.prepare (arm · start) faults
  prepared : ∃ store, backend.prepare start = (.ok (), store) ∧
    backend.prepare (arm 0 start) = (.ok (), store) ∧ arm 0 store = store ∧ twin 0 store store
  register : ∀ record number faults, fits number faults →
    Call.Masked arm twin (backend.register record)
      (fun value told => told = (value.1, change value.2)) number (number + 1) faults
  unregister : ∀ record number faults,
    Call.Masked arm twin (backend.unregister record .unknown) (fun _ _ => True) number number faults
  lookup : ∀ grain number faults,
    Call.Masked arm twin (backend.lookup grain)
      (fun value told => told = value.map (Prod.map id change)) number number faults

def Timed.map {α β : Type} (change : α → β) (timed : Timed α) : Timed β :=
  ⟨change timed.result, timed.waited⟩

def chain {σ ι α : Type} (step : σ → ι → α × σ) : σ → List ι → List α × σ
  | state, [] => ([], state)
  | state, call :: rest =>
    ((step state call).1 :: (chain step (step state call).2 rest).1,
      (chain step (step state call).2 rest).2)

namespace EntryCall

def Plain : EntryCall → Prop
  | register entry => entry.toAddress.isOk
  | unregister entry => entry.toAddress.isOk ∧ entry.version = .unknown
  | lookup _ => True

instance : (call : EntryCall) → Decidable call.Plain
  | register entry => inferInstanceAs (Decidable (entry.toAddress.isOk = true))
  | unregister entry =>
    inferInstanceAs (Decidable (entry.toAddress.isOk = true ∧ entry.version = .unknown))
  | lookup _ => inferInstanceAs (Decidable True)

-- The faults that registrations meet, one number a registration. Those of the first call of all
-- are met while the store is made ready.
def wasted : Bool → List (Nat × EntryCall) → List Nat
  | _, [] => []
  | isReady, (faults, register _) :: rest => (if isReady then faults else 0) :: wasted true rest
  | _, _ :: rest => wasted true rest

end EntryCall

namespace Directory

variable {σ α : Type}

def arm (change : Nat → σ → σ) (faults : Nat) (directory : Directory σ) : Directory σ :=
  { directory with store := change faults directory.store }

def respond (directory : Directory σ) : EntryCall → Timed EntryAnswer × Directory σ
  | .register entry => (directory.register entry).map (·.map .outcome) id
  | .unregister entry => (directory.unregister entry).map (·.map .outcome) id
  | .lookup grain => (directory.lookup grain).map (·.map .found) id

def struggle (change : Nat → σ → σ) (directory : Directory σ) (call : Nat × EntryCall) :
    Timed EntryAnswer × Directory σ := (directory.arm change call.1).respond call.2

inductive Paired (backend : Backend σ) (retry : Retry) (start : σ) (twin : Nat → σ → σ → Prop) :
    Bool → Nat → Directory σ → Directory σ → Prop where
  | fresh : Paired backend retry start twin false 0 ⟨backend, retry, start, false⟩
      ⟨backend, retry, start, false⟩
  | used {number : Nat} {clean other : σ} : twin number clean other →
      Paired backend retry start twin true number ⟨backend, retry, clean, true⟩
        ⟨backend, retry, other, true⟩

variable {backend : Backend σ} {retry : Retry} {start : σ} {change : Nat → σ → σ}
  {twin : Nat → σ → σ → Prop} {retag : Version → Version} {fits : Nat → Nat → Prop}
  {isReady : Bool} {number after faults : Nat} {clean other : Directory σ}

theorem call_paired (masks : backend.Masks start change twin retag fits)
    {call : Call σ BackendFault α} {alike : α → α → Prop}
    (masked : Call.Masked change twin call alike number after (if isReady then faults else 0))
    (few : faults < retry.attempts)
    (paired : Paired backend retry start twin isReady number clean other) :
    ∃ value told next last, clean.call call = (⟨.ok value, 0⟩, next) ∧
      (other.arm change faults).call call = (⟨.ok told, faults * retry.delay⟩, last) ∧
      alike value told ∧ Paired backend retry start twin true after next last := by
  cases paired with
  | used alike =>
    obtain ⟨left, here, stumbles, value, told, next, last, answered, answers, same, twins⟩ :=
      masked _ _ alike
    refine ⟨value, told, _, _, ?_, ?_, same, .used twins⟩
    · simp [Directory.call, ensureReady, Retry.run_ok retry answered]
    · have run := retry.run_stumbles stumbles few answers
      simp only [↓reduceIte] at here run
      rw [here] at run
      simp [Directory.call, ensureReady, arm, run]
  | fresh =>
    obtain ⟨store, prepared, again, calm, twins⟩ := masks.prepared
    obtain ⟨left, here, _, value, told, next, last, answered, answers, same, twins⟩ :=
      masked _ _ twins
    have here : left 0 = store := here.trans calm
    rw [here] at answers
    have run := retry.run_stumbles (masks.prepare faults) few again
    refine ⟨value, told, _, _, ?_, ?_, same, .used twins⟩
    · simp [Directory.call, ensureReady, Retry.run_ok retry prepared, Retry.run_ok retry answered,
        Except.isOk, Except.toBool]
    · simp [Directory.call, ensureReady, arm, run, Retry.run_ok retry answers, Except.isOk,
        Except.toBool]

end Directory

structure EntryAnswer.Tells (retag : Version → Version) (tell : EntryAnswer → EntryAnswer) :
    Prop where
  registered : ∀ entry address record version,
    tell (.outcome (Directory.registered entry address (.ok (record, version)))) =
      .outcome (Directory.registered entry address (.ok (record, retag version)))
  unregistered : ∀ entry, entry.version = .unknown →
    tell (.outcome (.success entry)) = .outcome (.success entry)
  found : ∀ answer, tell (.found (Directory.found (.ok answer))) =
    .found (Directory.found (.ok (answer.map (Prod.map id retag))))

namespace Directory

section Respond

variable {σ : Type} {backend : Backend σ} {retry : Retry} {start : σ} {change : Nat → σ → σ}
  {twin : Nat → σ → σ → Prop} {retag : Version → Version} {fits : Nat → Nat → Prop}
  {tell : EntryAnswer → EntryAnswer} {isReady : Bool} {number faults : Nat}
  {clean other : Directory σ}

def Answers (backend : Backend σ) (retry : Retry) (start : σ) (change : Nat → σ → σ)
    (twin : Nat → σ → σ → Prop) (tell : EntryAnswer → EntryAnswer) (clean other : Directory σ)
    (faults : Nat) (call : EntryCall) (after : Nat) : Prop :=
  ∃ answer next last, clean.respond call = (⟨answer, 0⟩, next) ∧
    other.struggle change (faults, call) = (⟨tell answer, faults * retry.delay⟩, last) ∧
    Paired backend retry start twin true after next last

theorem paired_backend (paired : Paired backend retry start twin isReady number clean other) :
    clean.backend = backend ∧ other.backend = backend := by
  cases paired <;> exact ⟨rfl, rfl⟩

theorem register_answers (masks : backend.Masks start change twin retag fits)
    (tells : EntryAnswer.Tells retag tell) {entry : Entry} (readable : entry.toAddress.isOk)
    (few : faults < retry.attempts) (fit : fits number (if isReady then faults else 0))
    (paired : Paired backend retry start twin isReady number clean other) :
    Answers backend retry start change twin tell clean other faults (.register entry)
      (number + 1) := by
  cases read : entry.toAddress with
  | error fault =>
    rw [read] at readable
    cases readable
  | ok address =>
    obtain ⟨value, told, next, last, answered, answers, rfl, paired'⟩ :=
      call_paired masks (masks.register address.toRecord number _ fit) few paired
    obtain ⟨rfl, same⟩ := paired_backend paired
    refine ⟨.outcome (registered entry address (.ok value)), next, last, ?_, ?_, paired'⟩
    · simp [respond, register, read, answered, Timed.map]
    · have own : (other.arm change faults).backend = clean.backend := same
      rw [tells.registered]
      simp [struggle, respond, register, read, own, answers, Timed.map]

theorem unregister_answers (masks : backend.Masks start change twin retag fits)
    (tells : EntryAnswer.Tells retag tell) {entry : Entry} (readable : entry.toAddress.isOk)
    (untagged : entry.version = .unknown) (few : faults < retry.attempts)
    (paired : Paired backend retry start twin isReady number clean other) :
    Answers backend retry start change twin tell clean other faults (.unregister entry)
      number := by
  cases read : entry.toAddress with
  | error fault =>
    rw [read] at readable
    cases readable
  | ok address =>
    obtain ⟨value, told, next, last, answered, answers, _, paired'⟩ :=
      call_paired masks (masks.unregister address.toRecord number _) few paired
    obtain ⟨rfl, same⟩ := paired_backend paired
    refine ⟨.outcome (.success entry), next, last, ?_, ?_, paired'⟩
    · simp [respond, unregister, read, untagged, answered, Timed.map, unregistered]
    · have own : (other.arm change faults).backend = clean.backend := same
      rw [tells.unregistered entry untagged]
      simp [struggle, respond, unregister, read, untagged, own, answers, Timed.map, unregistered]

theorem lookup_answers (masks : backend.Masks start change twin retag fits)
    (tells : EntryAnswer.Tells retag tell) (grain : String) (few : faults < retry.attempts)
    (paired : Paired backend retry start twin isReady number clean other) :
    Answers backend retry start change twin tell clean other faults (.lookup grain) number := by
  obtain ⟨value, told, next, last, answered, answers, rfl, paired'⟩ :=
    call_paired masks (masks.lookup grain number _) few paired
  obtain ⟨rfl, same⟩ := paired_backend paired
  refine ⟨.found (found (.ok value)), next, last, ?_, ?_, paired'⟩
  · simp [respond, lookup, answered, Timed.map]
  · have own : (other.arm change faults).backend = clean.backend := same
    rw [tells.found]
    simp [struggle, respond, lookup, own, answers, Timed.map]

structure Agree (backend : Backend σ) (retry : Retry) (start : σ) (change : Nat → σ → σ)
    (twin : Nat → σ → σ → Prop) (tell : EntryAnswer → EntryAnswer) (clean other : Directory σ)
    (calls : List (Nat × EntryCall)) : Prop where
  results : (chain (struggle change) other calls).1.map Timed.result =
    ((chain respond clean (calls.map Prod.snd)).1.map Timed.result).map tell
  times : (chain (struggle change) other calls).1.map Timed.waited =
    calls.map (·.1 * retry.delay)
  ends : ∃ isReady number, Paired backend retry start twin isReady number
    (chain respond clean (calls.map Prod.snd)).2 (chain (struggle change) other calls).2

theorem calls_agree (masks : backend.Masks start change twin retag fits)
    (tells : EntryAnswer.Tells retag tell) {calls : List (Nat × EntryCall)}
    (plain : ∀ call ∈ calls, call.2.Plain) (few : ∀ call ∈ calls, call.1 < retry.attempts)
    (fit : ∀ place waste : Nat, (EntryCall.wasted isReady calls)[place]? = some waste →
      fits (number + place) waste)
    (paired : Paired backend retry start twin isReady number clean other) :
    Agree backend retry start change twin tell clean other calls := by
  induction calls generalizing isReady number clean other with
  | nil => exact ⟨rfl, rfl, isReady, number, paired⟩
  | cons call rest ih =>
    obtain ⟨faults, call⟩ := call
    have here : call.Plain := plain _ (List.mem_cons_self ..)
    have less := few _ (List.mem_cons_self ..)
    have step : ∀ after, Answers backend retry start change twin tell clean other faults call after →
        (∀ place waste : Nat, (EntryCall.wasted true rest)[place]? = some waste →
          fits (after + place) waste) →
        Agree backend retry start change twin tell clean other ((faults, call) :: rest) := by
      rintro after ⟨answer, next, last, answered, answers, paired⟩ fit
      obtain ⟨results, times, ends⟩ := ih (fun call listed => plain call (List.mem_cons_of_mem _ listed))
        (fun call listed => few call (List.mem_cons_of_mem _ listed)) fit paired
      refine ⟨?_, ?_, ?_⟩ <;> simp only [chain, List.map_cons, answered, answers]
      · exact congrArg _ results
      · exact congrArg _ times
      · exact ends
    cases call with
    | register entry =>
      refine step _ (register_answers masks tells here less ?_ paired) fun place waste found => ?_
      · exact fit 0 _ rfl
      · rw [Nat.add_assoc, Nat.add_comm 1]
        exact fit (place + 1) waste found
    | unregister entry => exact step _ (unregister_answers masks tells here.1 here.2 less paired) fit
    | lookup grain => exact step _ (lookup_answers masks tells grain less paired) fit

end Respond

end Directory

theorem EntryAnswer.id_tells : EntryAnswer.Tells id id where
  registered := fun _ _ _ _ => rfl
  unregistered := fun _ _ => rfl
  found := fun answer => by cases answer <;> rfl

namespace KeyValueStore

def Twins (cluster : String) (_ : Nat) (clean other : KeyValueStore) : Prop :=
  other = clean ∧ ∃ records, Holds cluster clean records

theorem call_masked {α : Type} {cluster : String} {number after faults : Nat}
    {call : Call KeyValueStore BackendFault α} {alike : α → α → Prop}
    (same : ∀ value, alike value value)
    (stumbles : ∀ store, Retry.Stumbles call (arm · store) faults)
    (answers : ∀ store records, Holds cluster store records →
      ∃ value next others, call store = (.ok value, next) ∧ Holds cluster next others) :
    Call.Masked arm (Twins cluster) call alike number after faults := by
  rintro _ clean ⟨rfl, records, holds⟩
  obtain ⟨value, next, others, answered, held⟩ := answers clean records holds
  have calm : arm 0 clean = clean := by rw [arm, ← holds.1]
  have answers : call (arm 0 clean) = (.ok value, next) := by rw [calm, answered]
  exact ⟨(arm · clean), rfl, stumbles clean, value, value, next, next, answered, answers,
    same value, rfl, others, held⟩

theorem masks (cluster : String) :
    (client.backend cluster).Masks {} arm (Twins cluster) id (fun _ _ => True) where
  prepare := fun _ _ _ => ⟨_, rfl⟩
  prepared := ⟨_, rfl, rfl, rfl, rfl, .none, rfl, _, rfl, fun _ => rfl⟩
  register := fun record number faults _ => by
    refine call_masked (fun _ => rfl) (fun _ _ _ => ⟨_, rfl⟩) fun store records holds => ?_
    obtain ⟨next, called, held⟩ := register_holds holds
    exact ⟨_, next, _, called, held⟩
  unregister := fun record number faults => by
    refine call_masked (fun _ => trivial) (fun _ _ _ => ⟨_, rfl⟩) fun store records holds => ?_
    obtain ⟨next, called, held⟩ := unregister_holds holds
    exact ⟨_, next, _, called, held⟩
  lookup := fun grain number faults => by
    refine call_masked (fun value => ?_) (fun _ _ _ => ⟨_, rfl⟩) fun store records holds =>
      ⟨_, store, records, lookup_holds holds, holds⟩
    cases value <;> rfl

end KeyValueStore

end ActorDirectory
