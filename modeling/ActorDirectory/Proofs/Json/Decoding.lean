import ActorDirectory.Proofs.Json.Reading
import ActorDirectory.Proofs.Net.Addresses

-- Which documents a value is read from: the one that is written for it, and those that have its
-- fields in another order, with others among them, or as an array.
namespace ActorDirectory
open Text

namespace Json

variable {α : Type} {fields : List (String × Json)} {field : String × Json} {json : Json}

-- A document with these fields in any order, and maybe others, or with just their values in order.
inductive Lays (fields : List (String × Json)) : Json → Prop where
  | object {laid others : List (String × Json)} : laid.Perm (fields ++ others) →
      (∀ other ∈ others, other.1 ∉ fields.map Prod.fst) → Lays fields (.ofFields laid)
  | array : Lays fields (.array (fields.map Prod.snd))

theorem lays_own (fields : List (String × Json)) : Lays fields (.ofFields fields) := by
  have same : fields.Perm (fields ++ []) := by rw [List.append_nil]
  exact .object same (List.forall_mem_nil _)

theorem filter_field (distinct : (fields.map Prod.fst).Nodup) (present : field ∈ fields) :
    fields.filter (·.1 = field.1) = [field] := by
  induction fields with
  | nil => cases present
  | cons first rest ih =>
    obtain ⟨absent, distinct⟩ := List.nodup_cons.mp distinct
    cases present with
    | head =>
      have others : rest.filter (·.1 = field.1) = [] := by
        refine List.filter_eq_nil_iff.mpr fun other listed same => absent ?_
        rw [← of_decide_eq_true same]
        exact List.mem_map_of_mem listed
      rw [List.filter_cons, if_pos (decide_eq_true rfl), others]
    | tail _ later =>
      have other : ¬decide (first.1 = field.1) = true := by
        intro same
        rw [of_decide_eq_true same] at absent
        exact absent (List.mem_map_of_mem later)
      rw [List.filter_cons, if_neg other, ih distinct later]

theorem filter_laid {laid others : List (String × Json)} (same : laid.Perm (fields ++ others))
    (apart : ∀ other ∈ others, other.1 ∉ fields.map Prod.fst)
    (distinct : (fields.map Prod.fst).Nodup) (present : field ∈ fields) :
    laid.filter (·.1 = field.1) = [field] := by
  have none : others.filter (·.1 = field.1) = [] := by
    refine List.filter_eq_nil_iff.mpr fun other listed same => apart other listed ?_
    rw [of_decide_eq_true same]
    exact List.mem_map_of_mem present
  have filtered := same.filter (·.1 = field.1)
  rw [List.filter_append, filter_field distinct present, none] at filtered
  exact List.perm_singleton.mp filtered

theorem members_laid {names : List String} (lays : Lays fields json)
    (same : fields.map Prod.fst = names) (distinct : names.Nodup) :
    json.members? names = some (fields.map Prod.snd) := by
  subst same
  cases lays with
  | array =>
    unfold members?
    dsimp only
    rw [List.length_map, List.length_map, if_pos rfl]
  | @object laid others same apart =>
    have known : (named laid).mapM
        (fun field => field.1.map fun name => (name, field.2)) = some laid := by
      refine mapM_eq_some.mpr ?_
      unfold named
      rw [List.map_map]
      rfl
    rw [ofFields_named]
    unfold members?
    dsimp only
    rw [known]
    refine mapM_eq_some.mpr ?_
    rw [List.map_map, List.map_map]
    refine List.map_congr_left fun field present => ?_
    dsimp only [Function.comp]
    rw [filter_laid same apart distinct present]

theorem natural_ofNat {bound n : Nat} (small : n < bound) : (ofNat n).natural? bound = some n := by
  obtain ⟨digits, read, value⟩ := decimal_spells n
  unfold natural? ofNat
  dsimp only
  rw [read]
  change (if valueOf 10 digits < bound then some (valueOf 10 digits) else none) = some n
  rw [value, if_pos small]

-- The form of a type: what is written for a value, what is read as one, and the documents that
-- are to be read as it, its own among them.
structure Form (α : Type) where
  write : α → Json
  read : Json → Option α
  depicts : α → Json → Prop
  plain : ∀ value, (write value).Plain
  own : ∀ value, depicts value (write value)
  reads : ∀ value json, depicts value json → read json = some value

def decode? (read : Json → Option α) (text : String) : Option α := do read (← parse? text)

structure Lossless (write : α → Json) (read : Json → Option α) (depicts : α → Json → Prop) :
    Prop where
  back : ∀ value, decode? read (write value).toText = some value
  apart : Function.Injective fun value => (write value).toText
  accepted : ∀ value json, depicts value json → ∀ text, parse? text = some json →
    decode? read text = some value
  rewritten : ∀ value json, depicts value json → json.Plain → decode? read json.toText = some value

namespace Form

variable (form : Form α)

theorem accepts {value : α} (depicts : form.depicts value json) {text : String}
    (parsed : parse? text = some json) : decode? form.read text = some value := by
  unfold decode?
  rw [parsed]
  exact form.reads value json depicts

theorem back (value : α) : decode? form.read (form.write value).toText = some value :=
  form.accepts (form.own value) (parse_toText (form.plain value))

theorem lossless : Lossless form.write form.read form.depicts where
  back := form.back
  apart := by
    intro value other same
    have read := form.back value
    rw [show (form.write value).toText = (form.write other).toText from same, form.back] at read
    exact (Option.some.inj read).symm
  accepted := fun _ _ depicts _ parsed => form.accepts depicts parsed
  rewritten := fun _ _ depicts plain => form.accepts depicts (parse_toText plain)

def single (write : α → Json) (read : Json → Option α) (plain : ∀ value, (write value).Plain)
    (back : ∀ value, read (write value) = some value) : Form α where
  write := write
  read := read
  depicts := fun value json => json = write value
  plain := plain
  own := fun _ => rfl
  reads := fun value json same => by rw [same, back]

end Form

def textForm : Form String := .single .ofText text? .text fun _ => rfl

end Json

namespace Grain

def Depicts (grain : Grain) : Json → Prop :=
  Json.Lays [("grain_type", .ofText grain.kind), ("key", .ofText grain.key)]

def form : Json.Form Grain where
  write := toJson
  read := ofJson?
  depicts := Depicts
  plain := by
    intro grain
    refine .object _ ?_
    simp only [List.forall_mem_cons]
    exact ⟨.text _, .text _, List.forall_mem_nil _⟩
  own := fun _ => Json.lays_own _
  reads := by
    intro grain json lays
    have members : json.members? ["grain_type", "key"] =
        some [.ofText grain.kind, .ofText grain.key] := Json.members_laid lays rfl (by decide)
    unfold ofJson?
    rw [members]
    rfl

end Grain

namespace Silo

def Depicts (silo : Silo) : Json → Prop :=
  Json.Lays [("ip", .ofText silo.ip.toText), ("port", .ofNat silo.port.toNat),
    ("generation", .ofNat silo.generation.toNat)]

def form : Json.Form Silo where
  write := toJson
  read := ofJson?
  depicts := Depicts
  plain := by
    intro silo
    refine .object _ ?_
    simp only [List.forall_mem_cons]
    exact ⟨.text _, .number _, .number _, List.forall_mem_nil _⟩
  own := fun _ => Json.lays_own _
  reads := by
    intro silo json lays
    have members : json.members? ["ip", "port", "generation"] = some [.ofText silo.ip.toText,
        .ofNat silo.port.toNat, .ofNat silo.generation.toNat] :=
      Json.members_laid lays rfl (by decide)
    have ip : Ip.parse? silo.ip.toText.toList = some silo.ip := by
      unfold Ip.toText
      rw [String.toList_ofList]
      exact Ip.parse_exact.mpr silo.ip.literal_render
    have port := Json.natural_ofNat silo.port.toNat_lt
    have generation := Json.natural_ofNat silo.generation.toNat_lt
    unfold ofJson?
    rw [members]
    simp [Json.text?, Json.ofText, ip, port, generation]

end Silo

namespace Activation

def form : Json.Form Activation := .single toJson ofJson? (fun _ => .number _) fun activation => by
  have small : activation.value < capacity 16 32 := activation.bits.isLt
  unfold ofJson? toJson
  rw [Json.natural_ofNat small]
  unfold ofNat value
  rw [Option.map_some, BitVec.ofNat_toNat, BitVec.setWidth_eq]

end Activation

namespace Status

def form : Json.Form Status := .single toJson ofJson? (fun _ => .text _) fun status => by
  cases status <;> rfl

end Status

namespace Epoch

def form : Json.Form Epoch := .single toJson ofJson? (fun _ => .number _) fun epoch => by
  unfold ofJson? toJson
  rw [Json.natural_ofNat epoch.number.toNat_lt]
  simp

end Epoch

namespace Address

def Depicts (address : Address) (json : Json) : Prop :=
  ∃ grain silo, address.grain.Depicts grain ∧ address.silo.Depicts silo ∧
    Json.Lays [("grain", grain), ("silo", silo), ("activation", address.activation.toJson)] json

def form : Json.Form Address where
  write := toJson
  read := ofJson?
  depicts := Depicts
  plain := by
    intro address
    refine .object _ ?_
    simp only [List.forall_mem_cons]
    exact ⟨Grain.form.plain address.grain, Silo.form.plain address.silo,
      Activation.form.plain address.activation, List.forall_mem_nil _⟩
  own := fun address =>
    ⟨_, _, Grain.form.own address.grain, Silo.form.own address.silo, Json.lays_own _⟩
  reads := by
    intro address json depicts
    obtain ⟨grain, silo, ofGrain, ofSilo, lays⟩ := depicts
    have members : json.members? ["grain", "silo", "activation"] =
        some [grain, silo, address.activation.toJson] := Json.members_laid lays rfl (by decide)
    have readGrain : Grain.ofJson? grain = some address.grain := Grain.form.reads _ _ ofGrain
    have readSilo : Silo.ofJson? silo = some address.silo := Silo.form.reads _ _ ofSilo
    have readActivation : Activation.ofJson? address.activation.toJson = some address.activation :=
      Activation.form.reads _ _ rfl
    unfold ofJson?
    rw [members]
    simp [readGrain, readSilo, readActivation]

end Address

namespace Record

def Depicts (record : Record) : Json → Prop :=
  Json.Lays [("SiloAddress", .ofText record.silo), ("GrainId", .ofText record.grain),
    ("ActivationId", .ofText record.activation)]

def form : Json.Form Record where
  write := toJson
  read := ofJson?
  depicts := Depicts
  plain := plain_toJson
  own := fun _ => Json.lays_own _
  reads := by
    intro record json lays
    have members : json.members? ["SiloAddress", "GrainId", "ActivationId"] =
        some [.ofText record.silo, .ofText record.grain, .ofText record.activation] :=
      Json.members_laid lays rfl (by decide)
    unfold ofJson?
    rw [members]
    rfl

end Record

namespace Member

def Depicts (member : Member) (json : Json) : Prop :=
  ∃ silo, member.silo.Depicts silo ∧
    Json.Lays [("silo", silo), ("status", member.status.toJson), ("name", .ofText member.name)] json

def form : Json.Form Member where
  write := toJson
  read := ofJson?
  depicts := Depicts
  plain := by
    intro member
    refine .object _ ?_
    simp only [List.forall_mem_cons]
    exact ⟨Silo.form.plain member.silo, Status.form.plain member.status, .text _,
      List.forall_mem_nil _⟩
  own := fun member => ⟨_, Silo.form.own member.silo, Json.lays_own _⟩
  reads := by
    intro member json depicts
    obtain ⟨silo, ofSilo, lays⟩ := depicts
    have members : json.members? ["silo", "status", "name"] =
        some [silo, member.status.toJson, .ofText member.name] :=
      Json.members_laid lays rfl (by decide)
    have readSilo : Silo.ofJson? silo = some member.silo := Silo.form.reads _ _ ofSilo
    have readStatus : Status.ofJson? member.status.toJson = some member.status :=
      Status.form.reads _ _ rfl
    unfold ofJson?
    rw [members]
    simp [readSilo, readStatus, Json.text?, Json.ofText]

end Member

-- For kinds of grains, grains, silos, activations, addresses, records, members, statuses and
-- epochs. Grains need not be well formed.
theorem forms_lossless :
    Json.Lossless Json.ofText Json.text? (fun kind json => json = .ofText kind) ∧
    Json.Lossless Grain.toJson Grain.ofJson? Grain.Depicts ∧
    Json.Lossless Silo.toJson Silo.ofJson? Silo.Depicts ∧
    Json.Lossless Activation.toJson Activation.ofJson? (fun value json => json = value.toJson) ∧
    Json.Lossless Address.toJson Address.ofJson? Address.Depicts ∧
    Json.Lossless Record.toJson Record.ofJson? Record.Depicts ∧
    Json.Lossless Member.toJson Member.ofJson? Member.Depicts ∧
    Json.Lossless Status.toJson Status.ofJson? (fun value json => json = value.toJson) ∧
    Json.Lossless Epoch.toJson Epoch.ofJson? (fun value json => json = value.toJson) :=
  ⟨Json.textForm.lossless, Grain.form.lossless, Silo.form.lossless, Activation.form.lossless,
    Address.form.lossless, Record.form.lossless, Member.form.lossless, Status.form.lossless,
    Epoch.form.lossless⟩

example : Json.decode? Grain.ofJson?
    "\x7b\"key\":\"/\", \"key2\":[null],\"grain_type\":\"\"\x7d" = some ⟨"", "/"⟩ := by
  decide +kernel

end ActorDirectory
