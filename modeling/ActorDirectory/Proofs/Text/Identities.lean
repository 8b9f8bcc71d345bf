import ActorDirectory.Entry
import ActorDirectory.Proofs.Net.Addresses
import ActorDirectory.Proofs.Text.Etags

namespace ActorDirectory
open Text

namespace Grain

theorem make_eq_some {kind key : String} {grain : Grain} :
    make? kind key = some grain ↔ grain.WellFormed ∧ grain = ⟨kind, key⟩ := by
  rw [make?]
  split
  · rename_i fit
    exact ⟨fun same => Option.some.inj same ▸ ⟨fit, rfl⟩, fun ⟨_, same⟩ => same ▸ rfl⟩
  · rename_i unfit
    exact ⟨nofun, fun ⟨fit, same⟩ => absurd (same ▸ fit) unfit⟩

-- A text names one well-formed grain at most, and names it in one way only.
theorem parse_eq_some {text : String} {grain : Grain} :
    parse? text = some grain ↔ grain.WellFormed ∧ grain.toText = text := by
  have joined : ∀ kind key : List Char,
      toText ⟨.ofList kind, .ofList key⟩ = .ofList (kind ++ '/' :: key) := by
    intro kind key
    simp [toText, ← String.toList_inj]
  simp only [parse?, Option.bind_eq_bind, Option.bind_eq_some_iff, Prod.exists, cut_exact,
    make_eq_some]
  constructor
  · rintro ⟨kind, key, ⟨whole, _⟩, fit, rfl⟩
    exact ⟨fit, by rw [joined, ← whole, String.ofList_toList]⟩
  · rintro ⟨fit, rfl⟩
    exact ⟨grain.kind.toList, grain.key.toList, ⟨by simp [toText], fit.2.1⟩, fit,
      by simp⟩

-- Without a slash in its kind, even an ill-formed grain is not read as another.
theorem parse_own {grain other : Grain} (whole : '/' ∉ grain.kind.toList)
    (read : parse? grain.toText = some other) : other = grain := by
  have halves : cut '/' grain.toText.toList = some (grain.kind.toList, grain.key.toList) :=
    cut_exact.mpr ⟨by simp [toText], whole⟩
  rw [parse?, halves] at read
  have made := (make_eq_some.mp read).2
  rwa [String.ofList_toList, String.ofList_toList] at made

end Grain

namespace Activation

theorem parse_toText (activation : Activation) : parse? activation.toText = some activation := by
  have small : activation.value < capacity 16 32 :=
    Nat.lt_of_lt_of_eq activation.bits.isLt (by decide)
  obtain ⟨digits, read, value⟩ := hexPadded_spells (by decide) small
  have length : digits.length = 32 := by
    rw [digitsOf_length read, length_hexPadded]
  have same : ofNat (valueOf 16 digits) = activation := by
    rw [value, ofNat, Activation.value, BitVec.ofNat_toNat, BitVec.setWidth_eq]
  simp [parse?, toText, read, length, same]

end Activation

namespace Address

theorem toAddress_toRecord {address : Address} (fit : address.grain.WellFormed) :
    address.toRecord.toAddress = .ok address := by
  have grain : Grain.parse? address.grain.toText = some address.grain :=
    Grain.parse_eq_some.mpr ⟨fit, rfl⟩
  simp only [Record.toAddress, toRecord, parse, Grain.parse, grain, Silo.parse,
    Silo.parse_toText, Activation.parse, Activation.parse_toText]
  rfl

theorem parse_grain {grain silo activation : String} {address : Address}
    (read : parse grain silo activation = .ok address) :
    Grain.parse? grain = some address.grain := by
  simp only [parse, Grain.parse] at read
  split at read
  · rename_i found
    simp only [bind, Except.bind] at read
    split at read
    · cases read
    · split at read
      · cases read
      · cases read
        exact found
  · cases read

theorem parse_fits {grain silo activation : String} {address : Address}
    (read : parse grain silo activation = .ok address) :
    address.grain.WellFormed ∧ address.grain.toText = grain :=
  Grain.parse_eq_some.mp (parse_grain read)

end Address

namespace Entry

variable {entry : Entry} {address : Address}

theorem version_ofAddress (address : Address) (version : Version) :
    (ofAddress address version).version = version := Version.ofEtag_toEtag version

theorem toAddress_grain (read : entry.toAddress = .ok address) :
    Grain.parse? entry.grain = some address.grain := by
  rw [toAddress] at read
  split at read
  · cases read
  · split at read
    · exact Address.parse_grain read
    · cases read

theorem toAddress_fits (read : entry.toAddress = .ok address) :
    address.grain.WellFormed ∧ address.grain.toText = entry.grain :=
  Grain.parse_eq_some.mp (toAddress_grain read)

theorem toAddress_own {version : Version} {other : Address}
    (whole : '/' ∉ address.grain.kind.toList)
    (read : (ofAddress address version).toAddress = .ok other) : other.grain = address.grain :=
  Grain.parse_own whole (toAddress_grain read)

theorem toTagged_address {tagged : Tagged} (read : entry.toTagged = .ok tagged) :
    entry.toAddress = .ok tagged.address := by
  rw [toTagged] at read
  cases parsed : entry.toAddress with
  | error fault =>
    rw [parsed] at read
    cases read
  | ok address =>
    rw [parsed] at read
    cases read
    rfl

end Entry
end ActorDirectory
