import ActorDirectory.Proofs.Text.Identities
import Mathlib.Data.List.Basic

namespace ActorDirectory
open Text

-- The values that are read back from what is written for them are all that are ever read, from
-- forms that others may have written.
structure Faithful {ε φ α : Type} (write : α → φ) (read : φ → Except ε α) (admits : α → Prop) :
    Prop where
  writes : ∀ {value}, admits value → read (write value) = .ok value
  reads : ∀ {form value}, read form = .ok value → admits value

namespace Faithful

variable {ε φ α : Type} {write : α → φ} {read : φ → Except ε α} {admits : α → Prop} {form : φ}
  {value : α}

theorem rewritten (faithful : Faithful write read admits) (found : read form = .ok value) :
    (read form).map write = .ok (write value) ∧ read (write value) = .ok value ∧
      (read (write value)).map write = .ok (write value) := by
  have again : read (write value) = .ok value := faithful.writes (faithful.reads found)
  have written : ∀ {other}, read other = .ok value →
      (read other).map write = .ok (write value) := by
    intro other same
    rw [same]
    rfl
  exact ⟨written found, again, written again⟩

end Faithful

namespace Grain

theorem make_fits {kind key : String} {grain : Grain} (made : make kind key = .ok grain) :
    grain.WellFormed := by
  unfold make at made
  split at made
  · rename_i found
    cases made
    exact (make_eq_some.mp found).1
  · cases made

end Grain

namespace Activation

theorem lacks_toText (activation : Activation) {c : Char} (strange : hexDigit? c = none) :
    c ∉ activation.toText.toList := by
  have small : activation.value < capacity 16 32 :=
    Nat.lt_of_lt_of_eq activation.bits.isLt (by decide)
  unfold toText
  rw [String.toList_ofList]
  exact (hexPadded_spells (by decide) small).lacks strange

end Activation

namespace Record

variable {record : Record} {address : Address}

def recode (record : Record) : Except ParseFault Record := record.toAddress.map Address.toRecord

theorem faithful : Faithful Address.toRecord toAddress (·.grain.WellFormed) where
  writes := Address.toAddress_toRecord
  reads read := (Address.parse_fits read).1

end Record

namespace Entry

variable {entry : Entry} {address : Address} {tagged : Tagged}

def ofTagged (tagged : Tagged) : Entry := ofAddress tagged.address tagged.version

def recode (entry : Entry) : Except ParseFault Entry := entry.toTagged.map ofTagged

theorem parts_packed (layout activation silo : String) (first : ',' ∉ layout.toList)
    (second : ',' ∉ activation.toList) :
    parts? (layout ++ "," ++ activation ++ "," ++ silo) = some (layout, activation, silo) := by
  have whole : cut ',' (layout ++ "," ++ activation ++ "," ++ silo).toList =
      some (layout.toList, activation.toList ++ ',' :: silo.toList) :=
    cut_exact.mpr ⟨by simp, first⟩
  have rest : cut ',' (activation.toList ++ ',' :: silo.toList) =
      some (activation.toList, silo.toList) := cut_exact.mpr ⟨rfl, second⟩
  unfold parts?
  rw [whole]
  simp [rest]

theorem toAddress_ofAddress (fit : address.grain.WellFormed) (version : Version) :
    (ofAddress address version).toAddress = .ok address := by
  have parts : parts? (ofAddress address version).packed =
      some ("1", address.activation.toText, address.silo.toText) :=
    parts_packed "1" address.activation.toText address.silo.toText (by decide)
      (address.activation.lacks_toText rfl)
  unfold toAddress
  rw [parts]
  exact Address.toAddress_toRecord fit

theorem toTagged_ofAddress (fit : address.grain.WellFormed) (version : Version) :
    (ofAddress address version).toTagged = .ok ⟨address, version⟩ := by
  unfold toTagged
  rw [toAddress_ofAddress fit, version_ofAddress]
  rfl

theorem faithful : Faithful ofTagged toTagged (·.address.grain.WellFormed) where
  writes fit := toTagged_ofAddress fit _
  reads read := (toAddress_fits (toTagged_address read)).1

end Entry

namespace Address

-- Registrations are read back from their entries and their records. Of entries and records that
-- others have written, what can be read is written anew in a form that stays, under a grain of
-- the same text.
theorem encodings_round_trip :
    (∀ kind key grain, Grain.make kind key = .ok grain → ∀ silo activation version,
      let address : Address := ⟨grain, silo, activation⟩
      (Entry.ofAddress address version).toTagged = .ok ⟨address, version⟩ ∧
      address.toRecord.toAddress = .ok address) ∧
    (∀ entry tagged, Entry.toTagged entry = .ok tagged →
      let again := Entry.ofAddress tagged.address tagged.version
      entry.recode = .ok again ∧ again.toTagged = .ok tagged ∧ again.recode = .ok again ∧
      again.grain = entry.grain) ∧
    (∀ record address, Record.toAddress record = .ok address →
      let again := address.toRecord
      record.recode = .ok again ∧ again.toAddress = .ok address ∧ again.recode = .ok again ∧
      again.grain = record.grain) := by
  refine ⟨?_, ?_, ?_⟩
  · intro kind key grain made silo activation version
    have fit : grain.WellFormed := Grain.make_fits made
    exact ⟨Entry.toTagged_ofAddress fit version, toAddress_toRecord fit⟩
  · intro entry tagged read
    obtain ⟨recoded, same, fixed⟩ := Entry.faithful.rewritten read
    exact ⟨recoded, same, fixed, (Entry.toAddress_fits (Entry.toTagged_address read)).2⟩
  · intro record address read
    obtain ⟨recoded, same, fixed⟩ := Record.faithful.rewritten read
    exact ⟨recoded, same, fixed, (parse_fits read).2⟩

def foreignEntry : Entry :=
  ⟨"note/a,b/ü", "1,0aF,[::FFFF:10.0.0.1]:+07@01", "W/\"007\""⟩

def foreignRecord : Record := ⟨"::1:080@1", "note/a,b/ü", "0aF"⟩

def note (ip : Ip) (port : UInt16) : Address :=
  ⟨⟨"note", "a,b/ü"⟩, ⟨ip, port, 1⟩, .ofNat 0xaf⟩

def mapped : Address := note (.v6 ⟨[0, 0, 0, 0, 0, 0xffff, 0x0a00, 1], rfl⟩) 7

def looped : Address := note Silo.loopback.ip 80

theorem foreign_forms_recoded :
    foreignEntry.recode = .ok (.ofAddress mapped ⟨7⟩) ∧
    (Entry.ofAddress mapped ⟨7⟩).recode = .ok (.ofAddress mapped ⟨7⟩) ∧
    foreignRecord.recode = .ok looped.toRecord ∧ looped.toRecord.recode = .ok looped.toRecord := by
  obtain ⟨_, entries, records⟩ := encodings_round_trip
  obtain ⟨entry, _, recodedEntry, _⟩ := entries foreignEntry ⟨mapped, ⟨7⟩⟩ (by decide +kernel)
  obtain ⟨record, _, recodedRecord, _⟩ := records foreignRecord looped (by decide +kernel)
  exact ⟨entry, recodedEntry, record, recodedRecord⟩

end Address
end ActorDirectory
