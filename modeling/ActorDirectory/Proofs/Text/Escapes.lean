import ActorDirectory.Proofs.Text.Digits
import ActorDirectory.Text.Percent

namespace ActorDirectory.Text

def Control (c : Char) : Prop := c.toNat < 0x20 ∨ 0x7f ≤ c.toNat ∧ c.toNat < 0xa0

def Legal (c : Char) : Prop := c ∉ ['/', '\\', '#', '?'] ∧ ¬Control c

instance (c : Char) : Decidable (Control c) := inferInstanceAs (Decidable (_ ∨ _))

instance (c : Char) : Decidable (Legal c) := inferInstanceAs (Decidable (_ ∧ _))

-- A percent sign and two digits stand for a byte, in either letter case. Everything else, a
-- percent sign without them too, stands for its own bytes.
def percentBytes : List Char → List UInt8
  | [] => []
  | '%' :: high :: low :: rest =>
    match hexDigit? high, hexDigit? low with
    | some upper, some lower => UInt8.ofNat (upper * 16 + lower) :: percentBytes rest
    | _, _ => String.utf8EncodeChar '%' ++ percentBytes (high :: low :: rest)
  | c :: rest => String.utf8EncodeChar c ++ percentBytes rest

def percentDecode? (text : List Char) : Option String :=
  String.fromUTF8? (percentBytes text).toByteArray

variable {c : Char} {text : List Char}

theorem legal_plain (plain : isEscaped c = false) : Legal c := by
  unfold isEscaped at plain
  simp only [decide_eq_false_iff_not, not_or] at plain
  obtain ⟨_, slash, backslash, hash, question, low, high⟩ := plain
  refine ⟨by simp [slash, backslash, hash, question], ?_⟩
  unfold Control
  exact not_or.mpr ⟨low, high⟩

theorem hexUpper_legal : ∀ digit < 16, Legal (hexUpper digit) := by decide

theorem percentByte_legal (byte : UInt8) : ∀ c ∈ percentByte byte, Legal c := by
  have small : byte.toNat < 16 * 16 := byte.toNat_lt
  have upper := hexUpper_legal (byte.toNat / 16) (Nat.div_lt_of_lt_mul small)
  have lower := hexUpper_legal (byte.toNat % 16) (Nat.mod_lt _ (by omega))
  intro c present
  unfold percentByte at present
  simp only [List.mem_cons, List.not_mem_nil, or_false] at present
  obtain rfl | rfl | rfl := present
  · decide
  · exact upper
  · exact lower

theorem percentEncode_legal (text : List Char) : ∀ c ∈ percentEncode text, Legal c := by
  intro c present
  unfold percentEncode at present
  obtain ⟨origin, _, written⟩ := List.mem_flatMap.mp present
  split at written
  · obtain ⟨byte, _, written⟩ := List.mem_flatMap.mp written
    exact percentByte_legal byte c written
  · rename_i plain
    rw [List.mem_singleton.mp written]
    exact legal_plain (Bool.eq_false_iff.mpr plain)

theorem percentBytes_plain (other : c ≠ '%') (rest : List Char) :
    percentBytes (c :: rest) = String.utf8EncodeChar c ++ percentBytes rest := by
  rw [percentBytes]
  intro _ _ _ same
  exact absurd same other

theorem percentBytes_byte (byte : UInt8) (rest : List Char) :
    percentBytes (percentByte byte ++ rest) = byte :: percentBytes rest := by
  have small : byte.toNat < 16 * 16 := byte.toNat_lt
  have upper : hexDigit? (hexUpper (byte.toNat / 16)) = some (byte.toNat / 16) :=
    hexDigit_exact.mpr ⟨Nat.div_lt_of_lt_mul small, .inr rfl⟩
  have lower : hexDigit? (hexUpper (byte.toNat % 16)) = some (byte.toNat % 16) :=
    hexDigit_exact.mpr ⟨Nat.mod_lt _ (by omega), .inr rfl⟩
  change percentBytes ('%' :: hexUpper (byte.toNat / 16) :: hexUpper (byte.toNat % 16) :: rest) = _
  rw [percentBytes, upper, lower]
  dsimp only
  rw [Nat.mul_comm, Nat.div_add_mod, UInt8.ofNat_toNat]

theorem percentBytes_escaped (bytes : List UInt8) (rest : List Char) :
    percentBytes (bytes.flatMap percentByte ++ rest) = bytes ++ percentBytes rest := by
  induction bytes with
  | nil => rfl
  | cons byte bytes ih =>
    rw [List.flatMap_cons, List.append_assoc, percentBytes_byte, ih, List.cons_append]

-- An escaped percent sign gives the sign back, so whatever follows it is not taken for digits.
theorem percentBytes_encode (text : List Char) :
    percentBytes (percentEncode text) = text.flatMap String.utf8EncodeChar := by
  induction text with
  | nil => rfl
  | cons c rest ih =>
    unfold percentEncode at ih ⊢
    rw [List.flatMap_cons, List.flatMap_cons, ← ih]
    split
    · exact percentBytes_escaped _ _
    · rename_i plain
      refine percentBytes_plain (fun sign => plain ?_) _
      rw [sign]
      rfl

theorem percentDecode_encode (text : List Char) :
    percentDecode? (percentEncode text) = some (String.ofList text) := by
  have valid : (text.flatMap String.utf8EncodeChar).toByteArray.IsValidUTF8 :=
    ByteArray.isValidUTF8_utf8Encode
  unfold percentDecode? String.fromUTF8?
  rw [percentBytes_encode, dif_pos valid]
  rfl

example : percentEncode "a\u0085%2F".toList = "a%C2%85%252F".toList := by decide

theorem percentEncode_injective {text other : List Char}
    (same : percentEncode text = percentEncode other) : text = other := by
  have read := percentDecode_encode text
  rw [same, percentDecode_encode] at read
  exact (String.ofList_inj.mp (Option.some.inj read)).symm

end ActorDirectory.Text
