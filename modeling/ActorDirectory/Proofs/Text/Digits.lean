import ActorDirectory.Proofs.Text.Numerals
import Mathlib.Data.List.Induction

namespace ActorDirectory.Text

variable {base bound n digit : Nat} {c : Char} {digit? : Char → Option Nat} {text : List Char}

def Digit (base : Nat) (c : Char) (digit : Nat) : Prop :=
  digit < base ∧ (c = Nat.digitChar digit ∨ c = hexUpper digit)

instance (base : Nat) (c : Char) (digit : Nat) : Decidable (Digit base c digit) :=
  inferInstanceAs (Decidable (_ ∧ _))

inductive Numeral (base : Nat) : List Char → Nat → Prop where
  | lone {c : Char} {digit : Nat} : Digit base c digit → Numeral base [c] digit
  | more {text : List Char} {n : Nat} {c : Char} {digit : Nat} :
      Numeral base text n → Digit base c digit → Numeral base (text ++ [c]) (n * base + digit)

def Unsigned (bound : Nat) (text : List Char) (n : Nat) : Prop :=
  n < bound ∧ ∃ numeral, Numeral 10 numeral n ∧ (text = numeral ∨ text = '+' :: numeral)

theorem hexDigit_code (read : hexDigit? c = some digit) : c.toNat < 103 := by
  have below : ∀ {last : Char}, c ≤ last → c.toNat ≤ last.toNat := UInt32.le_iff_toNat_le.mp
  apply Nat.lt_succ_of_le
  unfold hexDigit? at read
  split at read
  · rename_i within
    exact Nat.le_trans (below within.2) (by decide)
  · split at read
    · rename_i within
      exact below within.2
    · split at read
      · rename_i within
        exact Nat.le_trans (below within.2) (by decide)
      · cases read

-- No digit comes after the last letter in use, so there are few characters to try.
theorem digit_exact (low : ∀ {c digit}, digit? c = some digit → c.toNat < 103)
    (reads : ∀ code < 103, ∀ digit ∈ digit? (Char.ofNat code), Digit base (Char.ofNat code) digit)
    (writes : ∀ digit < base, digit? (Nat.digitChar digit) = some digit ∧
      digit? (hexUpper digit) = some digit) :
    digit? c = some digit ↔ Digit base c digit := by
  constructor
  · intro read
    have written := reads c.toNat (low read)
    rw [Char.ofNat_toNat] at written
    exact written digit read
  · intro written
    obtain ⟨small, rfl | rfl⟩ := written
    · exact (writes digit small).1
    · exact (writes digit small).2

theorem hexDigit_exact : hexDigit? c = some digit ↔ Digit 16 c digit :=
  digit_exact hexDigit_code (by decide +kernel) (by decide)

theorem decimalDigit_exact : decimalDigit? c = some digit ↔ Digit 10 c digit :=
  digit_exact (hexDigit_code ∘ hexDigit_of_decimalDigit) (by decide +kernel) (by decide)

theorem Numeral.someone (numeral : Numeral base text n) : text ≠ [] := by
  cases numeral <;> simp

theorem Numeral.lt_capacity (numeral : Numeral base text n) : n < capacity base text.length := by
  induction numeral with
  | lone written => simpa [capacity] using written.1
  | @more text n c digit _ written ih =>
    rw [List.length_append, List.length_singleton, capacity]
    calc n * base + digit
        < n * base + base := Nat.add_lt_add_left written.1 _
      _ = base * (n + 1) := by rw [Nat.mul_comm, Nat.mul_add, Nat.mul_one]
      _ ≤ base * capacity base text.length := Nat.mul_le_mul_left base ih

theorem spells_exact (reads : ∀ {c digit}, digit? c = some digit ↔ Digit base c digit) :
    Spells digit? base text n ↔ Numeral base text n := by
  constructor
  · intro spells
    obtain ⟨digits, read, rfl⟩ := spells
    obtain ⟨someone, same⟩ := digitsOf_eq_some.mp read
    clear read
    induction digits using List.reverseRecOn generalizing text with
    | nil => exact absurd (List.map_eq_nil_iff.mp same) someone
    | append_singleton digits last ih =>
      rw [List.map_append] at same
      obtain ⟨earlier, final, rfl, front, back⟩ := List.map_eq_append_iff.mp same
      obtain ⟨c, rfl, ends⟩ := List.map_eq_singleton_iff.mp back
      have digit : Digit base c last := reads.mp ends
      rw [valueOf_concat]
      cases earlier with
      | nil =>
        have nothing : digits = [] := List.map_eq_nil_iff.mp front.symm
        rw [nothing]
        simpa [valueOf] using Numeral.lone digit
      | cons first rest => exact .more (ih (List.cons_ne_nil first rest) front) digit
  · intro numeral
    induction numeral with
    | lone digit => exact spells_digit (reads.mpr digit)
    | more _ digit earlier => exact spells_concat earlier (reads.mpr digit)

theorem unsigned_exact : unsigned? bound text = some n ↔ Unsigned bound text n := by
  constructor
  · intro read
    simp only [unsigned?, Option.bind_eq_bind, Option.bind_eq_some_iff] at read
    obtain ⟨digits, found, value⟩ := read
    split at value
    · rename_i small
      cases value
      refine ⟨small, _, (spells_exact decimalDigit_exact).mp ⟨digits, found, rfl⟩, ?_⟩
      split
      · exact .inr rfl
      · exact .inl rfl
    · cases value
  · intro unsigned
    obtain ⟨small, numeral, written, rfl | rfl⟩ := unsigned
    · exact unsigned_of_spells ((spells_exact decimalDigit_exact).mpr written) small
    · obtain ⟨digits, read, rfl⟩ := (spells_exact decimalDigit_exact).mpr written
      simp [unsigned?, read, small]

theorem unsigned_decimal_iff {number : Nat} :
    unsigned? bound (decimal number) = some n ↔ n = number ∧ number < bound := by
  constructor
  · intro read
    obtain ⟨small, numeral⟩ := unsigned_exact.mp read
    have widened : Unsigned (max bound (number + 1)) (decimal number) n :=
      ⟨Nat.lt_of_lt_of_le small (Nat.le_max_left ..), numeral⟩
    have own : unsigned? (max bound (number + 1)) (decimal number) = some number :=
      unsigned_decimal (Nat.le_max_right ..)
    have same := Option.some.inj ((unsigned_exact.mpr widened).symm.trans own)
    exact ⟨same, same ▸ small⟩
  · intro own
    rw [own.1]
    exact unsigned_decimal own.2

theorem Unsigned.lacks (unsigned : Unsigned bound text n) (strange : decimalDigit? c = none)
    (other : c ≠ '+') : c ∉ text := by
  obtain ⟨_, numeral, written, same⟩ := unsigned
  have absent := ((spells_exact decimalDigit_exact).mpr written).lacks strange
  rcases same with rfl | rfl
  · exact absent
  · exact fun present => (List.mem_cons.mp present).elim other absent

theorem Digit.decimal (written : Digit 10 c digit) : c = Nat.digitChar digit := by
  have same : ∀ digit < 10, hexUpper digit = Nat.digitChar digit := by decide
  obtain ⟨small, rfl | rfl⟩ := written
  · rfl
  · exact same digit small

-- Without leading zeros there is one numeral for each number.
theorem decimal_of_numeral (numeral : Numeral 10 text n)
    (unled : text.head? = some '0' → text.length = 1) : text = decimal n := by
  unfold decimal
  induction numeral with
  | lone written => rw [written.decimal, Nat.toDigits_of_lt_base written.1]
  | @more text n c digit earlier written ih =>
    obtain ⟨first, rest, rfl⟩ := List.exists_cons_of_ne_nil earlier.someone
    have led : first ≠ '0' := by
      intro zero
      have short := unled (congrArg some zero)
      simp at short
    have same := ih fun zero => absurd (Option.some.inj zero) led
    have positive : n ≠ 0 := by
      intro zero
      rw [zero] at same
      exact led (List.cons.inj same).1
    have small := written.1
    have quotient : (n * 10 + digit) / 10 = n := by omega
    have remainder : (n * 10 + digit) % 10 = digit := by omega
    rw [Nat.toDigits_of_base_le (by decide) (by omega), quotient, remainder, written.decimal, same]

end ActorDirectory.Text
