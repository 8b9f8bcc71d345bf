import ActorDirectory.Text.Numeral

namespace ActorDirectory.Text

theorem mapM_eq_some {α β : Type} {f : α → Option β} {items : List α} {results : List β} :
    items.mapM f = some results ↔ items.map f = results.map some := by
  induction items generalizing results with
  | nil => cases results <;> simp
  | cons item rest ih =>
    cases results with
    | nil => simp [List.mapM_cons, Option.bind_eq_some_iff]
    | cons result more =>
      simp only [List.mapM_cons, Option.pure_def, Option.bind_eq_bind, Option.bind_eq_some_iff,
        Option.some.injEq, List.cons.injEq, ih, List.map_cons]
      constructor
      · rintro ⟨_, here, _, later, rfl, rfl⟩
        exact ⟨here, later⟩
      · rintro ⟨here, later⟩
        exact ⟨result, here, more, later, rfl, rfl⟩

variable {base n : Nat} {digit? : Char → Option Nat} {text : List Char} {digits : List Nat}

theorem digitsOf_eq_some : digitsOf digit? text = some digits ↔
    text ≠ [] ∧ text.map digit? = digits.map some := by
  rw [digitsOf, ← mapM_eq_some]
  by_cases blank : text = [] <;> simp [blank]

theorem digitsOf_length (read : digitsOf digit? text = some digits) :
    digits.length = text.length := by
  simpa using (congrArg List.length (digitsOf_eq_some.mp read).2).symm

theorem decimalDigit_digitChar :
    ∀ digit < 10, decimalDigit? (Nat.digitChar digit) = some digit := by
  decide

theorem hexDigit_digitChar : ∀ digit < 16, hexDigit? (Nat.digitChar digit) = some digit := by
  decide

theorem hexDigit_of_decimalDigit {c : Char} {digit : Nat} (read : decimalDigit? c = some digit) :
    hexDigit? c = some digit := by
  unfold decimalDigit? at read
  split at read
  · rename_i within
    rw [hexDigit?, if_pos within]
    exact read
  · cases read

theorem decimalDigit_strange {c : Char} (strange : hexDigit? c = none) :
    decimalDigit? c = none := by
  refine Option.eq_none_iff_forall_ne_some.mpr fun digit read => ?_
  cases strange.symm.trans (hexDigit_of_decimalDigit read)

theorem valueOf_concat (base : Nat) (digits : List Nat) (last : Nat) :
    valueOf base (digits ++ [last]) = valueOf base digits * base + last := by
  simp [valueOf]

theorem digitsOf_strange {c : Char} (present : c ∈ text) (strange : digit? c = none) :
    digitsOf digit? text = none := by
  cases read : digitsOf digit? text with
  | none => rfl
  | some digits =>
    have listed : digit? c ∈ digits.map some :=
      (digitsOf_eq_some.mp read).2 ▸ List.mem_map_of_mem present
    rw [strange] at listed
    simp at listed

-- The text is read as digits of the number.
def Spells (digit? : Char → Option Nat) (base : Nat) (text : List Char) (n : Nat) : Prop :=
  ∃ digits, digitsOf digit? text = some digits ∧ valueOf base digits = n

theorem Spells.someone (spells : Spells digit? base text n) : text ≠ [] := by
  obtain ⟨_, read, _⟩ := spells
  exact (digitsOf_eq_some.mp read).1

theorem Spells.lacks (spells : Spells digit? base text n) {c : Char} (strange : digit? c = none) :
    c ∉ text := by
  obtain ⟨digits, read, _⟩ := spells
  intro present
  rw [digitsOf_strange present strange] at read
  cases read

theorem spells_digit {c : Char} (read : digit? c = some n) : Spells digit? base [c] n :=
  ⟨[n], digitsOf_eq_some.mpr ⟨nofun, by simp [read]⟩, by simp [valueOf]⟩

theorem spells_concat {c : Char} {last : Nat} (earlier : Spells digit? base text n)
    (read : digit? c = some last) : Spells digit? base (text ++ [c]) (n * base + last) := by
  obtain ⟨digits, digitsRead, rfl⟩ := earlier
  refine ⟨digits ++ [last], digitsOf_eq_some.mpr ⟨by simp, ?_⟩, valueOf_concat base digits last⟩
  simp [(digitsOf_eq_some.mp digitsRead).2, read]

theorem toDigits_spells (large : 1 < base)
    (reads : ∀ digit < base, digit? (Nat.digitChar digit) = some digit) (n : Nat) :
    Spells digit? base (Nat.toDigits base n) n := by
  induction n using Nat.strongRecOn with
  | _ n ih =>
    by_cases small : n < base
    · rw [Nat.toDigits_of_lt_base small]
      exact spells_digit (reads n small)
    · have ends : n / base * base + n % base = n := Nat.div_add_mod' n base
      have shorter : n / base < n := Nat.div_lt_self (by omega) large
      rw [Nat.toDigits_of_base_le large (Nat.le_of_not_lt small)]
      have whole := spells_concat (ih (n / base) shorter) (reads _ (Nat.mod_lt n (by omega)))
      rwa [ends] at whole

theorem decimal_spells (n : Nat) : Spells decimalDigit? 10 (decimal n) n :=
  toDigits_spells (by decide) decimalDigit_digitChar n

theorem hex_spells (n : Nat) : Spells hexDigit? 16 (hex n) n :=
  toDigits_spells (by decide) hexDigit_digitChar n

theorem length_hexPadded (width n : Nat) : (hexPadded width n).length = width := by
  induction width generalizing n with
  | zero => rfl
  | succ width ih => simp [hexPadded, ih]

theorem hexPadded_spells {width : Nat} (positive : 0 < width) (small : n < capacity 16 width) :
    Spells hexDigit? 16 (hexPadded width n) n := by
  induction width generalizing n with
  | zero => cases positive
  | succ width ih =>
    cases width with
    | zero =>
      have digit : n < 16 := by simpa [capacity] using small
      have written : hexPadded 1 n = [Nat.digitChar n] := by
        simp [hexPadded, Nat.mod_eq_of_lt digit]
      rw [written]
      exact spells_digit (hexDigit_digitChar n digit)
    | succ width =>
      rw [capacity] at small
      have earlier := ih (Nat.succ_pos width) (Nat.div_lt_of_lt_mul small)
      have whole := spells_concat earlier (hexDigit_digitChar _ (Nat.mod_lt n (by decide)))
      rwa [Nat.div_add_mod'] at whole

theorem unsigned_of_spells {bound : Nat} (spells : Spells decimalDigit? 10 text n)
    (small : n < bound) : unsigned? bound text = some n := by
  have unsigned : '+' ∉ text := spells.lacks rfl
  obtain ⟨digits, read, rfl⟩ := spells
  have whole : (do
      let value := valueOf 10 (← digitsOf decimalDigit? text)
      if value < bound then some value else none) = some (valueOf 10 digits) := by
    simp [read, small]
  cases text with
  | nil => exact whole
  | cons c rest =>
    have sign : c ≠ '+' := fun same => unsigned (same ▸ List.mem_cons_self ..)
    simpa [unsigned?, sign] using whole

theorem unsigned_decimal {bound : Nat} (small : n < bound) :
    unsigned? bound (decimal n) = some n :=
  unsigned_of_spells (decimal_spells n) small

end ActorDirectory.Text
