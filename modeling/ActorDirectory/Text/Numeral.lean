namespace ActorDirectory.Text

def valueOf (base : Nat) (digits : List Nat) : Nat :=
  digits.foldl (fun total digit => total * base + digit) 0

def capacity (base : Nat) : Nat → Nat
  | 0 => 1
  | length + 1 => base * capacity base length

theorem foldl_digits (base total : Nat) (digits : List Nat) :
    digits.foldl (fun total digit => total * base + digit) total =
      total * capacity base digits.length + valueOf base digits := by
  induction digits generalizing total with
  | nil => simp [valueOf, capacity]
  | cons digit rest ih =>
    simp only [valueOf, List.foldl_cons, List.length_cons, Nat.zero_mul, Nat.zero_add]
    rw [ih, ih digit, Nat.add_mul, capacity, Nat.mul_assoc, Nat.add_assoc]

theorem valueOf_cons (base digit : Nat) (digits : List Nat) :
    valueOf base (digit :: digits) = digit * capacity base digits.length + valueOf base digits := by
  simp [valueOf, foldl_digits base digit digits]

theorem valueOf_lt {base : Nat} {digits : List Nat} (small : ∀ digit ∈ digits, digit < base) :
    valueOf base digits < capacity base digits.length := by
  induction digits with
  | nil => simp [valueOf, capacity]
  | cons digit rest ih =>
    have below := ih fun d present => small d (List.mem_cons_of_mem _ present)
    have first : digit + 1 ≤ base := small digit (List.mem_cons_self ..)
    rw [valueOf_cons, List.length_cons, capacity]
    calc digit * capacity base rest.length + valueOf base rest
        < digit * capacity base rest.length + capacity base rest.length := Nat.add_lt_add_left below _
      _ = (digit + 1) * capacity base rest.length := by rw [Nat.add_mul, Nat.one_mul]
      _ ≤ base * capacity base rest.length := Nat.mul_le_mul_right _ first

theorem valueOf_injective {base : Nat} {digits others : List Nat}
    (small : ∀ digit ∈ digits, digit < base) (smallOthers : ∀ digit ∈ others, digit < base)
    (length : digits.length = others.length) (same : valueOf base digits = valueOf base others) :
    digits = others := by
  induction digits generalizing others with
  | nil => exact (List.length_eq_zero_iff.mp length.symm).symm
  | cons digit rest ih =>
    cases others with
    | nil => simp at length
    | cons other more =>
      have lengths : rest.length = more.length := Nat.succ.inj length
      have tails := fun d present => small d (List.mem_cons_of_mem digit present)
      have tailsOther := fun d present => smallOthers d (List.mem_cons_of_mem other present)
      have below := valueOf_lt tails
      have belowOther := valueOf_lt tailsOther
      rw [valueOf_cons, valueOf_cons, lengths] at same
      rw [lengths] at below
      have first : digit = other := by
        have quotients := congrArg (· / capacity base more.length) same
        simpa only [Nat.mul_comm _ (capacity base more.length),
          Nat.mul_add_div (Nat.zero_lt_of_lt below), Nat.div_eq_of_lt below,
          Nat.div_eq_of_lt belowOther, Nat.add_zero] using quotients
      subst first
      rw [ih tails tailsOther lengths (Nat.add_left_cancel same)]

def decimalDigit? (c : Char) : Option Nat :=
  if '0' ≤ c ∧ c ≤ '9' then some (c.toNat - '0'.toNat) else none

def hexDigit? (c : Char) : Option Nat :=
  if '0' ≤ c ∧ c ≤ '9' then some (c.toNat - '0'.toNat)
  else if 'a' ≤ c ∧ c ≤ 'f' then some (c.toNat - 'a'.toNat + 10)
  else if 'A' ≤ c ∧ c ≤ 'F' then some (c.toNat - 'A'.toNat + 10)
  else none

def digitsOf (digit? : Char → Option Nat) (text : List Char) : Option (List Nat) :=
  if text = [] then none else text.mapM digit?

def decimal (n : Nat) : List Char := Nat.toDigits 10 n

def hex (n : Nat) : List Char := Nat.toDigits 16 n

def hexPadded : Nat → Nat → List Char
  | 0, _ => []
  | width + 1, n => hexPadded width (n / 16) ++ [Nat.digitChar (n % 16)]

def hexUpper (n : Nat) : Char := (Nat.digitChar n).toUpper

-- An unsigned number below `bound`: one optional plus sign, then decimal digits,
-- leading zeros allowed.
def unsigned? (bound : Nat) (text : List Char) : Option Nat := do
  let digits ← digitsOf decimalDigit? (match text with | '+' :: rest => rest | _ => text)
  let value := valueOf 10 digits
  if value < bound then some value else none

end ActorDirectory.Text
