import ActorDirectory.Proofs.Text.Digits
import ActorDirectory.Version
import Mathlib.Data.List.Basic

-- Which texts are e-tags of a number. All others stand for the unknown version.
namespace ActorDirectory.Version
open Text

variable {text : List Char} {etag : String} {version : Version} {n : Nat}

inductive Quoted : List Char → Nat → Prop where
  | bare {text : List Char} {n : Nat} : Unsigned UInt64.size text n → Quoted text n
  | paired {text : List Char} {n : Nat} :
      Unsigned UInt64.size text n → Quoted ('"' :: text ++ ['"']) n

inductive Literal : List Char → Nat → Prop where
  | strong {text : List Char} {n : Nat} : Quoted text n → Literal text n
  | weak {text : List Char} {n : Nat} : Quoted text n → Literal ('W' :: '/' :: text) n

theorem withoutQuotes_paired (text : List Char) : withoutQuotes ('"' :: text ++ ['"']) = text := by
  simp [withoutQuotes]

theorem withoutQuotes_bare (unquoted : '"' ∉ text) : withoutQuotes text = text := by
  cases text with
  | nil => rfl
  | cons c rest =>
    rw [List.mem_cons, not_or] at unquoted
    simp [withoutQuotes, Ne.symm unquoted.1]

theorem withoutQuotes_takes (text : List Char) :
    withoutQuotes text = text ∨ text = '"' :: withoutQuotes text ++ ['"'] := by
  unfold withoutQuotes
  split
  · rename_i rest
    split
    · rename_i ends
      right
      rw [List.cons_append, List.dropLast_append_getLast? '"' ends]
    · left
      rfl
  · left
    rfl

theorem withoutMark_bare (unmarked : 'W' ∉ text) : withoutMark text = text := by
  cases text with
  | nil => rfl
  | cons c rest =>
    rw [List.mem_cons, not_or] at unmarked
    simp [withoutMark, Ne.symm unmarked.1]

theorem withoutMark_takes (text : List Char) :
    withoutMark text = text ∨ text = 'W' :: '/' :: withoutMark text := by
  unfold withoutMark
  split
  · right
    rfl
  · left
    rfl

theorem Quoted.lacks (quoted : Quoted text n) {c : Char} (strange : decimalDigit? c = none)
    (unsigned : c ≠ '+') (unquoted : c ≠ '"') : c ∉ text := by
  cases quoted with
  | bare number => exact number.lacks strange unsigned
  | paired number => simp [number.lacks strange unsigned, unquoted]

-- A number has no quote of its own, and below no mark, so what is taken off was put around it.
theorem quoted_exact :
    unsigned? UInt64.size (withoutQuotes text) = some n ↔ Quoted text n := by
  rw [unsigned_exact]
  constructor
  · intro number
    rcases withoutQuotes_takes text with same | paired
    · rw [same] at number
      exact .bare number
    · rw [paired]
      exact .paired number
  · intro quoted
    cases quoted with
    | bare number =>
      rw [withoutQuotes_bare (number.lacks rfl (by decide))]
      exact number
    | paired number =>
      rw [withoutQuotes_paired]
      exact number

theorem literal_exact :
    unsigned? UInt64.size (withoutQuotes (withoutMark text)) = some n ↔ Literal text n := by
  rw [quoted_exact]
  constructor
  · intro quoted
    rcases withoutMark_takes text with same | marked
    · rw [same] at quoted
      exact .strong quoted
    · rw [marked]
      exact .weak quoted
  · intro literal
    cases literal with
    | strong quoted =>
      rw [withoutMark_bare (quoted.lacks rfl (by decide) (by decide))]
      exact quoted
    | weak quoted => exact quoted

theorem Literal.lt_size (literal : Literal text n) : n < UInt64.size :=
  (unsigned_exact.mp (literal_exact.mpr literal)).1

theorem ofEtag_literal (literal : Literal etag.toList n) : ofEtag etag = ⟨UInt64.ofNat n⟩ := by
  rw [ofEtag, literal_exact.mpr literal]

theorem ofEtag_number (literal : Literal etag.toList n) : (ofEtag etag).number.toNat = n := by
  rw [ofEtag_literal literal]
  exact UInt64.toNat_ofNat_of_lt' literal.lt_size

theorem ofEtag_own (literal : Literal etag.toList version.number.toNat) :
    ofEtag etag = version := by
  rw [ofEtag_literal literal, UInt64.ofNat_toNat]

theorem ofEtag_strange (strange : ∀ n, ¬Literal etag.toList n) : ofEtag etag = unknown := by
  have unread : unsigned? UInt64.size (withoutQuotes (withoutMark etag.toList)) = none :=
    Option.eq_none_iff_forall_ne_some.mpr fun n read => strange n (literal_exact.mp read)
  rw [ofEtag, unread]

theorem unknown_iff : version = unknown ↔ version.number.toNat = 0 := by
  constructor
  · intro same
    rw [same]
    rfl
  · intro zero
    have number : version.number = 0 := UInt64.toNat_inj.mp zero
    cases version
    cases number
    rfl

-- Zero can be written as an e-tag too, but means that no version is known.
theorem ofEtag_exact : ofEtag etag = version ∧ version ≠ unknown ↔
    Literal etag.toList version.number.toNat ∧ 0 < version.number.toNat := by
  rw [Nat.pos_iff_ne_zero, Ne, unknown_iff]
  apply and_congr_left
  intro positive
  constructor
  · intro read
    by_cases written : ∃ n, Literal etag.toList n
    · obtain ⟨n, literal⟩ := written
      have same : version.number.toNat = n := by rw [← read, ofEtag_number literal]
      rwa [same]
    · have strange := ofEtag_strange (not_exists.mp written)
      exact absurd (unknown_iff.mp (read.symm.trans strange)) positive
  · exact ofEtag_own

theorem ofEtag_unknown_iff :
    ofEtag etag = unknown ↔ ¬∃ n, Literal etag.toList n ∧ 0 < n := by
  constructor
  · intro absent written
    obtain ⟨n, literal, positive⟩ := written
    rw [← ofEtag_number literal] at positive
    exact Nat.ne_of_gt positive (unknown_iff.mp absent)
  · intro unwritten
    by_contra known
    exact unwritten ⟨_, ofEtag_exact.mp ⟨rfl, known⟩⟩

example : ofEtag "W/\"+007\"" = ⟨7⟩ ∧ ofEtag "\"7" = unknown ∧ ofEtag "W/W/7" = unknown := by decide

theorem unsigned_number (version : Version) :
    Unsigned UInt64.size (decimal version.number.toNat) version.number.toNat :=
  unsigned_exact.mp (unsigned_decimal version.number.toNat_lt)

theorem ofEtag_toEtag (version : Version) : ofEtag version.toEtag = version := by
  unfold toEtag
  split
  · rename_i absent
    rw [absent]
    decide
  · apply ofEtag_own
    rw [String.toList_ofList]
    exact .strong (.bare version.unsigned_number)

end ActorDirectory.Version
