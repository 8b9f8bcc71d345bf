import ActorDirectory.Json.Forms
import ActorDirectory.Proofs.Text.Numerals

namespace ActorDirectory
open Text

namespace Json

inductive Plain : Json → Prop where
  | null : Plain .null
  | bool (value : Bool) : Plain (.bool value)
  | number (n : Nat) : Plain (.ofNat n)
  | text (value : String) : Plain (.ofText value)
  | array (items : List Json) : (∀ item ∈ items, Plain item) → Plain (.array items)
  | object (fields : List (String × Json)) : (∀ field ∈ fields, Plain field.2) →
      Plain (.ofFields fields)

theorem codeUnit_hexPadded {n : Nat} (small : n < 65536) :
    ∃ a b c d, hexPadded 4 n = [a, b, c, d] ∧ codeUnit? a b c d = some n := by
  refine ⟨_, _, _, _, rfl, ?_⟩
  simp only [codeUnit?, hexDigit_digitChar _ (Nat.mod_lt _ (by decide : 0 < 16)),
    Option.bind_eq_bind, Option.bind_some, Option.some.injEq, valueOf, List.foldl_cons,
    List.foldl_nil]
  omega

theorem characters_unit {unit : Nat} (leading : isLeading unit = false)
    (trailing : isTrailing unit = false) (more : List Piece) :
    characters? (.unit unit :: more) = (characters? more).map (Char.ofNat unit :: ·) := by
  cases more with
  | nil => simp [characters?, leading, trailing]
  | cons piece rest => cases piece <;> simp [characters?, leading, trailing]

theorem pieces_escape (c : Char) (rest : List Char) : ∃ piece,
    pieces? (escape c ++ rest) = (pieces? rest).map (fun read => (piece :: read.1, read.2)) ∧
      ∀ more, characters? (piece :: more) = (characters? more).map (c :: ·) := by
  have named : ∀ mark, mark ≠ 'u' → escaped? mark = some c → escape c = ['\\', mark] →
      ∃ piece, pieces? (escape c ++ rest) =
        (pieces? rest).map (fun read => (piece :: read.1, read.2)) ∧
          ∀ more, characters? (piece :: more) = (characters? more).map (c :: ·) := by
    intro mark other known written
    refine ⟨.plain c, ?_, fun more => rfl⟩
    rw [written]
    simp [pieces?, other, known]
  by_cases quote : c = '"'
  · subst quote; exact named '"' (by decide) rfl rfl
  by_cases backslash : c = '\\'
  · subst backslash; exact named '\\' (by decide) rfl rfl
  by_cases backspace : c = '\x08'
  · subst backspace; exact named 'b' (by decide) rfl rfl
  by_cases feed : c = '\x0c'
  · subst feed; exact named 'f' (by decide) rfl rfl
  by_cases line : c = '\n'
  · subst line; exact named 'n' (by decide) rfl rfl
  by_cases carriage : c = '\r'
  · subst carriage; exact named 'r' (by decide) rfl rfl
  by_cases tab : c = '\t'
  · subst tab; exact named 't' (by decide) rfl rfl
  by_cases control : c.toNat < 0x20
  · obtain ⟨p, q, r, s, padded, read⟩ := codeUnit_hexPadded (n := c.toNat) (by omega)
    have leading : isLeading c.toNat = false := by simp only [isLeading]; grind
    have trailing : isTrailing c.toNat = false := by simp only [isTrailing]; grind
    refine ⟨.unit c.toNat, ?_, fun more => ?_⟩
    · simp [escape, quote, backslash, backspace, feed, line, carriage, tab, control, padded,
        pieces?, read]
    · rw [characters_unit leading trailing, Char.ofNat_toNat]
  · refine ⟨.plain c, ?_, fun more => rfl⟩
    simp [escape, quote, backslash, backspace, feed, line, carriage, tab, control, pieces?]

theorem quoted_renderText (text : List Char) (rest : List Char) :
    quoted? (text.flatMap escape ++ '"' :: rest) = some (some (.ofList text), rest) := by
  suffices ∃ read, pieces? (text.flatMap escape ++ '"' :: rest) = some (read, rest) ∧
      characters? read = some text by
    obtain ⟨read, found, known⟩ := this
    simp [quoted?, found, known]
  induction text with
  | nil => exact ⟨[], rfl, rfl⟩
  | cons c more ih =>
    obtain ⟨later, found, known⟩ := ih
    obtain ⟨piece, taken, stands⟩ := pieces_escape c (more.flatMap escape ++ '"' :: rest)
    exact ⟨piece :: later, by simp [taken, found], by simp [stands, known]⟩

theorem skipBlank_cons {c : Char} (dark : isBlank c = false) (rest : List Char) :
    skipBlank (c :: rest) = c :: rest :=
  List.dropWhile_cons_of_neg (by simp [dark])

theorem isDigit_of_decimal {c : Char} {digit : Nat} (read : decimalDigit? c = some digit) :
    c.isDigit := by
  rw [decimalDigit?] at read
  split at read
  · rename_i within
    simpa [Char.isDigit, UInt32.le_iff_toNat_le, Char.le_def] using within
  · cases read

theorem decimal_digits {c : Char} {n : Nat} (present : c ∈ decimal n) : c.isDigit := by
  cases read : decimalDigit? c with
  | none => exact absurd present ((decimal_spells n).lacks read)
  | some digit => exact isDigit_of_decimal read

theorem decimal_begins (n : Nat) : ∃ c rest, decimal n = c :: rest ∧ c.isDigit := by
  obtain ⟨c, rest, written⟩ := List.exists_cons_of_ne_nil (decimal_spells n).someone
  exact ⟨c, rest, written, decimal_digits (n := n) (written ▸ List.mem_cons_self ..)⟩

theorem digit_dark {c : Char} (digit : c.isDigit) : isBlank c = false := by
  simp only [isBlank, decide_eq_false_iff_not]
  rintro (rfl | rfl | rfl | rfl) <;> cases digit

theorem decimal_leading {n : Nat} (positive : 0 < n) :
    ∃ c rest, decimal n = c :: rest ∧ c ≠ '0' := by
  have marks : ∀ digit < 10, 0 < digit → Nat.digitChar digit ≠ '0' := by decide
  induction n using Nat.strongRecOn with
  | _ n ih =>
    by_cases small : n < 10
    · exact ⟨_, [], Nat.toDigits_of_lt_base small, marks n small positive⟩
    · obtain ⟨c, rest, written, other⟩ := ih (n / 10) (by omega) (by omega)
      refine ⟨c, rest ++ [Nat.digitChar (n % 10)], ?_, other⟩
      rw [decimal, Nat.toDigits_of_base_le (by decide) (by omega)]
      rw [decimal] at written
      rw [written]
      rfl

-- What follows a value does not go on with it.
def Ends (rest : List Char) : Prop :=
  ∀ c ∈ rest.head?, c.isDigit = false ∧ c ≠ '.' ∧ c ≠ 'e' ∧ c ≠ 'E'

theorem digitRun_decimal (n : Nat) {rest : List Char} (ends : Ends rest) :
    digitRun (decimal n ++ rest) = (decimal n, rest) := by
  have all : ∀ c ∈ decimal n, c.isDigit := fun c present => decimal_digits present
  have stops : rest.takeWhile Char.isDigit = [] ∧ rest.dropWhile Char.isDigit = rest := by
    cases rest with
    | nil => exact ⟨rfl, rfl⟩
    | cons c more =>
      have other : c.isDigit = false := (ends c rfl).1
      simp [other]
  rw [digitRun, List.takeWhile_append_of_pos all, List.dropWhile_append_of_pos all, stops.1,
    stops.2, List.append_nil]

theorem whole_decimal (n : Nat) {rest : List Char} (ends : Ends rest) :
    whole? (decimal n ++ rest) = some (decimal n, rest) := by
  rw [whole?, digitRun_decimal n ends]
  by_cases zero : n = 0
  · subst zero
    rfl
  · obtain ⟨c, more, written, other⟩ := decimal_leading (Nat.pos_of_ne_zero zero)
    rw [written]
    simp [other]

theorem number_decimal (n : Nat) {rest : List Char} (ends : Ends rest) :
    number? (decimal n ++ rest) = some (.ofNat n, rest) := by
  have fraction : fraction? rest = some ([], rest) := by
    cases rest with
    | nil => rfl
    | cons c more => simp [fraction?, (ends c rfl).2.1]
  have exponent : exponent? rest = some ([], rest) := by
    cases rest with
    | nil => rfl
    | cons c more => simp [exponent?, (ends c rfl).2.2]
  have unsigned : ∀ more, decimal n ++ rest ≠ '-' :: more := by
    intro more same
    obtain ⟨c, tail, written, digit⟩ := decimal_begins n
    rw [written] at same
    rw [(List.cons.inj same).1] at digit
    cases digit
  rw [number?]
  · simp [whole_decimal n ends, fraction, exponent, Json.ofNat]
  · exact unsigned

variable {json : Json} {items : List Json} {fields : List (String × Json)}

-- The document is read with any fuel that is enough for its length.
def Reads (json : Json) : Prop :=
  ∀ fuel rest, json.render.length ≤ fuel → Ends rest →
    value? fuel (json.render ++ rest) = some (json, rest)

theorem plain_begins (plain : Plain json) : ∃ c rest, json.render = c :: rest ∧
    isBlank c = false ∧ c ≠ ']' := by
  cases plain with
  | null => exact ⟨'n', _, rfl, rfl, by decide⟩
  | bool value => cases value <;> exact ⟨_, _, rfl, rfl, by decide⟩
  | number n =>
    obtain ⟨c, rest, written, digit⟩ := decimal_begins n
    refine ⟨c, rest, by rw [Json.ofNat, render, written], digit_dark digit, ?_⟩
    rintro rfl
    cases digit
  | text value => exact ⟨'"', _, rfl, rfl, by decide⟩
  | array items => exact ⟨'[', _, rfl, rfl, by decide⟩
  | object fields => exact ⟨'\x7b', _, rfl, rfl, by decide⟩

theorem number_reads (n : Nat) : Reads (.ofNat n) := by
  intro fuel rest enough ends
  obtain ⟨c, more, written, digit⟩ := decimal_begins n
  have read := number_decimal n ends
  simp only [Json.ofNat, render] at enough read ⊢
  rw [written, List.cons_append] at read ⊢
  cases fuel with
  | zero => simp [written] at enough
  | succ fuel =>
    rw [value?, skipBlank_cons (digit_dark digit)]
    -- No other kind of value begins with a digit.
    split
    case h_7 => exact read
    all_goals
      rename_i same
      rw [(List.cons.inj same).1] at digit
      cases digit

theorem text_reads (value : String) : Reads (.ofText value) := by
  intro fuel rest enough _
  cases fuel with
  | zero => simp [Json.ofText, render, renderText] at enough
  | succ fuel =>
    have read := quoted_renderText value.toList rest
    simp only [Json.ofText, render, renderText, Option.getD_some, List.cons_append,
      List.append_assoc, List.nil_append]
    rw [value?, skipBlank_cons rfl]
    simp [read]

theorem ends_comma (rest : List Char) : Ends (',' :: rest) := by
  rintro c ⟨⟩
  decide

theorem ends_bracket (rest : List Char) : Ends (']' :: rest) := by
  rintro c ⟨⟩
  decide

theorem ends_brace (rest : List Char) : Ends ('\x7d' :: rest) := by
  rintro c ⟨⟩
  decide

theorem items_read (someone : items ≠ []) (reads : ∀ item ∈ items, Reads item) (fuel : Nat)
    (rest : List Char) (enough : (joined [','] (renderItems items)).length < fuel) :
    items? fuel (joined [','] (renderItems items) ++ ']' :: rest) = some (items, rest) := by
  induction items generalizing fuel with
  | nil => exact absurd rfl someone
  | cons item more ih =>
    have first := reads item (List.mem_cons_self ..)
    cases fuel with
    | zero => cases enough
    | succ fuel =>
      cases more with
      | nil =>
        simp only [renderItems, joined] at enough ⊢
        rw [items?, first fuel _ (by omega) (ends_bracket rest)]
        simp only [skipBlank_cons (c := ']') rfl]
      | cons next others =>
        have later := ih (List.cons_ne_nil _ _)
          (fun item present => reads item (List.mem_cons_of_mem _ present)) fuel
        simp only [renderItems, joined, List.length_append, List.length_cons, List.append_assoc,
          List.cons_append, List.nil_append] at enough later ⊢
        rw [items?, first fuel _ (by omega) (ends_comma _)]
        simp only [skipBlank_cons (c := ',') rfl, later (by omega), Option.map_some]

def named (fields : List (String × Json)) : List (Option String × Json) :=
  fields.map fun field => (some field.1, field.2)

theorem ofFields_named (fields : List (String × Json)) : ofFields fields = .object (named fields) :=
  rfl

theorem fields_read (someone : fields ≠ []) (reads : ∀ field ∈ fields, Reads field.2) (fuel : Nat)
    (rest : List Char) (enough : (joined [','] (renderFields (named fields))).length < fuel) :
    fields? fuel (joined [','] (renderFields (named fields)) ++ '\x7d' :: rest) =
      some (named fields, rest) := by
  induction fields generalizing fuel with
  | nil => exact absurd rfl someone
  | cons field more ih =>
    obtain ⟨name, value⟩ := field
    have first : Reads value := reads _ (List.mem_cons_self ..)
    cases fuel with
    | zero => cases enough
    | succ fuel =>
      cases more with
      | nil =>
        simp only [named, List.map_cons, List.map_nil, renderFields, joined, renderText,
          Option.getD_some, List.length_append, List.length_cons, List.append_assoc,
          List.cons_append, List.nil_append] at enough ⊢
        have title := quoted_renderText name.toList (':' :: (value.render ++ '\x7d' :: rest))
        rw [fields?, skipBlank_cons rfl]
        simp only [title, String.ofList_toList, skipBlank_cons (c := ':') rfl,
          first fuel _ (by omega) (ends_brace rest), skipBlank_cons (c := '\x7d') rfl]
      | cons next others =>
        have later := ih (List.cons_ne_nil _ _)
          (fun field present => reads field (List.mem_cons_of_mem _ present)) fuel
        simp only [named, List.map_cons, renderFields, joined, renderText, Option.getD_some,
          List.length_append, List.length_cons, List.append_assoc, List.cons_append,
          List.nil_append] at enough later ⊢
        rw [fields?, skipBlank_cons rfl]
        simp only [quoted_renderText, String.ofList_toList, skipBlank_cons (c := ':') rfl]
        rw [first fuel _ (by omega) (ends_comma _)]
        simp only [skipBlank_cons (c := ',') rfl, later (by omega), Option.map_some]

theorem array_reads (plain : ∀ item ∈ items, Plain item) (reads : ∀ item ∈ items, Reads item) :
    Reads (.array items) := by
  intro fuel rest enough _
  cases fuel with
  | zero => simp [render] at enough
  | succ fuel =>
    simp only [render, List.length_cons, List.length_append, List.cons_append,
      List.append_assoc, List.nil_append] at enough ⊢
    rw [value?, skipBlank_cons rfl]
    cases items with
    | nil => simp only [renderItems, joined, List.nil_append, skipBlank_cons (c := ']') rfl]
    | cons item more =>
      have begins : ∃ c tail, joined [','] (renderItems (item :: more)) = c :: tail ∧
          isBlank c = false ∧ c ≠ ']' := by
        obtain ⟨c, tail, written, dark, other⟩ := plain_begins (plain item (List.mem_cons_self ..))
        cases more <;> exact ⟨c, _, by simp [renderItems, joined, written]; rfl, dark, other⟩
      simp only [List.length_nil] at enough
      have read := items_read (List.cons_ne_nil item more) reads fuel rest (by omega)
      obtain ⟨c, tail, written, dark, other⟩ := begins
      rw [written, List.cons_append] at read ⊢
      simp only [skipBlank_cons dark]
      split
      · rename_i same
        exact absurd (List.cons.inj same).1 other
      · rw [read]
        rfl

theorem object_reads (reads : ∀ field ∈ fields, Reads field.2) : Reads (.ofFields fields) := by
  intro fuel rest enough _
  cases fuel with
  | zero => simp [ofFields_named, render] at enough
  | succ fuel =>
    simp only [ofFields_named, render, List.length_cons, List.length_append, List.cons_append,
      List.append_assoc, List.nil_append] at enough ⊢
    rw [value?, skipBlank_cons rfl]
    cases fields with
    | nil => simp only [named, List.map_nil, renderFields, joined, List.nil_append,
        skipBlank_cons (c := '\x7d') rfl]
    | cons field more =>
      have begins : ∃ tail, joined [','] (renderFields (named (field :: more))) = '"' :: tail := by
        cases more <;> exact ⟨_, rfl⟩
      simp only [List.length_nil] at enough
      have read := fields_read (List.cons_ne_nil field more) reads fuel rest (by omega)
      obtain ⟨tail, written⟩ := begins
      rw [written, List.cons_append] at read ⊢
      simp only [skipBlank_cons (c := '"') rfl]
      split
      · rename_i same
        cases same
      · rw [read]
        rfl

theorem plain_reads (plain : Plain json) : Reads json := by
  induction plain with
  | null =>
    intro fuel rest enough _
    cases fuel with
    | zero => simp [render] at enough
    | succ fuel => rfl
  | bool value =>
    intro fuel rest enough _
    cases fuel with
    | zero => cases value <;> simp [render] at enough
    | succ fuel => cases value <;> rfl
  | number n => exact number_reads n
  | text value => exact text_reads value
  | array items plain ih => exact array_reads plain ih
  | object fields _ ih => exact object_reads ih

theorem parse_toText (plain : Plain json) : parse? json.toText = some json := by
  have read := plain_reads plain (2 * json.render.length + 2) [] (by omega) nofun
  rw [List.append_nil] at read
  simp [parse?, toText, read, skipBlank]

end Json

namespace Record

theorem plain_toJson (record : Record) : record.toJson.Plain := by
  refine .object _ fun field present => ?_
  simp only [List.mem_cons, List.not_mem_nil, or_false] at present
  rcases present with rfl | rfl | rfl <;> exact .text _

theorem ofJsonText_toJsonText (record : Record) : ofJsonText? record.toJsonText = some record := by
  rw [ofJsonText?, toJsonText, Json.parse_toText record.plain_toJson]
  rfl

end Record
end ActorDirectory
