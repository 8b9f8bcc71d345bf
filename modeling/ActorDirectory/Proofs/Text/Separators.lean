import ActorDirectory.Text.Split

namespace ActorDirectory.Text

variable {separator : Char} {text before after piece : List Char} {parts : List (List Char)}

theorem cutLast_none : cutLast separator text = none ↔ separator ∉ text := by
  induction text with
  | nil => simp [cutLast]
  | cons c rest ih =>
    cases found : cutLast separator rest with
    | none =>
      have absent := ih.mp found
      by_cases here : c = separator
      · simp [cutLast, found, here]
      · simp [cutLast, found, here, absent, Ne.symm here]
    | some parts =>
      have present : separator ∈ rest := Classical.not_not.mp fun absent =>
        Option.some_ne_none parts (found.symm.trans (ih.mpr absent))
      simp [cutLast, found, present]

theorem cutLast_exact : cutLast separator text = some (before, after) ↔
    text = before ++ separator :: after ∧ separator ∉ after := by
  induction text generalizing before with
  | nil => simp [cutLast]
  | cons c rest ih =>
    cases found : cutLast separator rest with
    | none =>
      have absent := cutLast_none.mp found
      cases before with
      | nil =>
        by_cases here : c = separator
        · simp only [cutLast, found, here]
          grind
        · simp [cutLast, found, here]
      | cons b more =>
        have later : rest ≠ more ++ separator :: after := fun whole => absent (by simp [whole])
        by_cases here : c = separator <;> simp [cutLast, found, here, later]
    | some parts =>
      have present : separator ∈ rest := Classical.not_not.mp fun absent =>
        Option.some_ne_none parts (found.symm.trans (cutLast_none.mpr absent))
      cases before with
      | nil =>
        have other : ¬(rest = after ∧ separator ∉ after) := fun both => both.2 (both.1 ▸ present)
        simp only [cutLast, found, Option.some.injEq, Prod.mk.injEq, List.cons_ne_nil, false_and,
          List.nil_append, List.cons.injEq, false_iff]
        exact fun both => other ⟨both.1.2, both.2⟩
      | cons b more =>
        have later := @ih more
        rw [found, Option.some.injEq] at later
        simp only [cutLast, found, Option.some.injEq, Prod.mk.injEq, List.cons.injEq,
          List.cons_append, and_assoc]
        rw [← later, Prod.ext_iff]

theorem cutMark_sound {mark : List Char} (found : cutMark mark text = some (before, after)) :
    text = before ++ mark ++ after := by
  induction text generalizing before with
  | nil =>
    unfold cutMark at found
    split at found
    · rename_i nothing
      cases found
      rw [nothing]
      rfl
    · cases found
  | cons c rest ih =>
    unfold cutMark at found
    split at found
    · rename_i marked
      cases found
      exact List.prefix_iff_eq_append.mp (List.isPrefixOf_iff_prefix.mp marked) |>.symm
    · obtain ⟨parts, later, same⟩ := Option.map_eq_some_iff.mp found
      cases same
      rw [ih later]
      rfl

theorem cutMark_append {mark : List Char} (absent : separator ∉ before) :
    cutMark (separator :: mark) (before ++ separator :: mark ++ after) = some (before, after) := by
  induction before with
  | nil =>
    cases mark with
    | nil => simp [cutMark]
    | cons m more => simp [cutMark]
  | cons b rest ih =>
    rw [List.mem_cons, not_or] at absent
    rw [List.cons_append, List.cons_append, cutMark, if_neg (by simp [absent.1])]
    rw [ih absent.2]
    rfl

theorem cutMark_lacking {mark : List Char} (absent : separator ∉ piece) (rest : List Char) :
    cutMark (separator :: mark) (piece ++ rest) =
      (cutMark (separator :: mark) rest).map fun parts => (piece ++ parts.1, parts.2) := by
  induction piece with
  | nil => simp
  | cons c more ih =>
    rw [List.mem_cons, not_or] at absent
    rw [List.cons_append, cutMark, if_neg (by simp [absent.1]), ih absent.2]
    cases cutMark (separator :: mark) rest <;> rfl

theorem cutMark_joined (clean : ∀ piece ∈ parts, separator ∉ piece ∧ piece ≠ [])
    (rest : List Char) :
    cutMark [separator, separator] (joined [separator] parts ++ rest) =
      (cutMark [separator, separator] rest).map fun cut =>
        (joined [separator] parts ++ cut.1, cut.2) := by
  induction parts with
  | nil => simp [joined]
  | cons piece more ih =>
    obtain ⟨lone, _⟩ := clean piece (List.mem_cons_self ..)
    have later := ih fun piece present => clean piece (List.mem_cons_of_mem _ present)
    cases more with
    | nil => exact cutMark_lacking lone rest
    | cons next others =>
      obtain ⟨lacks, someone⟩ := clean next (List.mem_cons_of_mem _ (List.mem_cons_self ..))
      obtain ⟨first, tail, written⟩ := List.exists_cons_of_ne_nil someone
      have other : separator ≠ first := fun same => lacks (by simp [written, same])
      have begins : ∃ tail, joined [separator] (next :: others) = first :: tail := by
        cases others <;> simp [joined, written]
      obtain ⟨tail, begins⟩ := begins
      simp only [joined, List.append_assoc, List.cons_append, List.nil_append]
      rw [cutMark_lacking lone, cutMark, if_neg (by simp [begins, other]), later]
      cases cutMark [separator, separator] rest <;> simp

theorem pieces_lone (absent : separator ∉ piece) : pieces separator piece = [piece] := by
  induction piece with
  | nil => rfl
  | cons c rest ih =>
    rw [List.mem_cons, not_or] at absent
    simp [pieces, Ne.symm absent.1, ih absent.2]

theorem pieces_append (absent : separator ∉ piece) (rest : List Char) :
    pieces separator (piece ++ separator :: rest) = piece :: pieces separator rest := by
  induction piece with
  | nil => simp [pieces]
  | cons c more ih =>
    rw [List.mem_cons, not_or] at absent
    simp [pieces, Ne.symm absent.1, ih absent.2]

theorem pieces_joined (someone : parts ≠ []) (clean : ∀ piece ∈ parts, separator ∉ piece) :
    pieces separator (joined [separator] parts) = parts := by
  induction parts with
  | nil => exact absurd rfl someone
  | cons piece more ih =>
    have lone := clean piece (List.mem_cons_self ..)
    cases more with
    | nil => exact pieces_lone lone
    | cons next others =>
      have later := ih nofun fun piece present => clean piece (List.mem_cons_of_mem _ present)
      simp only [joined, List.append_assoc, List.singleton_append]
      rw [pieces_append lone, later]

theorem mem_joined {c : Char} (present : c ∈ joined [separator] parts) :
    c = separator ∨ ∃ piece ∈ parts, c ∈ piece := by
  induction parts with
  | nil => cases present
  | cons piece more ih =>
    cases more with
    | nil => exact .inr ⟨piece, List.mem_cons_self .., present⟩
    | cons next others =>
      simp only [joined, List.append_assoc, List.singleton_append, List.mem_append,
        List.mem_cons] at present
      rcases present with here | rfl | later
      · exact .inr ⟨piece, List.mem_cons_self .., here⟩
      · exact .inl rfl
      · rcases ih later with same | ⟨other, listed, there⟩
        · exact .inl same
        · exact .inr ⟨other, List.mem_cons_of_mem _ listed, there⟩

end ActorDirectory.Text
