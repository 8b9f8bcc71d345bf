import ActorDirectory.Address
import ActorDirectory.Proofs.Net.Literals

-- Network addresses and silos are read back from their texts, however zero groups are shortened.
namespace ActorDirectory
open Text

namespace Ipv4

theorem groups_ofGroups (high low : UInt16) : (ofGroups high low).groups = [high, low] := by
  have join : ∀ group : UInt16, UInt16.ofNat ((UInt8.ofNat (group.toNat / 256)).toNat * 256 +
      (UInt8.ofNat (group.toNat % 256)).toNat) = group := by
    intro group
    have small := group.toNat_lt
    have upper : (UInt8.ofNat (group.toNat / 256)).toNat = group.toNat / 256 :=
      UInt8.toNat_ofNat_of_lt' (by simp only [UInt8.size]; omega)
    have lower : (UInt8.ofNat (group.toNat % 256)).toNat = group.toNat % 256 :=
      UInt8.toNat_ofNat_of_lt' (by simp only [UInt8.size]; omega)
    rw [upper, lower, Nat.div_add_mod', UInt16.ofNat_toNat]
  simp only [groups, ofGroups, join]

end Ipv4

namespace Ipv6

variable {groups : List UInt16}

theorem group_hex (group : UInt16) : Group (hex group.toNat) group :=
  ⟨(spells_exact hexDigit_exact).mp (hex_spells group.toNat),
    (Nat.length_toDigits_le_iff (by decide) (by decide)).mpr group.toNat_lt⟩

theorem groups_render (dotted : Bool) (first : UInt16) (rest : List UInt16) :
    Groups dotted (renderGroups (first :: rest)) (first :: rest) := by
  induction rest generalizing first with
  | nil => exact .lone (group_hex first)
  | cons next rest ih =>
    have joins : renderGroups (first :: next :: rest) =
        hex first.toNat ++ ':' :: renderGroups (next :: rest) := List.append_assoc _ [':'] _
    rw [joins]
    exact .more (group_hex first) (ih next)

theorem side_render (dotted : Bool) (groups : List UInt16) :
    Side dotted (renderGroups groups) groups := by
  cases groups with
  | nil => exact .empty
  | cons first rest => exact .written (groups_render dotted first rest)

theorem zeros_between (groups : List UInt16) (start : Nat) :
    groups.take start ++ List.replicate (zerosFrom groups start) 0 ++
      groups.drop (start + zerosFrom groups start) = groups := by
  have run : List.replicate (zerosFrom groups start) 0 =
      (groups.drop start).take (zerosFrom groups start) := by
    rw [zerosFrom, ← List.prefix_iff_eq_take.mp (List.takeWhile_prefix _)]
    refine (List.eq_replicate_iff.mpr ⟨rfl, fun group present => ?_⟩).symm
    simpa using List.all_eq_true.mp List.all_takeWhile group present
  rw [run, ← List.drop_drop, List.append_assoc, List.take_append_drop, List.take_append_drop]

theorem longestZeros_run (groups : List UInt16) : (longestZeros groups).2 = 0 ∨
    (longestZeros groups).2 = zerosFrom groups (longestZeros groups).1 := by
  suffices ∀ (starts : List Nat) (best : Nat × Nat),
      best.2 = 0 ∨ best.2 = zerosFrom groups best.1 →
      let found := starts.foldl (fun best start =>
        if best.2 < zerosFrom groups start then (start, zerosFrom groups start) else best) best
      found.2 = 0 ∨ found.2 = zerosFrom groups found.1 from
    this (List.range groups.length) (0, 0) (.inl rfl)
  intro starts
  induction starts with
  | nil => exact fun best run => run
  | cons start rest ih =>
    intro best run
    refine ih _ ?_
    dsimp only
    split
    · exact .inr rfl
    · exact run

theorem side_mapped (ip : Ipv4) :
    Side true (['f', 'f', 'f', 'f'] ++ ':' :: ip.render) (0xffff :: ip.groups) := by
  have first : Group ['f', 'f', 'f', 'f'] 0xffff := group_exact.mp (by decide)
  exact .written (.more first (.octets ip rfl))

theorem literal_render (ip : Ipv6) : Literal ip.render ip.groups := by
  have eight := ip.length_groups
  rw [render]
  split
  · rename_i high low mapped
    have ends := side_mapped (.ofGroups high low)
    rw [Ipv4.groups_ofGroups] at ends
    rw [mapped]
    exact .shortened .empty ends (by decide : 0 < 5) rfl
  · dsimp only
    split
    · rename_i long
      have run := (longestZeros_run ip.groups).resolve_left (by omega)
      have whole := zeros_between ip.groups (longestZeros ip.groups).1
      rw [← run] at whole
      have lengths := congrArg List.length whole
      rw [List.length_append, List.length_append, List.length_replicate, eight] at lengths
      have literal := Literal.shortened (side_render false _) (side_render true _)
        (Nat.lt_of_succ_lt long) lengths
      rwa [whole] at literal
    · have someone : ip.groups ≠ [] := List.ne_nil_of_length_pos (by omega)
      obtain ⟨first, rest, written⟩ := List.exists_cons_of_ne_nil someone
      rw [written] at eight ⊢
      exact .whole (groups_render true first rest) eight

end Ipv6

namespace Ip

theorem literal_render (ip : Ip) : Literal ip.render ip := by
  cases ip with
  | v4 ip => exact rfl
  | v6 ip => exact ip.literal_render

end Ip

namespace Silo

theorem unsigned_render {bound n : Nat} (small : n < bound) : Unsigned bound (decimal n) n :=
  unsigned_exact.mp (unsigned_decimal small)

theorem literal_render (silo : Silo) : Literal silo.render silo := by
  have host := silo.ip.literal_render
  have port := unsigned_render silo.port.toNat_lt
  have generation := unsigned_render silo.generation.toNat_lt
  obtain ⟨ip, _, _⟩ := silo
  cases ip with
  | v4 ip => exact .plain host port generation
  | v6 ip =>
    have literal := Literal.bracketed host port generation
    simpa [render, renderHost, Ip.render] using literal

theorem parse_toText (silo : Silo) : parse? silo.toText = some silo :=
  parse_complete (by simpa [toText] using silo.literal_render)

theorem parse_exact {text : String} : parse text = .ok silo ↔ Literal text.toList silo := by
  unfold parse
  constructor
  · intro read
    split at read
    · rename_i found
      cases read
      exact parse_sound found
    · cases read
  · intro literal
    rw [parse_complete literal]

theorem parse_refused {text : String} {fault : ParseFault} :
    parse text = .error fault ↔ fault = .silo text ∧ ∀ silo, ¬Literal text.toList silo := by
  unfold parse
  constructor
  · intro refused
    split at refused
    · cases refused
    · rename_i missing
      cases refused
      refine ⟨rfl, fun silo literal => ?_⟩
      rw [parse_complete literal] at missing
      cases missing
  · intro refused
    obtain ⟨rfl, unwritten⟩ := refused
    split
    · rename_i silo found
      exact absurd (parse_sound found) (unwritten silo)
    · rfl

-- The texts of the grammar are read, and no others. What is written for a silo is one of them,
-- and can stand among commas.
theorem parses_its_grammar :
    (∀ text silo, parse text = .ok silo ↔ Literal text.toList silo) ∧
    (∀ text fault, parse text = .error fault ↔
      fault = .silo text ∧ ∀ silo, ¬Literal text.toList silo) ∧
    ∀ silo, parse (toText silo) = .ok silo ∧ ',' ∉ (toText silo).toList ∧
      ∀ other, toText other = silo.toText → other = silo := by
  refine ⟨fun _ _ => parse_exact, fun _ _ => parse_refused, fun silo => ⟨?_, ?_, ?_⟩⟩
  · exact parse_exact.mpr (parse_sound silo.parse_toText)
  · exact (parse_sound silo.parse_toText).lacks rfl (by decide)
  · intro other same
    have again := other.parse_toText
    rw [same, silo.parse_toText] at again
    exact (Option.some.inj again).symm

def loopback : Silo := ⟨.v6 ⟨[0, 0, 0, 0, 0, 0, 0, 1], rfl⟩, 80, 1⟩

theorem bare_loopback_parses : parse "::1:+080@01" = .ok loopback := by
  have host : Ipv6.Literal ([] ++ [':', ':'] ++ ['1']) ([] ++ List.replicate 7 0 ++ [1]) :=
    .shortened .empty (.written (.lone ⟨.lone (by decide), by decide⟩)) (by decide) rfl
  have zero : Digit 10 '0' 0 := by decide
  have one : Digit 10 '1' 1 := by decide
  have eight : Digit 10 '8' 8 := by decide
  have port : Numeral 10 ['0', '8', '0'] 80 := .more (.more (.lone zero) eight) zero
  have generation : Numeral 10 ['0', '1'] 1 := .more (.lone zero) one
  have literal : Literal ([':', ':', '1'] ++ ':' :: '+' :: ['0', '8', '0'] ++ '@' :: ['0', '1'])
      loopback :=
    .plain host ⟨by decide, _, port, .inr rfl⟩ ⟨by decide, _, generation, .inl rfl⟩
  exact (parses_its_grammar.1 _ _).mpr literal

end Silo
end ActorDirectory
