import ActorDirectory.Proofs.Text.Digits
import ActorDirectory.Proofs.Text.Separators
import ActorDirectory.Silo

-- What is read as a network address or as a silo, and that nothing else is.
namespace ActorDirectory
open Text

namespace Ipv4

variable {text : List Char} {ip : Ipv4} {octet : UInt8}

theorem octet_decimal (octet : UInt8) : octet? (decimal octet.toNat) = some octet := by
  have every : ∀ n < 256, octet? (decimal n) = some (UInt8.ofNat n) := by decide +kernel
  rw [every octet.toNat octet.toNat_lt, UInt8.ofNat_toNat]

theorem lacks_render (ip : Ipv4) {c : Char} (strange : decimalDigit? c = none) (other : c ≠ '.') :
    c ∉ ip.render := by
  intro present
  rcases mem_joined present with same | ⟨piece, listed, here⟩
  · exact other same
  · obtain ⟨octet, _, rfl⟩ := List.mem_map.mp listed
    exact (decimal_spells octet.toNat).lacks strange here

theorem mem_render (ip : Ipv4) : '.' ∈ ip.render := by
  simp [render, joined]

theorem pieces_render (ip : Ipv4) :
    pieces '.' ip.render = [ip.a, ip.b, ip.c, ip.d].map fun octet => decimal octet.toNat := by
  refine pieces_joined nofun fun piece listed => ?_
  obtain ⟨octet, _, rfl⟩ := List.mem_map.mp listed
  exact (decimal_spells octet.toNat).lacks rfl

theorem parse_render (ip : Ipv4) : parse? ip.render = some ip := by
  simp [parse?, pieces_render, octet_decimal]

theorem octet_exact : octet? text = some octet ↔ text = decimal octet.toNat := by
  constructor
  · intro read
    simp only [octet?, Option.bind_eq_bind, Option.bind_eq_some_iff] at read
    obtain ⟨digits, found, fits⟩ := read
    split at fits
    · rename_i bounds
      cases fits
      have numeral := (spells_exact decimalDigit_exact).mp ⟨digits, found, rfl⟩
      rw [UInt8.toNat_ofNat_of_lt' bounds.2.2]
      exact decimal_of_numeral numeral bounds.2.1
    · cases fits
  · intro written
    rw [written]
    exact octet_decimal octet

theorem parse_exact : parse? text = some ip ↔ text = ip.render := by
  constructor
  · intro read
    unfold parse? at read
    split at read
    · rename_i p q r s four
      simp only [Option.bind_eq_bind, Option.bind_eq_some_iff, octet_exact] at read
      obtain ⟨_, rfl, _, rfl, _, rfl, _, rfl, same⟩ := read
      cases same
      rw [← joined_pieces '.' text, four]
      rfl
    · cases read
  · intro written
    rw [written]
    exact ip.parse_render

end Ipv4

namespace Ipv6

variable {dotted : Bool} {text before after : List Char} {group : UInt16}
  {groups head tail : List UInt16} {ip : Ipv6}

def Group (text : List Char) (group : UInt16) : Prop :=
  Numeral 16 text group.toNat ∧ text.length ≤ 4

inductive Groups (dotted : Bool) : List Char → List UInt16 → Prop where
  | lone {text : List Char} {group : UInt16} : Group text group → Groups dotted text [group]
  | octets (ip : Ipv4) : dotted = true → Groups dotted ip.render ip.groups
  | more {text rest : List Char} {group : UInt16} {groups : List UInt16} :
      Group text group → Groups dotted rest groups →
      Groups dotted (text ++ ':' :: rest) (group :: groups)

inductive Side (dotted : Bool) : List Char → List UInt16 → Prop where
  | empty : Side dotted [] []
  | written {text : List Char} {groups : List UInt16} :
      Groups dotted text groups → Side dotted text groups

-- Eight groups, of which some that are zero may be left out at one double colon.
inductive Literal : List Char → List UInt16 → Prop where
  | whole {text : List Char} {groups : List UInt16} :
      Groups true text groups → groups.length = 8 → Literal text groups
  | shortened {before after : List Char} {head tail : List UInt16} {zeros : Nat} :
      Side false before head → Side true after tail → 0 < zeros →
      head.length + zeros + tail.length = 8 →
      Literal (before ++ [':', ':'] ++ after) (head ++ List.replicate zeros 0 ++ tail)

theorem group_exact : group? text = some group ↔ Group text group := by
  constructor
  · intro read
    simp only [group?, Option.bind_eq_bind, Option.bind_eq_some_iff] at read
    obtain ⟨digits, found, fits⟩ := read
    split at fits
    · rename_i short
      cases fits
      have numeral := (spells_exact hexDigit_exact).mp ⟨digits, found, rfl⟩
      have enough : ∀ length ≤ 4, capacity 16 length ≤ UInt16.size := by decide
      have small : valueOf 16 digits < UInt16.size :=
        Nat.lt_of_lt_of_le numeral.lt_capacity (enough _ short)
      refine ⟨?_, short⟩
      rw [UInt16.toNat_ofNat_of_lt' small]
      exact numeral
    · cases fits
  · intro written
    obtain ⟨numeral, short⟩ := written
    obtain ⟨digits, read, value⟩ := (spells_exact hexDigit_exact).mpr numeral
    simp [group?, read, short, value]

theorem Group.lacks (written : Group text group) {c : Char} (strange : hexDigit? c = none) :
    c ∉ text :=
  ((spells_exact hexDigit_exact).mpr written.1).lacks strange

theorem group_strange {text : List Char} {c : Char} (present : c ∈ text)
    (strange : hexDigit? c = none) : group? text = none := by
  rw [group?, digitsOf_strange present strange]
  rfl

theorem Groups.someone (written : Groups dotted text groups) : text ≠ [] := by
  cases written with
  | lone group => exact group.1.someone
  | octets ip => exact List.ne_nil_of_mem ip.mem_render
  | more => simp

theorem Groups.lacks (written : Groups dotted text groups) {c : Char}
    (strange : hexDigit? c = none) (other : c ≠ ':') (unpointed : c ≠ '.') : c ∉ text := by
  induction written with
  | lone group => exact group.lacks strange
  | octets ip => exact ip.lacks_render (decimalDigit_strange strange) unpointed
  | more group _ ih => simp [group.lacks strange, other, ih]

theorem Groups.clean (written : Groups dotted text groups) :
    ∀ piece ∈ pieces ':' text, ':' ∉ piece ∧ piece ≠ [] := by
  intro piece listed
  induction written with
  | lone group =>
    rw [pieces_lone (group.lacks rfl)] at listed
    cases List.mem_singleton.mp listed
    exact ⟨group.lacks rfl, group.1.someone⟩
  | octets ip =>
    have lone : ':' ∉ ip.render := ip.lacks_render rfl (by decide)
    rw [pieces_lone lone] at listed
    cases List.mem_singleton.mp listed
    exact ⟨lone, List.ne_nil_of_mem ip.mem_render⟩
  | more group _ ih =>
    rw [pieces_append (group.lacks rfl)] at listed
    rcases List.mem_cons.mp listed with rfl | later
    · exact ⟨group.lacks rfl, group.1.someone⟩
    · exact ih later

theorem groupsOf_sound {parts : List (List Char)} (someone : parts ≠ [])
    (read : groupsOf dotted parts = some groups) :
    Groups dotted (joined [':'] parts) groups := by
  induction parts generalizing groups with
  | nil => exact absurd rfl someone
  | cons piece more ih =>
    cases more with
    | nil =>
      unfold groupsOf at read
      split at read
      · rename_i group found
        cases read
        exact .lone (group_exact.mp found)
      · split at read
        · rename_i hasDot
          obtain ⟨ip, found, rfl⟩ := Option.map_eq_some_iff.mp read
          cases Ipv4.parse_exact.mp found
          exact .octets ip hasDot
        · cases read
    | cons next others =>
      simp only [groupsOf, Option.bind_eq_bind, Option.bind_eq_some_iff] at read
      obtain ⟨group, found, later, rest, same⟩ := read
      cases same
      have tail := ih (List.cons_ne_nil next others) rest
      have joins : joined [':'] (piece :: next :: others) =
          piece ++ ':' :: joined [':'] (next :: others) := List.append_assoc piece [':'] _
      rw [joins]
      exact .more (group_exact.mp found) tail

theorem groupsOf_exact :
    groupsOf dotted (pieces ':' text) = some groups ↔ Groups dotted text groups := by
  constructor
  · intro read
    have written := groupsOf_sound (pieces_ne_nil ':' text) read
    rwa [joined_pieces] at written
  · intro written
    induction written with
    | lone group =>
      rw [pieces_lone (group.lacks rfl), groupsOf, group_exact.mpr group]
    | octets ip hasDot =>
      have last : group? ip.render = none := group_strange ip.mem_render rfl
      rw [pieces_lone (ip.lacks_render rfl (by decide)), groupsOf, last, if_pos hasDot,
        ip.parse_render]
      rfl
    | @more text rest group groups first _ ih =>
      obtain ⟨next, others, found⟩ := List.exists_cons_of_ne_nil (pieces_ne_nil ':' rest)
      rw [pieces_append (first.lacks rfl)]
      rw [found] at ih ⊢
      simp [groupsOf, group_exact.mpr first, ih]

theorem side_exact : side dotted text = some groups ↔ Side dotted text groups := by
  unfold side
  split
  · rename_i nothing
    subst nothing
    constructor
    · intro same
      cases same
      exact .empty
    · intro written
      cases written with
      | empty => rfl
      | written groups => exact absurd rfl groups.someone
  · rename_i something
    rw [groupsOf_exact]
    constructor
    · exact .written
    · intro written
      cases written with
      | empty => exact absurd rfl something
      | written groups => exact groups

-- So the first double colon is the one where groups were left out.
theorem Side.cut (written : Side dotted before head) :
    cutMark [':', ':'] (before ++ [':', ':'] ++ after) = some (before, after) := by
  cases written with
  | empty => simp [cutMark]
  | written groups =>
    have marked : cutMark [':', ':'] ([':', ':'] ++ after) = some ([], after) := by
      simp [cutMark]
    have found := cutMark_joined groups.clean ([':', ':'] ++ after)
    rw [joined_pieces, marked, ← List.append_assoc] at found
    simpa using found

theorem ofGroups_exact : ofGroups? groups = some ip ↔ ip.groups = groups := by
  unfold ofGroups?
  split
  · exact ⟨fun same => Option.some.inj same ▸ rfl, fun same => by subst same; rfl⟩
  · rename_i other
    exact ⟨nofun, fun same => absurd (same ▸ ip.length_groups) other⟩

theorem parse_cut (ip : Ipv6) {text before after : List Char} {head tail : List UInt16}
    {zeros : Nat} (cut : cutMark [':', ':'] text = some (before, after)) (positive : 0 < zeros)
    (first : side false before = some head) (last : side true after = some tail)
    (whole : ip.groups = head ++ List.replicate zeros 0 ++ tail) : parse? text = some ip := by
  have eight : head.length + zeros + tail.length = 8 := by
    simpa [whole, Nat.add_assoc] using ip.length_groups
  have short : head.length + tail.length < 8 := by omega
  have missing : 8 - (head.length + tail.length) = zeros := by omega
  simp only [parse?, cut, first, last, Option.bind_eq_bind, Option.bind_some, if_pos short,
    missing, ← whole, ofGroups?, ip.length_groups, ↓reduceDIte]

theorem parse_exact : parse? text = some ip ↔ Literal text ip.groups := by
  constructor
  · intro read
    unfold parse? at read
    split at read
    · obtain ⟨groups, found, same⟩ := Option.bind_eq_some_iff.mp read
      cases ofGroups_exact.mp same
      exact .whole (groupsOf_exact.mp found) ip.length_groups
    · rename_i before after cut
      simp only [Option.bind_eq_bind, Option.bind_eq_some_iff] at read
      obtain ⟨head, first, tail, last, same⟩ := read
      split at same
      · rw [ofGroups_exact.mp same, cutMark_sound cut]
        exact .shortened (side_exact.mp first) (side_exact.mp last) (by omega) (by omega)
      · cases same
  · intro literal
    generalize same : ip.groups = groups at literal
    cases literal with
    | whole written eight =>
      have unmarked := cutMark_joined written.clean []
      rw [joined_pieces, List.append_nil] at unmarked
      have uncut : cutMark [':', ':'] text = none := unmarked
      simp [parse?, uncut, groupsOf_exact.mpr written, ofGroups_exact.mpr same]
    | shortened first last positive =>
      exact ip.parse_cut first.cut positive (side_exact.mpr first) (side_exact.mpr last) same

theorem Literal.lacks (literal : Literal text groups) {c : Char} (strange : hexDigit? c = none)
    (other : c ≠ ':') (unpointed : c ≠ '.') : c ∉ text := by
  have side : ∀ {dotted text groups}, Side dotted text groups → c ∉ text := by
    intro dotted text groups written
    cases written with
    | empty => exact List.not_mem_nil
    | written groups => exact groups.lacks strange other unpointed
  cases literal with
  | whole written => exact written.lacks strange other unpointed
  | shortened first last => simp [side first, side last, other]

theorem Literal.colon (literal : Literal text groups) : ':' ∈ text := by
  cases literal with
  | whole written eight =>
    cases written with
    | lone => cases eight
    | octets => cases eight
    | more => simp
  | shortened => simp

end Ipv6

namespace Ip

variable {text : List Char} {ip : Ip}

def Literal (text : List Char) : Ip → Prop
  | v4 ip => text = ip.render
  | v6 ip => Ipv6.Literal text ip.groups

theorem literal_lacks (literal : Literal text ip) {c : Char} (strange : hexDigit? c = none)
    (other : c ≠ ':') (unpointed : c ≠ '.') : c ∉ text := by
  cases ip with
  | v4 ip =>
    cases (literal : text = ip.render)
    exact ip.lacks_render (decimalDigit_strange strange) unpointed
  | v6 ip => exact Ipv6.Literal.lacks literal strange other unpointed

-- Only addresses of eight groups have colons, so no text is read in two ways.
theorem parse_exact : parse? text = some ip ↔ Literal text ip := by
  constructor
  · intro read
    unfold parse? at read
    split at read
    · rename_i found
      cases read
      exact Ipv4.parse_exact.mp found
    · obtain ⟨ip, found, rfl⟩ := Option.map_eq_some_iff.mp read
      exact Ipv6.parse_exact.mp found
  · intro literal
    unfold parse?
    cases ip with
    | v4 ip => rw [Ipv4.parse_exact.mpr literal]
    | v6 ip =>
      have other : Ipv4.parse? text = none := by
        refine Option.eq_none_iff_forall_ne_some.mpr fun four read => ?_
        cases Ipv4.parse_exact.mp read
        exact four.lacks_render rfl (by decide) (Ipv6.Literal.colon literal)
      rw [other, Ipv6.parse_exact.mpr literal]
      rfl

end Ip

namespace Silo

variable {text : List Char} {silo : Silo}

inductive Literal : List Char → Silo → Prop where
  | plain {host port generation : List Char} {silo : Silo} :
      Ip.Literal host silo.ip → Unsigned UInt16.size port silo.port.toNat →
      Unsigned UInt32.size generation silo.generation.toNat →
      Literal (host ++ ':' :: port ++ '@' :: generation) silo
  | bracketed {host port generation : List Char} {silo : Silo} :
      Ip.Literal host silo.ip → Unsigned UInt16.size port silo.port.toNat →
      Unsigned UInt32.size generation silo.generation.toNat →
      Literal ('[' :: host ++ [']', ':'] ++ port ++ '@' :: generation) silo

theorem assembled_exact {host port : List Char} {generation : Nat}
    (bounded : generation < UInt32.size) : (do
      let ip ← Ip.parse? host
      let port ← unsigned? UInt16.size port
      some (Silo.mk ip (UInt16.ofNat port) (UInt32.ofNat generation))) = some silo ↔
    Ip.Literal host silo.ip ∧ Unsigned UInt16.size port silo.port.toNat ∧
      generation = silo.generation.toNat := by
  simp only [Option.bind_eq_bind, Option.bind_eq_some_iff, unsigned_exact, Ip.parse_exact]
  constructor
  · intro made
    obtain ⟨ip, hostWritten, number, portWritten, same⟩ := made
    cases same
    dsimp only
    rw [UInt16.toNat_ofNat_of_lt' portWritten.1, UInt32.toNat_ofNat_of_lt' bounded]
    exact ⟨hostWritten, portWritten, rfl⟩
  · intro parts
    obtain ⟨hostWritten, portWritten, rfl⟩ := parts
    exact ⟨silo.ip, hostWritten, silo.port.toNat, portWritten, by simp⟩

theorem parse_sound {text : String} (read : parse? text = some silo) :
    Literal text.toList silo := by
  unfold parse? at read
  obtain ⟨⟨endpoint, generation⟩, ends, read⟩ := Option.bind_eq_some_iff.mp read
  obtain ⟨number, found, read⟩ := Option.bind_eq_some_iff.mp read
  have generationWritten := unsigned_exact.mp found
  rw [(cutLast_exact.mp ends).1]
  split at read
  · obtain ⟨⟨host, port⟩, cut, made⟩ := Option.bind_eq_some_iff.mp read
    obtain ⟨hostWritten, portWritten, rfl⟩ := (assembled_exact generationWritten.1).mp made
    rw [cutMark_sound cut]
    exact .bracketed hostWritten portWritten generationWritten
  · obtain ⟨⟨host, port⟩, cut, made⟩ := Option.bind_eq_some_iff.mp read
    obtain ⟨hostWritten, portWritten, rfl⟩ := (assembled_exact generationWritten.1).mp made
    rw [(cutLast_exact.mp cut).1]
    exact .plain hostWritten portWritten generationWritten

theorem parse_complete {text : String} (literal : Literal text.toList silo) :
    parse? text = some silo := by
  unfold parse?
  generalize text.toList = whole at literal
  cases literal with
  | @plain host port generation _ hostWritten portWritten generationWritten =>
    have ends : cutLast '@' (host ++ ':' :: port ++ '@' :: generation) =
        some (host ++ ':' :: port, generation) :=
      cutLast_exact.mpr ⟨rfl, generationWritten.lacks rfl (by decide)⟩
    have cut : cutLast ':' (host ++ ':' :: port) = some (host, port) :=
      cutLast_exact.mpr ⟨rfl, portWritten.lacks rfl (by decide)⟩
    have unopened : '[' ∉ host ++ ':' :: port := by
      simp [Ip.literal_lacks hostWritten (c := '[') rfl (by decide) (by decide),
        portWritten.lacks (c := '[') rfl (by decide)]
    simp only [ends, Option.bind_eq_bind, Option.bind_some, unsigned_exact.mpr generationWritten]
    split
    · rename_i rest opened
      exact absurd (opened ▸ List.mem_cons_self) unopened
    · rw [cut]
      exact (assembled_exact generationWritten.1).mpr ⟨hostWritten, portWritten, rfl⟩
  | @bracketed host port generation _ hostWritten portWritten generationWritten =>
    have ends : cutLast '@' ('[' :: host ++ [']', ':'] ++ port ++ '@' :: generation) =
        some ('[' :: (host ++ [']', ':'] ++ port), generation) :=
      cutLast_exact.mpr ⟨rfl, generationWritten.lacks rfl (by decide)⟩
    have cut : cutMark [']', ':'] (host ++ [']', ':'] ++ port) = some (host, port) :=
      cutMark_append (Ip.literal_lacks hostWritten rfl (by decide) (by decide))
    simp only [ends, Option.bind_eq_bind, Option.bind_some,
      unsigned_exact.mpr generationWritten, cut]
    exact (assembled_exact generationWritten.1).mpr ⟨hostWritten, portWritten, rfl⟩

theorem Literal.lacks (literal : Literal text silo) {c : Char} (strange : hexDigit? c = none)
    (other : c ∉ [':', '.', '+', '@', '[', ']']) : c ∉ text := by
  simp only [List.mem_cons, List.not_mem_nil, or_false, not_or] at other
  obtain ⟨colon, point, plus, sign, opened, closed⟩ := other
  have decimal : decimalDigit? c = none := decimalDigit_strange strange
  cases literal with
  | plain host port generation =>
    simp [Ip.literal_lacks host strange colon point, port.lacks decimal plus,
      generation.lacks decimal plus, colon, sign]
  | bracketed host port generation =>
    simp [Ip.literal_lacks host strange colon point, port.lacks decimal plus,
      generation.lacks decimal plus, colon, sign, opened, closed]

end Silo
end ActorDirectory
