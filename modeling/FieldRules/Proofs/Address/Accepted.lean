import FieldRules.Proofs.Address.Forms

/-!
# The addresses that are accepted

Without arguments the rule `ip` accepts dotted quads and nothing else, and it accepts them whatever
its arguments are (`Rules.ip_iff_isDottedQuad`).  Among the texts of hexadecimal digits and colons
it accepts, with IPv6 addresses switched on, eight groups, and two rows of groups with two colons
between them and no more than seven groups in all (`Rules.ip_iff_of_hexDigits`).  All that it
accepts are addresses, but for `fe80:` with a zone and no group between
(`Rules.ip_imp_isAddress_iff`).
-/

set_option autoImplicit false

namespace FieldRules

namespace Address

open Pattern (TextRegex CharSet Regex)

/-! ## Well-formed addresses -/

/-- Whether a text is a row of groups that takes the place of `n` groups, a dotted quad at its end
taking the place of two. -/
inductive IsRow : Nat → List Char → Prop where
  | groups {gs : List (List Char)} (hgs : ∀ g ∈ gs, IsGroup g) : IsRow gs.length (joined gs)
  | endingInQuad {gs : List (List Char)} {quad : List Char} (hgs : ∀ g ∈ gs, IsGroup g)
    (hquad : IsDottedQuad quad) : IsRow (gs.length + 2) (joined (gs ++ [quad]))

/-- Whether a text is an IPv6 address without a zone: a row that takes the place of eight groups, or
two rows with two colons for one or more groups that are left out between them. -/
inductive IsVersion6 : List Char → Prop where
  | full {w : List Char} (h : IsRow 8 w) : IsVersion6 w
  | compressed {front : List (List Char)} {n : Nat} {w : List Char}
    (hfront : ∀ g ∈ front, IsGroup g) (hback : IsRow n w) (hlength : front.length + n ≤ 7) :
    IsVersion6 (joined front ++ ':' :: ':' :: w)

/-- Whether a text is an address: an IPv4 address, or an IPv6 address that a zone may follow. -/
inductive IsAddress : List Char → Prop where
  | version4 {w : List Char} (h : IsDottedQuad w) : IsAddress w
  | version6 {w : List Char} (h : IsVersion6 w) : IsAddress w
  | zoned {w scope : List Char} (h : IsVersion6 w) (hscope : IsZone scope) :
    IsAddress (w ++ '%' :: scope)

/-! ## The forms are addresses -/

/-- The group of a mapping is written with hexadecimal digits. -/
theorem isGroup_ffff : IsGroup "ffff".toList := by
  decide

/-- The head of a link-local address is written with hexadecimal digits. -/
theorem isGroup_fe80 : IsGroup "fe80".toList := by
  decide

/-- A mapping is made of groups. -/
theorem IsMapping.isGroup {back : List (List Char)} (h : IsMapping back) :
    ∀ g ∈ back, IsGroup g := by
  cases h with
  | compatible => simp
  | mapped => exact List.forall_mem_singleton.2 isGroup_ffff
  | @translated zeros hlength hzeros =>
    have hgroup : IsGroup zeros := by
      refine ⟨hlength.1, hlength.2, ?_⟩
      intro c hc
      rw [hzeros c hc]
      decide
    exact List.forall_mem_cons.2 ⟨isGroup_ffff, List.forall_mem_singleton.2 hgroup⟩

/-- A mapping has two groups at most. -/
theorem IsMapping.length_le {back : List (List Char)} (h : IsMapping back) : back.length ≤ 2 := by
  cases h with
  | compatible => exact Nat.zero_le 2
  | mapped => exact Nat.le_succ 1
  | translated hlength hzeros => exact le_rfl

/-- Two colons, a mapping and a dotted quad are an IPv6 address. -/
theorem IsMapped.isVersion6 {w : List Char} (h : IsMapped w) : IsVersion6 w := by
  obtain ⟨back, quad, hback, hquad, rfl⟩ := h
  have hlength := hback.length_le
  have hrow := IsRow.endingInQuad hback.isGroup hquad
  have hcompressed : IsVersion6 (joined [] ++ ':' :: ':' :: joined (back ++ [quad])) :=
    .compressed (by simp) hrow (by rw [List.length_nil]; omega)
  exact hcompressed

/-- One to four groups, two colons and a dotted quad are an IPv6 address. -/
theorem IsEmbedded.isVersion6 {w : List Char} (h : IsEmbedded w) : IsVersion6 w := by
  obtain ⟨front, quad, hlength, hfront, hquad, rfl⟩ := h
  have hnone : ∀ g ∈ ([] : List (List Char)), IsGroup g := by simp
  have hrow : IsRow 2 (joined [quad]) := .endingInQuad hnone hquad
  rw [joined_cons, List.flatMap_nil, List.append_nil] at hrow
  exact .compressed hfront hrow (by omega)

/-- The words of an IPv6 address are addresses, or `fe80:` and a zone. -/
theorem isAddress_of_hasWord_ipv6 {w : List Char} (h : TextRegex.HasWord ipv6 w) :
    IsAddress w ∨ ∃ scope, IsZone scope ∧ w = "fe80:%".toList ++ scope := by
  rcases (hasWord_ipv6 w).1 h with (hfull | hcompressed) | hlinkLocal | hmapped | hembedded
  · obtain ⟨gs, hlength, hgs, rfl⟩ := hfull
    have hrow := IsRow.groups hgs
    rw [hlength] at hrow
    exact Or.inl (.version6 (.full hrow))
  · obtain ⟨front, back, hlength, hfront, hback, rfl⟩ := hcompressed
    exact Or.inl (.version6 (.compressed hfront (.groups hback) hlength))
  · obtain ⟨gs, scope, hlength, hgs, hscope, rfl⟩ := hlinkLocal
    by_cases hne : gs = []
    · subst hne
      exact Or.inr ⟨scope, hscope, by simp⟩
    · have hversion6 : IsVersion6 (joined ["fe80".toList] ++ ':' :: ':' :: joined gs) := by
        refine .compressed (List.forall_mem_singleton.2 isGroup_fe80) (.groups hgs) ?_
        rw [List.length_singleton]
        omega
      rw [flatMap_cons_colon hne]
      exact Or.inl (.zoned hversion6 hscope)
  · exact Or.inl (.version6 hmapped.isVersion6)
  · exact Or.inl (.version6 hembedded.isVersion6)

/-! ## What is no address -/

/-- The characters of an octet are digits. -/
theorem IsOctet.isDigit {w : List Char} (h : IsOctet w) {c : Char} (hc : c ∈ w) :
    c.isDigit = true := by
  obtain ⟨n, -, rfl⟩ := h
  have hnumeral := Text.isNumeral_numeral n
  rw [Text.isNumeral, Bool.and_eq_true, List.all_eq_true] at hnumeral
  exact hnumeral.2 c hc

/-- A digit is a hexadecimal digit. -/
theorem isHexDigit_of_isDigit {c : Char} (h : c.isDigit = true) : IsHexDigit c := by
  rw [Char.isDigit, Bool.and_eq_true, decide_eq_true_eq, decide_eq_true_eq] at h
  exact Or.inl h

/-- The characters of a dotted quad are digits and points. -/
theorem IsDottedQuad.mem {w : List Char} (h : IsDottedQuad w) {c : Char} (hc : c ∈ w) :
    IsHexDigit c ∨ c = '.' := by
  obtain ⟨w₁, w₂, w₃, w₄, ⟨h₁, h₂, h₃, h₄⟩, rfl⟩ := h
  have hoctet {w : List Char} (h : IsOctet w) (hc : c ∈ w) : IsHexDigit c ∨ c = '.' :=
    Or.inl (isHexDigit_of_isDigit (h.isDigit hc))
  simp only [List.append_assoc, List.mem_append, List.mem_cons] at hc
  rcases hc with hc | (hc | hc) | (hc | hc) | hc | hc
  · exact hoctet h₁ hc
  · exact Or.inr hc
  · exact hoctet h₂ hc
  · exact Or.inr hc
  · exact hoctet h₃ hc
  · exact Or.inr hc
  · exact hoctet h₄ hc

/-- The characters of a row of groups. -/
theorem mem_joined_of_isGroup {gs : List (List Char)} (hgs : ∀ g ∈ gs, IsGroup g) {c : Char}
    (hc : c ∈ joined gs) : IsHexDigit c ∨ c = ':' ∨ c = '.' := by
  rcases mem_joined hc with hcolon | ⟨g, hg, hc⟩
  · exact Or.inr (Or.inl hcolon)
  · exact Or.inl ((hgs g hg).isHexDigit c hc)

/-- The characters of a row that may end in a dotted quad. -/
theorem IsRow.mem {n : Nat} {w : List Char} (h : IsRow n w) {c : Char} (hc : c ∈ w) :
    IsHexDigit c ∨ c = ':' ∨ c = '.' := by
  cases h with
  | groups hgs => exact mem_joined_of_isGroup hgs hc
  | endingInQuad hgs hquad =>
    rcases mem_joined hc with hcolon | ⟨g, hg, hc⟩
    · exact Or.inr (Or.inl hcolon)
    · rcases List.mem_append.1 hg with hg | hg
      · exact Or.inl ((hgs g hg).isHexDigit c hc)
      · rw [List.mem_singleton.1 hg] at hc
        exact (hquad.mem hc).imp id Or.inr

/-- The characters of an IPv6 address without a zone. -/
theorem IsVersion6.mem {w : List Char} (h : IsVersion6 w) {c : Char} (hc : c ∈ w) :
    IsHexDigit c ∨ c = ':' ∨ c = '.' := by
  cases h with
  | full hrow => exact hrow.mem hc
  | compressed hfront hback hlength =>
    simp only [List.mem_append, List.mem_cons] at hc
    rcases hc with hc | hcolon | hcolon | hc
    · exact mem_joined_of_isGroup hfront hc
    · exact Or.inr (Or.inl hcolon)
    · exact Or.inr (Or.inl hcolon)
    · exact hback.mem hc

/-- A row has enough colons for the groups that it takes the place of. -/
theorem IsRow.le_count {n : Nat} {w : List Char} (h : IsRow n w) : n ≤ w.count ':' + 2 := by
  cases h with
  | @groups gs hgs =>
    have hcount := length_le_count_joined gs
    omega
  | @endingInQuad gs quad hgs hquad =>
    have hcount := length_le_count_joined (gs ++ [quad])
    rw [List.length_append, List.length_singleton] at hcount
    omega

/-- An IPv6 address has two colons at least. -/
theorem IsVersion6.two_le_count {w : List Char} (h : IsVersion6 w) : 2 ≤ w.count ':' := by
  cases h with
  | full hrow =>
    have hcount := hrow.le_count
    omega
  | compressed hfront hback hlength =>
    rw [List.count_append, List.count_cons_self, List.count_cons_self]
    omega

/-- No zone makes `fe80:` an address. -/
theorem not_isAddress_fe80 {scope : List Char} (hscope : IsZone scope) :
    ¬IsAddress ("fe80:%".toList ++ scope) := by
  have hsplit : "fe80:%".toList ++ scope = "fe80:".toList ++ '%' :: scope := by simp
  have hpercent : ¬(IsHexDigit '%' ∨ '%' = ':' ∨ '%' = '.') := by decide
  have hmem : '%' ∈ "fe80:".toList ++ '%' :: scope := by simp
  rw [hsplit]
  intro h
  generalize hw : "fe80:".toList ++ '%' :: scope = w at h hmem
  cases h with
  | version4 hquad => exact hpercent ((hquad.mem hmem).imp id Or.inr)
  | version6 hversion6 => exact hpercent (hversion6.mem hmem)
  | @zoned front scope' hversion6 hscope' =>
    -- The percent sign is the only one, so the zone begins there and `fe80:` stands before it.
    have hnotMem : '%' ∉ scope := by
      intro hc
      have halphanum := hscope.2 '%' hc
      exact absurd halphanum (by decide)
    have hfront := (List.append_cons_inj_of_notMem (by decide) hnotMem).1 hw
    rw [← hfront.1] at hversion6
    exact absurd hversion6.two_le_count (by decide)

end Address

namespace Rules

open Address
open Pattern (TextRegex)

/-! ## The rule -/

/-- What the rule accepts, with IPv6 addresses switched on or not. -/
theorem ip_eq_pass_iff (s : String) (args : Args) :
    ip (some (.string s)) args = .pass ↔ IsDottedQuad s.toList ∨
      (args.getSet? "ipv6").any Json.truthy = true ∧ TextRegex.HasWord ipv6 s.toList := by
  rw [ip_string, Outcome.ofBool_eq_pass_iff, Bool.or_eq_true, Bool.and_eq_true,
    TextRegex.accepts_iff_hasWord (by rfl), TextRegex.accepts_iff_hasWord (by rfl), hasWord_ipv4]

/-- The rule always tells. -/
theorem ip_eq_fail_iff (s : String) (args : Args) :
    ip (some (.string s)) args = .fail ↔ ip (some (.string s)) args ≠ .pass := by
  rw [ip_string, Outcome.ofBool_eq_fail_iff, ne_eq, Outcome.ofBool_eq_pass_iff, Bool.not_eq_true]

/-- **The IPv4 addresses.**  Without arguments a text passes if it is the decimals of four numbers
from 0 to 255, without leading zeros and with points between them, and else it fails.  The texts
that pass whatever the arguments are are the same. -/
theorem ip_iff_isDottedQuad (s : String) :
    (ip (some (.string s)) .empty = .pass ↔ IsDottedQuad s.toList) ∧
      (ip (some (.string s)) .empty = .fail ↔ ¬IsDottedQuad s.toList) ∧
      ((∀ args, ip (some (.string s)) args = .pass) ↔ IsDottedQuad s.toList) := by
  have hoff : ¬(Args.empty.getSet? "ipv6").any Json.truthy = true := by decide
  have hempty : ip (some (.string s)) .empty = .pass ↔ IsDottedQuad s.toList := by
    rw [ip_eq_pass_iff]
    exact or_iff_left fun h => hoff h.1
  refine ⟨hempty, by rw [ip_eq_fail_iff, ne_eq, hempty], ?_⟩
  constructor
  · intro hall
    exact hempty.1 (hall .empty)
  · intro hquad args
    exact (ip_eq_pass_iff s args).2 (Or.inl hquad)

/-- **The IPv6 addresses of hexadecimal digits and colons.**  With IPv6 addresses switched on, a
text of hexadecimal digits and colons passes if it is eight groups, or two rows of groups with two
colons between them and no more than seven groups in all; otherwise it fails. -/
theorem ip_iff_of_hexDigits {args : Args}
    (hargs : (args.getSet? "ipv6").any Json.truthy = true) {s : String}
    (hs : ∀ c ∈ s.toList, IsHexDigit c ∨ c = ':') :
    (ip (some (.string s)) args = .pass ↔
        IsFull s.toList ∨ IsCompressed (fun a b => a + b ≤ 7) s.toList) ∧
      (ip (some (.string s)) args = .fail ↔
        ¬(IsFull s.toList ∨ IsCompressed (fun a b => a + b ≤ 7) s.toList)) := by
  have hpoint : '.' ∉ s.toList := fun hc => absurd (hs '.' hc) (by decide)
  have hpercent : '%' ∉ s.toList := fun hc => absurd (hs '%' hc) (by decide)
  have hquad : ¬IsDottedQuad s.toList := fun h => hpoint h.point_mem
  have hlinkLocal : ¬IsLinkLocal s.toList := by
    rintro ⟨gs, scope, -, -, -, hw⟩
    exact hpercent (hw ▸ by simp)
  have hmapped : ¬IsMapped s.toList := by
    rintro ⟨back, quad, -, hquad, hw⟩
    have hmem := hquad.point_mem
    exact hpoint (hw ▸ by simp [joined_concat, hmem])
  have hembedded : ¬IsEmbedded s.toList := by
    rintro ⟨front, quad, -, -, hquad, hw⟩
    have hmem := hquad.point_mem
    exact hpoint (hw ▸ by simp [hmem])
  have hpass : ip (some (.string s)) args = .pass ↔
      IsFull s.toList ∨ IsCompressed (fun a b => a + b ≤ 7) s.toList := by
    rw [ip_eq_pass_iff, hasWord_ipv6]
    simp only [hquad, hargs, hlinkLocal, hmapped, hembedded, false_or, or_false, true_and]
  exact ⟨hpass, by rw [ip_eq_fail_iff, ne_eq, hpass]⟩

/-- Seven groups with two colons among them are an address. -/
theorem ip_iff_of_hexDigits_seven_groups :
    let args : Args := .options [("ipv6", .bool true)]
    (args.getSet? "ipv6").any Json.truthy = true ∧
      (∀ c ∈ "fe80:0:DB8::8:800:200C:417A".toList, IsHexDigit c ∨ c = ':') ∧
      ip (some (.string "fe80:0:DB8::8:800:200C:417A")) args = .pass := by
  intro args
  have hargs : (args.getSet? "ipv6").any Json.truthy = true := by decide
  have hs : ∀ c ∈ "fe80:0:DB8::8:800:200C:417A".toList, IsHexDigit c ∨ c = ':' := by
    simp [IsHexDigit]
  refine ⟨hargs, hs, (ip_iff_of_hexDigits hargs hs).1.2 (Or.inr ?_)⟩
  exact ⟨["fe80".toList, "0".toList, "DB8".toList],
    ["8".toList, "800".toList, "200C".toList, "417A".toList], by decide, by decide,
    by decide, rfl⟩

/-- **Which accepted texts are addresses.**  With IPv6 addresses switched on, a text that passes is
an address, except that `fe80:` and a zone after a percent sign pass and are none. -/
theorem ip_imp_isAddress_iff {args : Args}
    (hargs : (args.getSet? "ipv6").any Json.truthy = true) (s : String) :
    (ip (some (.string s)) args = .pass → IsAddress s.toList) ↔
      ¬∃ scope, IsZone scope ∧ s.toList = "fe80:%".toList ++ scope := by
  constructor
  · rintro h ⟨scope, hscope, hs⟩
    have hlinkLocal : IsLinkLocal s.toList := ⟨[], scope, by simp, by simp, hscope, by simp [hs]⟩
    have hword : TextRegex.HasWord ipv6 s.toList := (hasWord_ipv6 _).2 (Or.inr (Or.inl hlinkLocal))
    have haddress := h ((ip_eq_pass_iff s args).2 (Or.inr ⟨hargs, hword⟩))
    rw [hs] at haddress
    exact not_isAddress_fe80 hscope haddress
  · intro hnone hpass
    rcases (ip_eq_pass_iff s args).1 hpass with hquad | ⟨-, hword⟩
    · exact .version4 hquad
    · exact (isAddress_of_hasWord_ipv6 hword).resolve_right hnone

/-- A link-local address with a zone passes and is an address. -/
theorem ip_imp_isAddress_iff_zoned :
    let args : Args := .options [("ipv6", .bool true)]
    (args.getSet? "ipv6").any Json.truthy = true ∧
      ip (some (.string "fe80::7:8%eth0")) args = .pass ∧ IsAddress "fe80::7:8%eth0".toList := by
  intro args
  have hargs : (args.getSet? "ipv6").any Json.truthy = true := by decide
  have hpass : ip (some (.string "fe80::7:8%eth0")) args = .pass := by
    rw [ip_string]
    decide +kernel
  refine ⟨hargs, hpass, (ip_imp_isAddress_iff hargs "fe80::7:8%eth0").2 ?_ hpass⟩
  rintro ⟨scope, -, hs⟩
  simp at hs

/-- Without a group between, `fe80:` and a zone pass and are no address. -/
theorem ip_eq_pass_of_not_isAddress :
    ip (some (.string "fe80:%a")) (.options [("ipv6", .bool true)]) = .pass ∧
      ¬IsAddress "fe80:%a".toList := by
  refine ⟨?_, not_isAddress_fe80 (by decide : IsZone ['a'])⟩
  rw [ip_string]
  decide +kernel

end Rules

end FieldRules
