import FieldRules.Proofs.Address.Octets

/-!
# The forms of an IPv6 address

What each form stands for.  The first nine are rows of groups: eight groups, or two rows with two
colons between them.  Each of the latter allows the rows some lengths, and together they allow all
lengths that add up to seven at most (`Address.exists_rowForms_iff`).  The others are link-local
addresses with a zone and addresses that end in a dotted quad (`Address.hasWord_ipv6`).
-/

set_option autoImplicit false

namespace FieldRules.Address

open Pattern (TextRegex CharSet Regex)

/-! ## Rows of groups -/

/-- Whether a text is eight groups with colons between them. -/
def IsFull (w : List Char) : Prop :=
  ∃ gs : List (List Char), gs.length = 8 ∧ (∀ g ∈ gs, IsGroup g) ∧ w = joined gs

/-- Whether a text is two rows of groups, possibly empty, with two colons between them, of lengths
that are allowed. -/
def IsCompressed (allowed : Nat → Nat → Prop) (w : List Char) : Prop :=
  ∃ front back : List (List Char), allowed front.length back.length ∧
    (∀ g ∈ front, IsGroup g) ∧ (∀ g ∈ back, IsGroup g) ∧
    w = joined front ++ ':' :: ':' :: joined back

/-- Two sets of allowed lengths together allow the lengths of either. -/
theorem isCompressed_or {p q : Nat → Nat → Prop} {w : List Char} :
    IsCompressed p w ∨ IsCompressed q w ↔ IsCompressed (fun a b => p a b ∨ q a b) w := by
  constructor
  · rintro (⟨front, back, h, hrows⟩ | ⟨front, back, h, hrows⟩)
    · exact ⟨front, back, Or.inl h, hrows⟩
    · exact ⟨front, back, Or.inr h, hrows⟩
  · rintro ⟨front, back, h | h, hrows⟩
    · exact Or.inl ⟨front, back, h, hrows⟩
    · exact Or.inr ⟨front, back, h, hrows⟩

/-- Only which lengths are allowed matters. -/
theorem isCompressed_congr {p q : Nat → Nat → Prop} (h : ∀ a b, p a b ↔ q a b) {w : List Char} :
    IsCompressed p w ↔ IsCompressed q w := by
  have heq : p = q := by
    funext a b
    exact propext (h a b)
  rw [heq]

/-! ## The forms that are rows of groups -/

section Forms

variable (w : List Char)

/-- Seven groups with a colon after each and one more group are eight groups with colons between
them. -/
theorem hasWord_eight : TextRegex.HasWord (.seq (copies 7 7 groupColon) group) w ↔ IsFull w := by
  rw [hasWord_seq]
  constructor
  · rintro ⟨u, g, rfl, hu, hg⟩
    obtain ⟨gs, hlength, hgs, rfl⟩ := (hasWord_copies_groupColon 7 7 u).1 hu
    refine ⟨gs ++ [g], ?_, ?_, (joined_concat gs g).symm⟩
    · rw [List.length_append, List.length_singleton]
      omega
    · rw [List.forall_mem_append, List.forall_mem_singleton]
      exact ⟨hgs, (hasWord_group g).1 hg⟩
  · rintro ⟨gs, hlength, hgs, rfl⟩
    have hne : gs ≠ [] := by
      rintro rfl
      cases hlength
    obtain ⟨front, g, rfl⟩ := (List.eq_nil_or_concat' gs).resolve_left hne
    rw [List.length_append, List.length_singleton] at hlength
    rw [List.forall_mem_append, List.forall_mem_singleton] at hgs
    refine ⟨_, g, joined_concat front g, ?_, (hasWord_group g).2 hgs.2⟩
    exact (hasWord_copies_groupColon 7 7 _).2 ⟨front, by omega, hgs.1, rfl⟩

/-- A row of groups before the two colons and one after them. -/
theorem hasWord_bothRows (m n : Nat) :
    TextRegex.HasWord (.seq (copies 1 m groupColon) (copies 1 n colonGroup)) w ↔
      IsCompressed (fun a b => (1 ≤ a ∧ a ≤ m) ∧ 1 ≤ b ∧ b ≤ n) w := by
  rw [hasWord_seq]
  constructor
  · rintro ⟨u, v, rfl, hu, hv⟩
    obtain ⟨front, hm, hfront, rfl⟩ := (hasWord_copies_groupColon 1 m u).1 hu
    obtain ⟨back, hn, hback, rfl⟩ := (hasWord_copies_colonGroup 1 n v).1 hv
    refine ⟨front, back, ⟨hm, hn⟩, hfront, hback, ?_⟩
    rw [flatMap_append_colon (List.length_pos_iff.1 hm.1),
      flatMap_cons_colon (List.length_pos_iff.1 hn.1), List.append_assoc]
    rfl
  · rintro ⟨front, back, ⟨hm, hn⟩, hfront, hback, rfl⟩
    refine ⟨front.flatMap (· ++ [':']), back.flatMap (':' :: ·), ?_,
      (hasWord_copies_groupColon 1 m _).2 ⟨front, hm, hfront, rfl⟩,
      (hasWord_copies_colonGroup 1 n _).2 ⟨back, hn, hback, rfl⟩⟩
    rw [flatMap_append_colon (List.length_pos_iff.1 hm.1),
      flatMap_cons_colon (List.length_pos_iff.1 hn.1), List.append_assoc]
    rfl

/-- A row of groups before the two colons and nothing after them. -/
theorem hasWord_frontRow (m : Nat) :
    TextRegex.HasWord (.seq (copies 1 m groupColon) (char ':')) w ↔
      IsCompressed (fun a b => (1 ≤ a ∧ a ≤ m) ∧ b = 0) w := by
  rw [hasWord_seq]
  constructor
  · rintro ⟨u, v, rfl, hu, hv⟩
    obtain ⟨front, hm, hfront, rfl⟩ := (hasWord_copies_groupColon 1 m u).1 hu
    rw [(hasWord_char ':' v).1 hv, flatMap_append_colon (List.length_pos_iff.1 hm.1)]
    exact ⟨front, [], ⟨hm, rfl⟩, hfront, by simp, by simp⟩
  · rintro ⟨front, back, ⟨hm, hback⟩, hfront, -, rfl⟩
    obtain rfl := List.length_eq_zero_iff.1 hback
    refine ⟨front.flatMap (· ++ [':']), [':'], ?_,
      (hasWord_copies_groupColon 1 m _).2 ⟨front, hm, hfront, rfl⟩, (hasWord_char ':' _).2 rfl⟩
    simp [flatMap_append_colon (List.length_pos_iff.1 hm.1)]

/-- A row of groups before the two colons and one group after them. -/
theorem hasWord_frontRow_group (m : Nat) :
    TextRegex.HasWord (.seqAll [copies 1 m groupColon, char ':', group]) w ↔
      IsCompressed (fun a b => (1 ≤ a ∧ a ≤ m) ∧ b = 1) w := by
  simp only [seqAll_three, hasWord_seq]
  constructor
  · rintro ⟨u, _, rfl, hu, v, g, rfl, hv, hg⟩
    obtain ⟨front, hm, hfront, rfl⟩ := (hasWord_copies_groupColon 1 m u).1 hu
    rw [(hasWord_char ':' v).1 hv, flatMap_append_colon (List.length_pos_iff.1 hm.1)]
    refine ⟨front, [g], ⟨hm, rfl⟩, hfront, ?_, by simp [joined_cons]⟩
    exact List.forall_mem_singleton.2 ((hasWord_group g).1 hg)
  · rintro ⟨front, back, ⟨hm, hlength⟩, hfront, hback, rfl⟩
    obtain ⟨g, rfl⟩ := List.length_eq_one_iff.1 hlength
    refine ⟨front.flatMap (· ++ [':']), ':' :: g, ?_,
      (hasWord_copies_groupColon 1 m _).2 ⟨front, hm, hfront, rfl⟩, [':'], g, rfl,
      (hasWord_char ':' _).2 rfl, (hasWord_group g).2 (List.forall_mem_singleton.1 hback)⟩
    simp [flatMap_append_colon (List.length_pos_iff.1 hm.1), joined_cons]

/-- One group before the two colons and a row of groups after them. -/
theorem hasWord_group_backRow (n : Nat) :
    TextRegex.HasWord (.seqAll [group, char ':', copies 1 n colonGroup]) w ↔
      IsCompressed (fun a b => a = 1 ∧ 1 ≤ b ∧ b ≤ n) w := by
  simp only [seqAll_three, hasWord_seq]
  constructor
  · rintro ⟨g, _, rfl, hg, c, v, rfl, hc, hv⟩
    obtain ⟨back, hn, hback, rfl⟩ := (hasWord_copies_colonGroup 1 n v).1 hv
    rw [(hasWord_char ':' c).1 hc, flatMap_cons_colon (List.length_pos_iff.1 hn.1)]
    refine ⟨[g], back, ⟨rfl, hn⟩, ?_, hback, by simp [joined_cons]⟩
    exact List.forall_mem_singleton.2 ((hasWord_group g).1 hg)
  · rintro ⟨front, back, ⟨hlength, hn⟩, hfront, hback, rfl⟩
    obtain ⟨g, rfl⟩ := List.length_eq_one_iff.1 hlength
    refine ⟨g, ':' :: back.flatMap (':' :: ·), ?_,
      (hasWord_group g).2 (List.forall_mem_singleton.1 hfront), [':'], _, rfl,
      (hasWord_char ':' _).2 rfl, (hasWord_copies_colonGroup 1 n _).2 ⟨back, hn, hback, rfl⟩⟩
    simp [flatMap_cons_colon (List.length_pos_iff.1 hn.1), joined_cons]

/-- Nothing before the two colons and a row of groups, or nothing, after them. -/
theorem hasWord_backRow (n : Nat) :
    TextRegex.HasWord (.seq (char ':') (choice [copies 1 n colonGroup, char ':'])) w ↔
      IsCompressed (fun a b => a = 0 ∧ b ≤ n) w := by
  rw [hasWord_seq]
  constructor
  · rintro ⟨u, v, rfl, hu, hv⟩
    rw [(hasWord_char ':' u).1 hu]
    rw [hasWord_choice, List.exists_mem_cons_iff, List.exists_mem_cons_iff] at hv
    rcases hv with hv | hv | ⟨_, hmem, -⟩
    · obtain ⟨back, hn, hback, rfl⟩ := (hasWord_copies_colonGroup 1 n v).1 hv
      rw [flatMap_cons_colon (List.length_pos_iff.1 hn.1)]
      exact ⟨[], back, ⟨rfl, hn.2⟩, by simp, hback, rfl⟩
    · rw [(hasWord_char ':' v).1 hv]
      exact ⟨[], [], ⟨rfl, Nat.zero_le n⟩, by simp, by simp, rfl⟩
    · cases hmem
  · rintro ⟨front, back, ⟨hfront, hn⟩, -, hback, rfl⟩
    obtain rfl := List.length_eq_zero_iff.1 hfront
    refine ⟨[':'], ':' :: joined back, rfl, (hasWord_char ':' _).2 rfl, ?_⟩
    rw [hasWord_choice, List.exists_mem_cons_iff, List.exists_mem_cons_iff]
    by_cases hne : back = []
    · subst hne
      exact Or.inr (Or.inl ((hasWord_char ':' _).2 rfl))
    · refine Or.inl ((hasWord_copies_colonGroup 1 n _).2 ⟨back, ?_, hback, ?_⟩)
      · exact ⟨List.length_pos_iff.2 hne, hn⟩
      · exact (flatMap_cons_colon hne).symm

end Forms

/-- The words of the forms that are rows of groups. -/
theorem exists_rowForms_iff (w : List Char) :
    (∃ r ∈ rowForms, TextRegex.HasWord r w) ↔ IsFull w ∨ IsCompressed (fun a b => a + b ≤ 7) w := by
  rw [rowForms]
  simp only [List.exists_mem_cons_iff, List.not_mem_nil, false_and, exists_false, or_false]
  rw [hasWord_eight, hasWord_frontRow, hasWord_frontRow_group, hasWord_bothRows, hasWord_bothRows,
    hasWord_bothRows, hasWord_bothRows, hasWord_group_backRow, hasWord_backRow]
  simp only [isCompressed_or]
  exact or_congr_right (isCompressed_congr fun a b => by omega)

/-! ## The forms with a zone or a dotted quad -/

/-- Whether a text is a row of digits and letters, not empty. -/
def IsZone (w : List Char) : Prop :=
  w ≠ [] ∧ ∀ c ∈ w, c.isAlphanum = true

instance (w : List Char) : Decidable (IsZone w) :=
  haveI : Decidable (∀ c ∈ w, c.isAlphanum = true) := List.decidableBAll _ _
  inferInstanceAs (Decidable (_ ∧ _))

/-- Whether a text is `fe80:`, at most four groups with a colon before each, and a zone after a
percent sign. -/
def IsLinkLocal (w : List Char) : Prop :=
  ∃ (gs : List (List Char)) (scope : List Char), gs.length ≤ 4 ∧ (∀ g ∈ gs, IsGroup g) ∧
    IsZone scope ∧ w = "fe80:".toList ++ gs.flatMap (':' :: ·) ++ '%' :: scope

/-- The groups that may stand between the two colons and a dotted quad. -/
inductive IsMapping : List (List Char) → Prop where
  | compatible : IsMapping []
  | mapped : IsMapping ["ffff".toList]
  | translated {zeros : List Char} (hlength : 1 ≤ zeros.length ∧ zeros.length ≤ 4)
    (hzeros : ∀ c ∈ zeros, c = '0') : IsMapping ["ffff".toList, zeros]

/-- Whether a text is two colons, the groups of a mapping and a dotted quad. -/
def IsMapped (w : List Char) : Prop :=
  ∃ (back : List (List Char)) (quad : List Char), IsMapping back ∧ IsDottedQuad quad ∧
    w = ':' :: ':' :: joined (back ++ [quad])

/-- Whether a text is one to four groups, two colons and a dotted quad. -/
def IsEmbedded (w : List Char) : Prop :=
  ∃ (front : List (List Char)) (quad : List Char), (1 ≤ front.length ∧ front.length ≤ 4) ∧
    (∀ g ∈ front, IsGroup g) ∧ IsDottedQuad quad ∧ w = joined front ++ ':' :: ':' :: quad

/-- The words of a zone. -/
theorem hasWord_zone (w : List Char) : TextRegex.HasWord zone w ↔ IsZone w := by
  have hdigit (u : List Char) :
      TextRegex.HasWord (.step (.unions [.range '0' '9', .range 'a' 'z', .range 'A' 'Z'])) u ↔
        ∃ c : Char, c.isAlphanum = true ∧ u = [c] := by
    have hcontains (c : Char) :
        (CharSet.unions [.range '0' '9', .range 'a' 'z', .range 'A' 'Z']).contains c = true ↔
          c.isAlphanum = true := by
      simp only [CharSet.unions, CharSet.contains, Bool.or_eq_true, CharSet.contains_range_iff,
        Char.isAlphanum, Char.isAlpha, Char.isUpper, Char.isLower, Char.isDigit,
        Bool.and_eq_true, decide_eq_true_eq, Char.le_def, ge_iff_le]
      tauto
    constructor
    · rintro ⟨c, rfl, hc⟩
      exact ⟨c, (hcontains c).1 hc, rfl⟩
    · rintro ⟨c, hc, rfl⟩
      exact ⟨c, rfl, (hcontains c).2 hc⟩
  constructor
  · rintro ⟨k, hk, -, hcopies⟩
    obtain ⟨cs, rfl, hcs, rfl⟩ := (Regex.copies_iff_flatMap hdigit).1 hcopies
    rw [List.flatMap_singleton']
    exact ⟨List.length_pos_iff.1 hk, hcs⟩
  · rintro ⟨hne, hcs⟩
    refine ⟨w.length, List.length_pos_iff.2 hne, by simp, ?_⟩
    exact (Regex.copies_iff_flatMap hdigit).2 ⟨w, rfl, hcs, (List.flatMap_singleton' w).symm⟩

/-- The words of the form with a zone. -/
theorem hasWord_linkLocal (w : List Char) : TextRegex.HasWord linkLocal w ↔ IsLinkLocal w := by
  rw [linkLocal, hasWord_seqAll_append, ← word]
  simp only [seqAll_three, hasWord_seq, hasWord_word, hasWord_char, hasWord_zone,
    hasWord_copies_colonGroup]
  constructor
  · rintro ⟨_, _, rfl, rfl, _, _, rfl, ⟨gs, hlength, hgs, rfl⟩, _, scope, rfl, rfl, hscope⟩
    exact ⟨gs, scope, hlength.2, hgs, hscope, by simp⟩
  · rintro ⟨gs, scope, hlength, hgs, hscope, rfl⟩
    exact ⟨_, _, List.append_assoc _ _ _, rfl, _, _, rfl, ⟨gs, ⟨Nat.zero_le _, hlength⟩, hgs, rfl⟩,
      ['%'], scope, rfl, rfl, hscope⟩

/-- The words for a colon and a row of zeros. -/
theorem hasWord_colonZeros (w : List Char) :
    TextRegex.HasWord (.seq (char ':') (copies 1 4 (char '0'))) w ↔
      ∃ zeros : List Char, ((1 ≤ zeros.length ∧ zeros.length ≤ 4) ∧ ∀ c ∈ zeros, c = '0') ∧
        w = ':' :: zeros := by
  have hzero (u : List Char) : TextRegex.HasWord (char '0') u ↔ ∃ c, c = '0' ∧ u = [c] := by
    rw [hasWord_char, exists_eq_left]
  rw [hasWord_seq]
  constructor
  · rintro ⟨u, v, rfl, hu, hv⟩
    obtain ⟨zeros, hlength, hzeros, rfl⟩ := (hasWord_copies hzero 1 4 v).1 hv
    rw [(hasWord_char ':' u).1 hu, List.flatMap_singleton']
    exact ⟨zeros, ⟨hlength, hzeros⟩, rfl⟩
  · rintro ⟨zeros, ⟨hlength, hzeros⟩, rfl⟩
    exact ⟨[':'], zeros, rfl, (hasWord_char ':' _).2 rfl, (hasWord_copies hzero 1 4 _).2
      ⟨zeros, hlength, hzeros, (List.flatMap_singleton' zeros).symm⟩⟩

/-- The words for the groups of a mapping that has some, each with a colon after it. -/
theorem hasWord_mappingGroups (w : List Char) :
    TextRegex.HasWord (.seqAll (chars "ffff" ++
        [copies 0 1 (.seq (char ':') (copies 1 4 (char '0'))), char ':'])) w ↔
      ∃ back : List (List Char), (IsMapping back ∧ back ≠ []) ∧
        w = back.flatMap (· ++ [':']) := by
  rw [hasWord_seqAll_append, ← word]
  simp only [seqAll_two, hasWord_seq, hasWord_word, hasWord_char]
  simp only [hasWord_copies_zero_one, hasWord_colonZeros]
  constructor
  · rintro ⟨_, _, rfl, rfl, _, _, rfl, rfl | ⟨zeros, ⟨hlength, hzeros⟩, rfl⟩, rfl⟩
    · exact ⟨["ffff".toList], ⟨.mapped, by simp⟩, rfl⟩
    · exact ⟨["ffff".toList, zeros], ⟨.translated hlength hzeros, by simp⟩, by simp⟩
  · rintro ⟨back, ⟨hback, hne⟩, rfl⟩
    cases hback with
    | compatible => exact absurd rfl hne
    | mapped => exact ⟨_, [':'], rfl, rfl, [], [':'], rfl, Or.inl rfl, rfl⟩
    | @translated zeros hlength hzeros =>
      exact ⟨_, ':' :: zeros ++ [':'], by simp, rfl, ':' :: zeros, [':'], rfl,
        Or.inr ⟨zeros, ⟨hlength, hzeros⟩, rfl⟩, rfl⟩

/-- What may stand between the two colons and a dotted quad: the groups of a mapping, each with a
colon after it. -/
theorem hasWord_mapping (w : List Char) :
    TextRegex.HasWord mapping w ↔
      ∃ back : List (List Char), IsMapping back ∧ w = back.flatMap (· ++ [':']) := by
  rw [mapping, hasWord_copies_zero_one, hasWord_mappingGroups]
  constructor
  · rintro (rfl | ⟨back, ⟨hback, -⟩, rfl⟩)
    · exact ⟨[], .compatible, rfl⟩
    · exact ⟨back, hback, rfl⟩
  · rintro ⟨back, hback, rfl⟩
    by_cases hne : back = []
    · exact Or.inl (by rw [hne, List.flatMap_nil])
    · exact Or.inr ⟨back, ⟨hback, hne⟩, rfl⟩

/-- The words of the form of two colons, perhaps a mapping, and a dotted quad. -/
theorem hasWord_mapped (w : List Char) : TextRegex.HasWord mapped w ↔ IsMapped w := by
  rw [mapped, hasWord_seqAll_append, ← word]
  simp only [hasWord_seqAll_cons, hasWord_word, hasWord_ipv4Parts]
  constructor
  · rintro ⟨_, _, rfl, rfl, u, quad, rfl, hu, hquad⟩
    obtain ⟨back, hback, rfl⟩ := (hasWord_mapping u).1 hu
    exact ⟨back, quad, hback, hquad, by rw [joined_concat]; rfl⟩
  · rintro ⟨back, quad, hback, hquad, rfl⟩
    exact ⟨"::".toList, _, rfl, rfl, back.flatMap (· ++ [':']), quad, joined_concat back quad,
      (hasWord_mapping _).2 ⟨back, hback, rfl⟩, hquad⟩

/-- The words of the form of some groups, two colons and a dotted quad. -/
theorem hasWord_embedded (w : List Char) : TextRegex.HasWord embedded w ↔ IsEmbedded w := by
  simp only [embedded, hasWord_seqAll_cons, hasWord_char, hasWord_ipv4Parts,
    hasWord_copies_groupColon]
  constructor
  · rintro ⟨_, _, rfl, ⟨front, hlength, hfront, rfl⟩, _, quad, rfl, rfl, hquad⟩
    refine ⟨front, quad, hlength, hfront, hquad, ?_⟩
    simp [flatMap_append_colon (List.length_pos_iff.1 hlength.1)]
  · rintro ⟨front, quad, hlength, hfront, hquad, rfl⟩
    refine ⟨_, ':' :: quad, ?_, ⟨front, hlength, hfront, rfl⟩, [':'], quad, rfl, rfl, hquad⟩
    simp [flatMap_append_colon (List.length_pos_iff.1 hlength.1)]

/-- The words of an IPv6 address. -/
theorem hasWord_ipv6 (w : List Char) :
    TextRegex.HasWord ipv6 w ↔ (IsFull w ∨ IsCompressed (fun a b => a + b ≤ 7) w) ∨
      IsLinkLocal w ∨ IsMapped w ∨ IsEmbedded w := by
  rw [ipv6, hasWord_choice]
  simp only [List.mem_append, or_and_right, exists_or]
  rw [exists_rowForms_iff]
  simp only [List.exists_mem_cons_iff, List.not_mem_nil, false_and, exists_false, or_false]
  rw [hasWord_linkLocal, hasWord_mapped, hasWord_embedded]

end FieldRules.Address
