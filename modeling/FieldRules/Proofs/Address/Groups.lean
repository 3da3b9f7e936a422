import FieldRules.Proofs.Address.Expressions

/-!
# The groups of an address

The words of the parts from which the forms of an address are built: a group is one to four
hexadecimal digits (`Address.hasWord_group`), and copies of a group and a colon are a row of groups
with colons between them and one colon after or before the row.
-/

set_option autoImplicit false

namespace FieldRules.Address

open Pattern (TextRegex CharSet Regex)
open Pattern.Regex (Copies copies_iff_flatMap)

/-! ## Single parts -/

/-- The only word of a single character. -/
theorem hasWord_char (c : Char) (w : List Char) : TextRegex.HasWord (char c) w ↔ w = [c] := by
  constructor
  · rintro ⟨d, rfl, hd⟩
    rw [(CharSet.contains_single_iff c d).1 hd]
  · rintro rfl
    exact ⟨c, rfl, (CharSet.contains_single_iff c c).2 rfl⟩

/-- A word of two in a row is a word of the first and a word of the second. -/
theorem hasWord_seq (a b : TextRegex) (w : List Char) :
    TextRegex.HasWord (.seq a b) w ↔
      ∃ u v, w = u ++ v ∧ TextRegex.HasWord a u ∧ TextRegex.HasWord b v :=
  Iff.rfl

/-- Two in a row. -/
theorem seqAll_two (a b : TextRegex) : Regex.seqAll [a, b] = .seq a b := rfl

/-- Three in a row. -/
theorem seqAll_three (a b c : TextRegex) : Regex.seqAll [a, b, c] = .seq a (.seq b c) := rfl

/-- A word of a row is a word of the first and a word of the others. -/
theorem hasWord_seqAll_cons (r : TextRegex) (rs : List TextRegex) (w : List Char) :
    TextRegex.HasWord (.seqAll (r :: rs)) w ↔
      ∃ u v, w = u ++ v ∧ TextRegex.HasWord r u ∧ TextRegex.HasWord (.seqAll rs) v :=
  Regex.isWord_seqAll_cons

/-- A word of a row and then another one is a word of each. -/
theorem hasWord_seqAll_append (rs ss : List TextRegex) (w : List Char) :
    TextRegex.HasWord (.seqAll (rs ++ ss)) w ↔
      ∃ u v, w = u ++ v ∧ TextRegex.HasWord (.seqAll rs) u ∧ TextRegex.HasWord (.seqAll ss) v := by
  induction rs generalizing w with
  | nil => simp [TextRegex.HasWord, Regex.seqAll, Regex.IsWord]
  | cons r rest ih =>
    simp only [List.cons_append, hasWord_seqAll_cons, ih]
    constructor
    · rintro ⟨u, _, rfl, hu, v, v', rfl, hv, hv'⟩
      exact ⟨u ++ v, v', by simp, ⟨u, v, rfl, hu, hv⟩, hv'⟩
    · rintro ⟨_, v', rfl, ⟨u, v, rfl, hu, hv⟩, hv'⟩
      exact ⟨u, v ++ v', by simp, hu, v, v', rfl, hv, hv'⟩

/-- The only word of a row of characters. -/
theorem hasWord_word (s : String) (w : List Char) :
    TextRegex.HasWord (word s) w ↔ w = s.toList := by
  rw [word, chars]
  induction s.toList generalizing w with
  | nil => rfl
  | cons c rest ih =>
    rw [List.map_cons, hasWord_seqAll_cons]
    constructor
    · rintro ⟨u, v, rfl, hu, hv⟩
      rw [(hasWord_char c u).1 hu, (ih v).1 hv]
      rfl
    · rintro rfl
      exact ⟨[c], rest, rfl, (hasWord_char c [c]).2 rfl, (ih rest).2 rfl⟩

/-- The words of a choice are those of its branches. -/
theorem hasWord_choice (rs : List TextRegex) (w : List Char) :
    TextRegex.HasWord (choice rs) w ↔ ∃ r ∈ rs, TextRegex.HasWord r w := by
  induction rs with
  | nil => simp [TextRegex.HasWord, choice, Regex.altAll, Regex.IsWord, CharSet.none,
      CharSet.contains, Unicode.Ranges.contains]
  | cons r rest ih =>
    cases rest with
    | nil => simp [choice, Regex.altAll]
    | cons r' rest =>
      rw [List.exists_mem_cons_iff, ← ih]
      exact Regex.isWord_altAll_cons_cons

/-- The words of a number of copies, if parts make the words of one copy. -/
theorem hasWord_copies {β : Type} {r : TextRegex} {q : β → Prop} {make : β → List Char}
    (h : ∀ u, TextRegex.HasWord r u ↔ ∃ b, q b ∧ u = make b) (low high : Nat) (w : List Char) :
    TextRegex.HasWord (copies low high r) w ↔
      ∃ parts : List β, (low ≤ parts.length ∧ parts.length ≤ high) ∧ (∀ b ∈ parts, q b) ∧
        w = parts.flatMap make := by
  constructor
  · rintro ⟨k, hlow, hhigh, hcopies⟩
    obtain ⟨parts, rfl, hparts, rfl⟩ := (copies_iff_flatMap h).1 hcopies
    exact ⟨parts, ⟨hlow, hhigh high rfl⟩, hparts, rfl⟩
  · rintro ⟨parts, ⟨hlow, hhigh⟩, hparts, rfl⟩
    refine ⟨parts.length, hlow, ?_, (copies_iff_flatMap h).2 ⟨parts, rfl, hparts, rfl⟩⟩
    rintro bound hbound
    rwa [← Option.some.inj hbound]

/-- The words of an expression that may be left out. -/
theorem hasWord_copies_zero_one (r : TextRegex) (w : List Char) :
    TextRegex.HasWord (copies 0 1 r) w ↔ w = [] ∨ TextRegex.HasWord r w := by
  have hone (u : List Char) : TextRegex.HasWord r u ↔ ∃ v, TextRegex.HasWord r v ∧ u = v := by
    rw [exists_eq_right']
  rw [hasWord_copies hone]
  constructor
  · rintro ⟨parts, hlength, hparts, rfl⟩
    cases parts with
    | nil => exact Or.inl rfl
    | cons u rest =>
      obtain rfl : rest = [] := by simpa using hlength.2
      refine Or.inr ?_
      rw [List.flatMap_singleton]
      exact hparts u List.mem_cons_self
  · rintro (rfl | hw)
    · exact ⟨[], by simp⟩
    · exact ⟨[w], by simp, List.forall_mem_singleton.2 hw, by simp⟩

/-! ## Groups -/

/-- Whether a character is a hexadecimal digit, in either case. -/
def IsHexDigit (c : Char) : Prop :=
  ('0' ≤ c ∧ c ≤ '9') ∨ ('a' ≤ c ∧ c ≤ 'f') ∨ ('A' ≤ c ∧ c ≤ 'F')

instance (c : Char) : Decidable (IsHexDigit c) :=
  inferInstanceAs (Decidable (_ ∨ _ ∨ _))

/-- Whether a text is one to four hexadecimal digits. -/
structure IsGroup (g : List Char) : Prop where
  length_pos : 1 ≤ g.length
  length_le : g.length ≤ 4
  isHexDigit : ∀ c ∈ g, IsHexDigit c

instance (g : List Char) : Decidable (IsGroup g) :=
  -- Not the instance that goes through all characters.
  haveI : Decidable (∀ c ∈ g, IsHexDigit c) := List.decidableBAll _ _
  decidable_of_iff (1 ≤ g.length ∧ g.length ≤ 4 ∧ ∀ c ∈ g, IsHexDigit c)
    ⟨fun h => ⟨h.1, h.2.1, h.2.2⟩, fun h => ⟨h.length_pos, h.length_le, h.isHexDigit⟩⟩

/-- The words of a group. -/
theorem hasWord_group (w : List Char) : TextRegex.HasWord group w ↔ IsGroup w := by
  have hdigit (u : List Char) :
      TextRegex.HasWord (.step (.unions [.range '0' '9', .range 'a' 'f', .range 'A' 'F'])) u ↔
        ∃ c, IsHexDigit c ∧ u = [c] := by
    simp [TextRegex.HasWord, Regex.IsWord, CharSet.unions, CharSet.contains,
      CharSet.contains_range_iff, IsHexDigit, and_comm]
  rw [group, hasWord_copies hdigit]
  constructor
  · rintro ⟨cs, ⟨hpos, hle⟩, hdigits, rfl⟩
    rw [List.flatMap_singleton']
    exact ⟨hpos, hle, hdigits⟩
  · rintro ⟨hpos, hle, hdigits⟩
    exact ⟨w, ⟨hpos, hle⟩, hdigits, (List.flatMap_singleton' w).symm⟩

/-- The words of a number of copies of a group and a colon. -/
theorem hasWord_copies_groupColon (low high : Nat) (w : List Char) :
    TextRegex.HasWord (copies low high groupColon) w ↔
      ∃ gs : List (List Char), (low ≤ gs.length ∧ gs.length ≤ high) ∧ (∀ g ∈ gs, IsGroup g) ∧
        w = gs.flatMap (· ++ [':']) := by
  apply hasWord_copies
  intro u
  rw [groupColon, hasWord_seq]
  constructor
  · rintro ⟨g, v, rfl, hg, hv⟩
    rw [(hasWord_char ':' v).1 hv]
    exact ⟨g, (hasWord_group g).1 hg, rfl⟩
  · rintro ⟨g, hg, rfl⟩
    exact ⟨g, [':'], rfl, (hasWord_group g).2 hg, (hasWord_char ':' _).2 rfl⟩

/-- The words of a number of copies of a colon and a group. -/
theorem hasWord_copies_colonGroup (low high : Nat) (w : List Char) :
    TextRegex.HasWord (copies low high colonGroup) w ↔
      ∃ gs : List (List Char), (low ≤ gs.length ∧ gs.length ≤ high) ∧ (∀ g ∈ gs, IsGroup g) ∧
        w = gs.flatMap (':' :: ·) := by
  apply hasWord_copies
  intro u
  rw [colonGroup, hasWord_seq]
  constructor
  · rintro ⟨v, g, rfl, hv, hg⟩
    rw [(hasWord_char ':' v).1 hv]
    exact ⟨g, (hasWord_group g).1 hg, rfl⟩
  · rintro ⟨g, hg, rfl⟩
    exact ⟨[':'], g, rfl, (hasWord_char ':' _).2 rfl, (hasWord_group g).2 hg⟩

/-! ## Rows of groups -/

/-- The groups with a colon between each two. -/
def joined (gs : List (List Char)) : List Char :=
  [':'].intercalate gs

/-- No groups are the empty text. -/
@[simp] theorem joined_nil : joined [] = [] := rfl

/-- The first group and then the others, each after a colon. -/
theorem joined_cons (g : List Char) (gs : List (List Char)) :
    joined (g :: gs) = g ++ gs.flatMap (':' :: ·) := by
  induction gs generalizing g with
  | nil => simp [joined]
  | cons g' gs ih =>
    have hrest := ih g'
    rw [joined] at hrest ⊢
    rw [List.intercalate_cons_cons, hrest, List.flatMap_cons]
    simp

/-- A row of groups with a colon before each. -/
theorem flatMap_cons_colon {gs : List (List Char)} (h : gs ≠ []) :
    gs.flatMap (':' :: ·) = ':' :: joined gs := by
  cases gs with
  | nil => exact absurd rfl h
  | cons g gs => simp [joined_cons]

/-- A row of groups with a colon after each. -/
theorem flatMap_append_colon {gs : List (List Char)} (h : gs ≠ []) :
    gs.flatMap (· ++ [':']) = joined gs ++ [':'] := by
  induction gs with
  | nil => exact absurd rfl h
  | cons g gs ih =>
    cases gs with
    | nil => simp [joined_cons]
    | cons g' gs =>
      have hrest := ih (List.cons_ne_nil g' gs)
      rw [List.flatMap_cons, hrest, joined_cons, joined_cons]
      simp

/-- The groups before the last, each with a colon after it, and then the last. -/
theorem joined_concat (gs : List (List Char)) (g : List Char) :
    joined (gs ++ [g]) = gs.flatMap (· ++ [':']) ++ g := by
  induction gs with
  | nil => simp [joined_cons]
  | cons g' gs ih =>
    have hne : gs ++ [g] ≠ [] := by simp
    rw [List.cons_append, joined_cons, flatMap_cons_colon hne, ih, List.flatMap_cons]
    simp

/-- The characters of a row of groups are colons and those of its groups. -/
theorem mem_joined {gs : List (List Char)} {c : Char} (hc : c ∈ joined gs) :
    c = ':' ∨ ∃ g ∈ gs, c ∈ g := by
  cases gs with
  | nil => cases hc
  | cons g gs =>
    rw [joined_cons, List.mem_append, List.mem_flatMap] at hc
    rcases hc with hc | ⟨g', hg', hc⟩
    · exact Or.inr ⟨g, List.mem_cons_self, hc⟩
    · exact (List.mem_cons.1 hc).imp id fun hc => ⟨g', List.mem_cons_of_mem g hg', hc⟩

/-- A row has a colon between each two of its groups. -/
theorem length_le_count_joined (gs : List (List Char)) :
    gs.length ≤ (joined gs).count ':' + 1 := by
  have hcount (gs : List (List Char)) : gs.length ≤ (gs.flatMap (':' :: ·)).count ':' := by
    induction gs with
    | nil => exact Nat.zero_le _
    | cons g gs ih =>
      rw [List.flatMap_cons, List.count_append, List.count_cons_self, List.length_cons]
      omega
  cases gs with
  | nil => exact Nat.zero_le _
  | cons g gs =>
    have hrest := hcount gs
    rw [joined_cons, List.count_append, List.length_cons]
    omega

end FieldRules.Address
