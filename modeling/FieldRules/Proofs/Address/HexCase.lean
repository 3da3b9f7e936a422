import FieldRules.Proofs.Address.Accepted

/-!
# The case of hexadecimal digits

The forms of an address pass hexadecimal digits in either case, but for two groups that are written
out: `fe80` at the head of a link-local address with a zone and `ffff` at the head of a mapped
address have to be in lower case (`Address.isLinkLocal_iff`, `Address.isMapped_iff`).  So two texts
that differ in the case of such digits alone are accepted alike unless they are such addresses and
differ in whether that group is in lower case (`Rules.ip_eq_ip_iff_of_lowered_eq`).
-/

set_option autoImplicit false

namespace FieldRules

namespace Address

open Pattern (TextRegex CharSet Regex)

/-! ## Lower case -/

/-- The hexadecimal digits that are capital letters. -/
def capitals : List Char := ['A', 'B', 'C', 'D', 'E', 'F']

/-- The hexadecimal digits that are small letters. -/
def smallLetters : List Char := ['a', 'b', 'c', 'd', 'e', 'f']

/-- A hexadecimal digit in lower case; all other characters stay as they are. -/
def lowerHex (c : Char) : Char :=
  if c ∈ capitals then c.toLower else c

/-- A text with the hexadecimal digits before any percent sign in lower case. -/
def lowered (w : List Char) : List Char :=
  (w.takeWhile (· != '%')).map lowerHex ++ w.dropWhile (· != '%')

/-- A character that is no capital digit stays as it is. -/
theorem lowerHex_of_notMem {c : Char} (h : c ∉ capitals) : lowerHex c = c :=
  if_neg h

/-- Nothing but a letter becomes a letter. -/
theorem eq_of_lowerHex_notMem {c : Char} (h : lowerHex c ∉ smallLetters) : lowerHex c = c := by
  apply lowerHex_of_notMem
  intro hc
  have hletter : ∀ c ∈ capitals, lowerHex c ∈ smallLetters := by
    simp [capitals, smallLetters, lowerHex]
  exact h (hletter c hc)

/-- A text of characters that stay as they are stays as it is. -/
theorem map_lowerHex_eq_self {w : List Char} (h : ∀ c ∈ w, lowerHex c = c) :
    w.map lowerHex = w := by
  rw [List.map_congr_left (g := id) h, List.map_id]

/-- A text without small letters was not changed. -/
theorem eq_of_map_lowerHex_eq {w u : List Char} (hw : w.map lowerHex = u)
    (hu : ∀ c ∈ u, c ∉ smallLetters) : w = u := by
  subst hw
  refine (map_lowerHex_eq_self ?_).symm
  intro c hc
  exact eq_of_lowerHex_notMem (hu _ (List.mem_map_of_mem hc))

/-- Putting hexadecimal digits into lower case neither adds nor removes a percent sign. -/
theorem percent_mem_map_lowerHex {w : List Char} : '%' ∈ w.map lowerHex ↔ '%' ∈ w := by
  rw [List.mem_map]
  constructor
  · rintro ⟨c, hc, hlower⟩
    have hsame : lowerHex c = c := eq_of_lowerHex_notMem (by rw [hlower]; decide)
    rwa [← hlower, hsame]
  · intro h
    exact ⟨'%', h, rfl⟩

/-- Without a percent sign a text has nothing that is left as it is. -/
theorem forall_ne_percent {w : List Char} (h : '%' ∉ w) : ∀ c ∈ w, (c != '%') = true := by
  intro c hc
  rw [bne_iff_ne]
  rintro rfl
  exact h hc

/-- Without a percent sign all of a text is put into lower case. -/
theorem lowered_of_notMem {w : List Char} (h : '%' ∉ w) : lowered w = w.map lowerHex := by
  have hall := forall_ne_percent h
  rw [lowered, List.takeWhile_eq_self_iff.2 hall, List.dropWhile_eq_nil_iff.2 hall, List.append_nil]

/-- What comes after the first percent sign stays as it is. -/
theorem lowered_append {front : List Char} (h : '%' ∉ front) (rest : List Char) :
    lowered (front ++ '%' :: rest) = front.map lowerHex ++ '%' :: rest := by
  have hall := forall_ne_percent h
  rw [lowered, List.takeWhile_append_of_pos hall, List.dropWhile_append_of_pos hall]
  simp

/-- A text in lower case has a percent sign exactly if the text has one. -/
theorem percent_mem_lowered {w : List Char} : '%' ∈ lowered w ↔ '%' ∈ w := by
  by_cases h : '%' ∈ w
  · obtain ⟨front, rest, rfl, hfront⟩ := List.eq_append_cons_of_mem h
    simp [lowered_append hfront]
  · rw [lowered_of_notMem h, percent_mem_map_lowerHex]

/-! ## Forms that pass either case -/

/-- Whether the steps of an expression pass none of some characters. -/
def PassesNone (cs : List Char) (r : TextRegex) : Prop :=
  ∀ s ∈ r.steps, ∀ c ∈ cs, s.contains c = false

instance (cs : List Char) (r : TextRegex) : Decidable (PassesNone cs r) :=
  -- Not the instance that goes through all characters.
  haveI (s : CharSet) : Decidable (∀ c ∈ cs, s.contains c = false) := List.decidableBAll _ _
  List.decidableBAll _ _

/-- A character that no step of an expression passes is in none of its words. -/
theorem PassesNone.notMem {cs : List Char} {r : TextRegex} (hr : PassesNone cs r) {w : List Char}
    (h : TextRegex.HasWord r w) {c : Char} (hc : c ∈ cs) : c ∉ w := by
  intro hmem
  obtain ⟨s, hs, hpasses⟩ := Regex.exists_mem_steps_of_isWord h hmem
  rw [hr s hs c hc] at hpasses
  cases hpasses

/-- Whether the steps of an expression pass a hexadecimal digit in either case. -/
def PassesEitherCase (r : TextRegex) : Prop :=
  ∀ s ∈ r.steps, ∀ c ∈ capitals, s.contains (lowerHex c) = s.contains c

instance (r : TextRegex) : Decidable (PassesEitherCase r) :=
  haveI (s : CharSet) : Decidable (∀ c ∈ capitals, s.contains (lowerHex c) = s.contains c) :=
    List.decidableBAll _ _
  List.decidableBAll _ _

/-- An expression that passes digits in either case has a text among its words exactly if it has the
text in lower case. -/
theorem hasWord_map_lowerHex {r : TextRegex} (hr : PassesEitherCase r) (w : List Char) :
    TextRegex.HasWord r (w.map lowerHex) ↔ TextRegex.HasWord r w := by
  apply Regex.isWord_map_iff
  intro s hs c
  by_cases hc : c ∈ capitals
  · exact hr s hs c hc
  · rw [lowerHex_of_notMem hc]

/-- An expression that passes either case, and no percent sign, has a text in lower case as a word
if it has the text. -/
theorem hasWord_lowered {r : TextRegex} (hr : PassesEitherCase r)
    (hpercent : PassesNone ['%'] r) (w : List Char) :
    TextRegex.HasWord r (lowered w) ↔ TextRegex.HasWord r w := by
  by_cases h : '%' ∈ w
  · have hlowered := percent_mem_lowered.2 h
    exact iff_of_false (fun hword => hpercent.notMem hword (by simp) hlowered)
      (fun hword => hpercent.notMem hword (by simp) h)
  · rw [lowered_of_notMem h, hasWord_map_lowerHex hr]

/-- Putting a text into lower case does not change whether it is a row of groups, or two with two
colons between them. -/
theorem rows_lowered (w : List Char) :
    (IsFull (lowered w) ∨ IsCompressed (fun a b => a + b ≤ 7) (lowered w)) ↔
      IsFull w ∨ IsCompressed (fun a b => a + b ≤ 7) w := by
  have hcase : ∀ r ∈ rowForms, PassesEitherCase r := by decide
  have hpercent : ∀ r ∈ rowForms, PassesNone ['%'] r := by decide
  rw [← exists_rowForms_iff, ← exists_rowForms_iff]
  apply exists_congr
  intro r
  apply and_congr_right
  intro hr
  exact hasWord_lowered (hcase r hr) (hpercent r hr) w

/-- Putting a text into lower case does not change whether it is some groups, two colons and a
dotted quad. -/
theorem isEmbedded_lowered (w : List Char) : IsEmbedded (lowered w) ↔ IsEmbedded w := by
  rw [← hasWord_embedded, ← hasWord_embedded]
  exact hasWord_lowered (by decide) (by decide) w

/-- Putting a text into lower case does not change whether it is a dotted quad. -/
theorem isDottedQuad_lowered (w : List Char) : IsDottedQuad (lowered w) ↔ IsDottedQuad w := by
  rw [← hasWord_ipv4, ← hasWord_ipv4]
  exact hasWord_lowered (by decide) (by decide) w

/-! ## Forms with a group that is written out -/

/-- A link-local address with a zone, its groups being a word of the expression for them. -/
theorem isLinkLocal_iff_hasWord (w : List Char) :
    IsLinkLocal w ↔ ∃ u scope, TextRegex.HasWord (copies 0 4 colonGroup) u ∧ IsZone scope ∧
      w = "fe80:".toList ++ u ++ '%' :: scope := by
  simp only [hasWord_copies_colonGroup]
  constructor
  · rintro ⟨gs, scope, hlength, hgs, hscope, rfl⟩
    exact ⟨_, scope, ⟨gs, ⟨Nat.zero_le _, hlength⟩, hgs, rfl⟩, hscope, rfl⟩
  · rintro ⟨_, scope, ⟨gs, hlength, hgs, rfl⟩, hscope, rfl⟩
    exact ⟨gs, scope, hlength.2, hgs, hscope, rfl⟩

/-- A link-local address with a zone is one in lower case that begins with `fe80` as it stands. -/
theorem isLinkLocal_iff (w : List Char) :
    IsLinkLocal w ↔ "fe80".toList <+: w ∧ IsLinkLocal (lowered w) := by
  have hcase : PassesEitherCase (copies 0 4 colonGroup) := by decide
  have hpercent {u : List Char} (hu : TextRegex.HasWord (copies 0 4 colonGroup) u) :
      '%' ∉ "fe80:".toList ++ u := by
    have hnone : PassesNone ['%'] (copies 0 4 colonGroup) := by decide
    simpa using hnone.notMem hu (by simp)
  rw [isLinkLocal_iff_hasWord, isLinkLocal_iff_hasWord]
  constructor
  · rintro ⟨u, scope, hu, hscope, rfl⟩
    have hlower := (hasWord_map_lowerHex hcase u).2 hu
    refine ⟨⟨':' :: (u ++ '%' :: scope), by simp⟩, u.map lowerHex, scope, hlower, hscope, ?_⟩
    rw [lowered_append (hpercent hu), List.map_append]
    rfl
  · rintro ⟨hhead, u, scope, hu, hscope, hw⟩
    have hmem : '%' ∈ w := by
      rw [← percent_mem_lowered, hw]
      simp
    obtain ⟨front, rest, rfl, hfront⟩ := List.eq_append_cons_of_mem hmem
    rw [lowered_append hfront] at hw
    have hnotMem : '%' ∉ scope := by
      intro hc
      have halphanum := hscope.2 '%' hc
      exact absurd halphanum (by decide)
    obtain ⟨hlower, -, rfl⟩ := (List.append_cons_inj_of_notMem (hpercent hu) hnotMem).1 hw.symm
    -- Four characters stand before the colon, and they are as they should be.
    have hlength : "fe80".toList.length ≤ front.length := by
      have hlengths := congrArg List.length hlower
      simp at hlengths ⊢
      omega
    obtain ⟨tail, rfl⟩ := List.prefix_of_prefix_length_le hhead (List.prefix_append _ _) hlength
    rw [List.map_append] at hlower
    obtain ⟨c, v, rfl, hc, rfl⟩ : ∃ c v, tail = c :: v ∧ lowerHex c = ':' ∧ v.map lowerHex = u := by
      have htail : "fe80".toList ++ ':' :: u = "fe80".toList ++ tail.map lowerHex := hlower
      exact List.map_eq_cons_iff.1 (List.append_cancel_left htail).symm
    have hcolon : lowerHex c = c := eq_of_lowerHex_notMem (by rw [hc]; decide)
    rw [hcolon] at hc
    subst hc
    exact ⟨v, scope, (hasWord_map_lowerHex hcase v).1 hu, hscope, by simp⟩

/-- After its two colons, and after `ffff` if that comes next, a mapped address has no letters. -/
theorem IsMapped.exists_rest {w : List Char} (h : IsMapped w) :
    ∃ rest, (∀ c ∈ rest, c ∉ smallLetters) ∧
      (w = "::".toList ++ rest ∨ w = "::ffff".toList ++ rest) := by
  obtain ⟨back, quad, hback, hquad, rfl⟩ := h
  have hnone : PassesNone smallLetters ipv4 := by decide
  have hquadNone : ∀ c ∈ quad, c ∉ smallLetters := fun c hc hletter =>
    hnone.notMem ((hasWord_ipv4 quad).2 hquad) hletter hc
  have hcolonNone : ':' ∉ smallLetters := by decide
  cases hback with
  | compatible => exact ⟨quad, hquadNone, Or.inl (by simp [joined_cons])⟩
  | mapped =>
    refine ⟨':' :: quad, ?_, Or.inr (by simp [joined_cons])⟩
    exact List.forall_mem_cons.2 ⟨hcolonNone, hquadNone⟩
  | @translated zeros hlength hzeros =>
    refine ⟨':' :: zeros ++ ':' :: quad, ?_, Or.inr (by simp [joined_cons])⟩
    have hzerosNone : ∀ c ∈ zeros, c ∉ smallLetters := by
      intro c hc
      rw [hzeros c hc]
      decide
    rw [List.forall_mem_append, List.forall_mem_cons, List.forall_mem_cons]
    exact ⟨⟨hcolonNone, hzerosNone⟩, hcolonNone, hquadNone⟩

/-- A mapped address has no zone and no capital letters. -/
theorem IsMapped.notMem {w : List Char} (h : IsMapped w) {c : Char} (hc : c ∈ '%' :: capitals) :
    c ∉ w := by
  have hnone : PassesNone ('%' :: capitals) mapped := by decide
  exact hnone.notMem ((hasWord_mapped w).2 h) hc

/-- A mapped address is one in lower case that begins with `ffff` after the two colons as it stands,
if it does so in lower case. -/
theorem isMapped_iff (w : List Char) :
    IsMapped w ↔
      ("::ffff".toList <+: lowered w → "::ffff".toList <+: w) ∧ IsMapped (lowered w) := by
  constructor
  · intro h
    have hsame : ∀ c ∈ w, lowerHex c = c := fun c hc => lowerHex_of_notMem fun hcapital =>
      h.notMem (List.mem_cons_of_mem _ hcapital) hc
    rw [lowered_of_notMem (h.notMem (by simp)), map_lowerHex_eq_self hsame]
    exact ⟨id, h⟩
  · rintro ⟨hhead, h⟩
    have hpercent : '%' ∉ w := by
      rw [← percent_mem_lowered]
      exact h.notMem (by simp)
    obtain ⟨rest, hrest, hw⟩ := h.exists_rest
    suffices hsame : w = lowered w by rwa [hsame]
    rw [lowered_of_notMem hpercent] at hhead hw ⊢
    -- Either the text has no letters, or they are the `ffff` that it begins with.
    rcases hw with hw | hw
    · have hcolons : ∀ c ∈ "::".toList, c ∉ smallLetters := by simp [smallLetters]
      have hsame := eq_of_map_lowerHex_eq hw (List.forall_mem_append.2 ⟨hcolons, hrest⟩)
      rw [hw, hsame]
    · obtain ⟨tail, rfl⟩ := hhead (by rw [hw]; exact List.prefix_append _ _)
      have htail : "::ffff".toList ++ tail.map lowerHex = "::ffff".toList ++ rest := by
        rw [← hw, List.map_append]
        rfl
      have hsame := eq_of_map_lowerHex_eq (List.append_cancel_left htail) hrest
      rw [hw, hsame]

/-! ## Which forms a text can have at once -/

/-- A link-local address with a zone has no other form, none of which has a percent sign. -/
theorem IsLinkLocal.not_other {w : List Char} (h : IsLinkLocal w) :
    ¬IsDottedQuad w ∧ ¬(IsFull w ∨ IsCompressed (fun a b => a + b ≤ 7) w) ∧ ¬IsMapped w ∧
      ¬IsEmbedded w := by
  have hmem : '%' ∈ w := by
    obtain ⟨gs, scope, -, -, -, rfl⟩ := h
    simp
  have hquad : PassesNone ['%'] ipv4 := by decide
  have hrows : ∀ r ∈ rowForms, PassesNone ['%'] r := by decide
  have hembedded : PassesNone ['%'] embedded := by decide
  rw [← hasWord_ipv4, ← exists_rowForms_iff, ← hasWord_embedded]
  refine ⟨fun hw => hquad.notMem hw (by simp) hmem, ?_, fun hw => hw.notMem (by simp) hmem,
    fun hw => hembedded.notMem hw (by simp) hmem⟩
  rintro ⟨r, hr, hw⟩
  exact (hrows r hr).notMem hw (by simp) hmem

/-- A mapped address has no other form: it has points and colons, and no group at its head. -/
theorem IsMapped.not_other {w : List Char} (h : IsMapped w) :
    ¬IsDottedQuad w ∧ ¬(IsFull w ∨ IsCompressed (fun a b => a + b ≤ 7) w) ∧ ¬IsLinkLocal w ∧
      ¬IsEmbedded w := by
  have hlinkLocal : ¬IsLinkLocal w := fun hw => hw.not_other.2.2.1 h
  obtain ⟨back, quad, -, hpoint, hw⟩ := h
  have hmem : '.' ∈ w := by
    rw [hw, joined_concat]
    simp [hpoint.point_mem]
  have hcolon : ':' ∈ w := by
    rw [hw]
    simp
  have hquad : PassesNone [':'] ipv4 := by decide
  have hrows : ∀ r ∈ rowForms, PassesNone ['.'] r := by decide
  rw [← hasWord_ipv4, ← exists_rowForms_iff]
  refine ⟨fun hword => hquad.notMem hword (by simp) hcolon, ?_, hlinkLocal, ?_⟩
  · rintro ⟨r, hr, hword⟩
    exact (hrows r hr).notMem hword (by simp) hmem
  · rintro ⟨front, quad', hlength, hfront, -, hw'⟩
    cases front with
    | nil => simp at hlength
    | cons g gs =>
      obtain ⟨hpos, -, hdigits⟩ := hfront g List.mem_cons_self
      cases g with
      | nil => simp at hpos
      | cons c g =>
        have hdigit := hdigits c List.mem_cons_self
        rw [hw', joined_cons] at hw
        obtain rfl : c = ':' := by simpa using congrArg List.head? hw
        exact absurd hdigit (by decide)

end Address

namespace Rules

open Address
open Pattern (TextRegex)

/-! ## The rule -/

/-- What the rule accepts, in terms of the text in lower case. -/
theorem ip_eq_pass_iff_lowered (s : String) (args : Args) :
    ip (some (.string s)) args = .pass ↔ IsDottedQuad (lowered s.toList) ∨
      (args.getSet? "ipv6").any Json.truthy = true ∧
        ((IsFull (lowered s.toList) ∨ IsCompressed (fun a b => a + b ≤ 7) (lowered s.toList)) ∨
          ("fe80".toList <+: s.toList ∧ IsLinkLocal (lowered s.toList)) ∨
          (("::ffff".toList <+: lowered s.toList → "::ffff".toList <+: s.toList) ∧
            IsMapped (lowered s.toList)) ∨
          IsEmbedded (lowered s.toList)) := by
  rw [ip_eq_pass_iff, hasWord_ipv6, ← isDottedQuad_lowered, ← rows_lowered, isLinkLocal_iff,
    isMapped_iff, ← isEmbedded_lowered]

/-- Two texts have the same outcome if both pass or neither does. -/
theorem ip_eq_ip_iff (s t : String) (args : Args) :
    ip (some (.string s)) args = ip (some (.string t)) args ↔
      (ip (some (.string s)) args = .pass ↔ ip (some (.string t)) args = .pass) := by
  rw [ip_string, ip_string, Outcome.ofBool_inj, Outcome.ofBool_eq_pass_iff,
    Outcome.ofBool_eq_pass_iff, Bool.eq_iff_iff]

/-- **The case of hexadecimal digits.**  Of two texts that differ only in the case of hexadecimal
digits before any percent sign, both pass or both fail, unless IPv6 addresses are switched on and
the texts are link-local addresses with a zone, or mapped addresses, of which one begins with `fe80`
or `::ffff` in lower case and the other does not. -/
theorem ip_eq_ip_iff_of_lowered_eq {s t : String} (h : lowered s.toList = lowered t.toList)
    (args : Args) :
    ip (some (.string s)) args = ip (some (.string t)) args ↔
      ((args.getSet? "ipv6").any Json.truthy = true →
        (IsLinkLocal (lowered s.toList) →
          ("fe80".toList <+: s.toList ↔ "fe80".toList <+: t.toList)) ∧
        (IsMapped (lowered s.toList) →
          ("::ffff".toList <+: s.toList ↔ "::ffff".toList <+: t.toList))) := by
  have hprefix {u : String} (hmapped : IsMapped (lowered u.toList))
      (hhead : "::ffff".toList <+: u.toList) : "::ffff".toList <+: lowered u.toList := by
    have hpercent : '%' ∉ u.toList := by
      rw [← percent_mem_lowered]
      exact hmapped.notMem (by simp)
    rw [lowered_of_notMem hpercent]
    exact hhead.map lowerHex
  rw [ip_eq_ip_iff, ip_eq_pass_iff_lowered, ip_eq_pass_iff_lowered, ← h]
  -- Of the forms only two tell capitals from small letters, and a text has one of them at most.
  by_cases hon : (args.getSet? "ipv6").any Json.truthy = true
  · by_cases hlinkLocal : IsLinkLocal (lowered s.toList)
    · obtain ⟨hquad, hrows, hmapped, hembedded⟩ := hlinkLocal.not_other
      simp only [hon, hlinkLocal, hquad, hrows, hmapped, hembedded, true_and, and_true, and_false,
        false_or, or_false, true_imp_iff, false_imp_iff]
    · by_cases hmapped : IsMapped (lowered s.toList)
      · obtain ⟨hquad, hrows, -, hembedded⟩ := hmapped.not_other
        have hs := hprefix hmapped
        have ht := hprefix (u := t) (h ▸ hmapped)
        rw [← h] at ht
        simp only [hon, hlinkLocal, hquad, hrows, hmapped, hembedded, true_and, and_true,
          and_false, false_or, or_false, true_imp_iff, false_imp_iff]
        tauto
      · simp only [hlinkLocal, hmapped, and_false, false_or, false_imp_iff, and_true, imp_true_iff]
  · simp [hon]

/-- In the groups after its head a link-local address has digits in either case. -/
theorem ip_eq_ip_iff_of_lowered_eq_groups :
    lowered "fe80::7:AB%eth0".toList = lowered "fe80::7:aB%eth0".toList ∧
      ip (some (.string "fe80::7:AB%eth0")) (.options [("ipv6", .bool true)]) =
        ip (some (.string "fe80::7:aB%eth0")) (.options [("ipv6", .bool true)]) := by
  have hlowered : lowered "fe80::7:AB%eth0".toList = lowered "fe80::7:aB%eth0".toList := by decide
  refine ⟨hlowered, (ip_eq_ip_iff_of_lowered_eq hlowered _).2 ?_⟩
  intro _
  exact ⟨fun _ => by decide, fun _ => by decide⟩

/-- With capital letters in its first group a link-local address does not pass. -/
theorem ip_eq_fail_of_capitals :
    lowered "fe80::1%a".toList = lowered "FE80::1%a".toList ∧
      ip (some (.string "fe80::1%a")) (.options [("ipv6", .bool true)]) = .pass ∧
      ip (some (.string "FE80::1%a")) (.options [("ipv6", .bool true)]) = .fail := by
  rw [ip_string, ip_string]
  decide +kernel

end Rules

end FieldRules
