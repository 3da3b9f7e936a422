import FieldRules.Proofs.Date.Parts
import Mathlib

/-!
# What a template matches

A text fits a template exactly if it splits into one piece for each item that the template is cut
into, and the pieces of the preferred split are a date (`Format.isMatch_iff_isPreferredSplit`).
-/

set_option autoImplicit false

namespace FieldRules.Date

open Pattern (CharSet Condition Regex TextRegex)
open Pattern.Regex (Found ways andThen stretch)

/-! ## What is noted -/

/-- The stretches of a text that a match notes, with their names. -/
def noted (text : List Char) (x : Found) : List (String × String) :=
  x.captures.map fun (name, start, stop) => (name, String.ofList (stretch text start stop))

section Matching

variable (text : List Char)

/-! ## Items -/

/-- A fragment matches its choices, in order. -/
theorem Token.ways_regex {t : Token} (ht : t.IsSound) (i : Nat) :
    ways CharSet.contains Condition.meets text t.regex i =
      ((Item.token t).choices (text.drop i)).map fun w => ⟨i + w.length, []⟩ := by
  have hshift := Regex.ways_add CharSet.contains Condition.meets text ht.isPlain i 0
  rw [Nat.add_zero] at hshift
  rw [hshift, Item.choices_token ht, List.map_map]
  apply List.map_congr_left
  intro x hx
  have hnone := Regex.notesNothing_ways _ _ _ ht.isPlain 0 x hx
  have hstop := (Regex.advances_ways _ _ _ _ 0 (Nat.zero_le _) x hx).2
  simp only [Regex.shift, hnone, Function.comp_apply, List.length_take, Nat.min_eq_left hstop]

/-- The pattern of an item matches its choices, in order, and notes them. -/
theorem Item.ways_regex {item : Item} (hitem : item.IsLettered) (captured : List Component)
    (i : Nat) :
    ways CharSet.contains Condition.meets text (item.regex captured) i =
      (item.choices (text.drop i)).map fun w =>
        ⟨i + w.length, (item.name? captured).toList.map fun name => (name, i, i + w.length)⟩ := by
  cases item with
  | literal c =>
    rw [regex, choices, name?, ways, List.head?_drop]
    cases text[i]? with
    | none => rfl
    | some d =>
      by_cases hd : d = c
      · simp [hd, CharSet.contains_single_iff]
      · simp [hd, CharSet.contains_single_iff]
  | token t =>
    obtain ⟨c, hc⟩ := hitem
    have hways := Token.ways_regex text (isSound_of_token? hc) i
    cases hgroup : t.group captured with
    | plain flags =>
      have hregex : (Item.token t).regex captured = t.regex := by simp only [regex, hgroup]
      have hname : (Item.token t).name? captured = none := by simp only [name?, hgroup]
      rw [hregex, hname]
      exact hways
    | capture name =>
      have hregex : (Item.token t).regex captured = .capture name t.regex := by
        simp only [regex, hgroup]
      have hname : (Item.token t).name? captured = name := by simp only [name?, hgroup]
      rw [hregex, hname, ways, hways, List.map_map]
      rfl

/-! ## Rows of items -/

namespace Template

/-- A match of an item and then of the others notes the piece and then what the others note. -/
theorem noted_append {i : Nat} {w : List Char} (hw : w <+: text.drop i) (name? : Option String)
    (x : Found) :
    noted text
        (Found.append ⟨i + w.length, name?.toList.map fun name => (name, i, i + w.length)⟩ x) =
      (name?.toList.map fun name => (name, String.ofList w)) ++ noted text x := by
  have hstretch : stretch text i (i + w.length) = w := by
    rw [stretch, Nat.add_sub_cancel_left]
    exact (List.prefix_iff_eq_take.1 hw).symm
  simp [noted, Found.append, hstretch]

/-- The preferred match of what is left of a text takes the pieces of the preferred split, and notes
them. -/
theorem map_noted_find?_ways {items : List Item} (hitems : ∀ item ∈ items, item.IsLettered)
    (captured : List Component) {i : Nat} (hi : i ≤ text.length) :
    ((ways CharSet.contains Condition.meets text (.seqAll (regexes captured items)) i).find?
        (·.stop == text.length)).map (noted text) =
      (preferredSplit? items (text.drop i)).map (notes captured items) := by
  induction items generalizing captured i with
  | nil =>
    rw [regexes, Regex.seqAll, ways, preferredSplit?]
    by_cases hend : i = text.length
    · simp [hend, noted, notes]
    · have hlt : ¬ text.length ≤ i := by omega
      simp [hend, hlt]
  | cons item items ih =>
    obtain ⟨hitem, hrest⟩ := List.forall_mem_cons.1 hitems
    rw [regexes, Regex.ways_seqAll_cons, andThen, Item.ways_regex text hitem, List.find?_flatMap,
      List.findSome?_map, List.map_findSome?, preferredSplit?, List.map_findSome?]
    -- Choice by choice: the others read the rest of the text, with this component captured.
    apply Regex.findSome?_congr
    intro w hw
    obtain ⟨-, hfront⟩ := (Item.mem_choices_iff hitem).1 hw
    have hn := Regex.add_length_le hi hfront
    have hothers := ih hrest (item.capturedAfter captured) hn
    rw [← List.drop_drop] at hothers
    set own := (item.name? captured).toList.map fun name => (name, String.ofList w)
    set found := (ways CharSet.contains Condition.meets text
      (.seqAll (regexes (item.capturedAfter captured) items)) (i + w.length)).find?
        (·.stop == text.length)
    have hown : noted text ∘ Found.append ⟨i + w.length, (item.name? captured).toList.map
        fun name => (name, i, i + w.length)⟩ = (own ++ ·) ∘ noted text :=
      funext (noted_append text hfront (item.name? captured))
    have hnotes : notes captured (item :: items) ∘ (w :: ·) =
        (own ++ ·) ∘ notes (item.capturedAfter captured) items := rfl
    rw [Function.comp_apply, Function.comp_apply, List.find?_map, Option.map_map]
    calc found.map _ = (found.map (noted text)).map (own ++ ·) := by rw [hown, Option.map_map]
      _ = (preferredSplit? items ((text.drop i).drop w.length)).map _ := by
        rw [hothers, Option.map_map, ← hnotes]
      _ = _ := (Option.map_map ..).symm

end Template

end Matching

/-! ## Whole templates -/

namespace Format

open Template (items preferredSplit? notes IsCut IsSplit IsPreferredSplit IsDate)

/-- A format checks what its pattern notes of the preferred split. -/
theorem isMatch_of_compile {template : String} {f : Format} (h : compile template = .ok f)
    (s : String) :
    f.isMatch s = ((preferredSplit? (items template) s.toList).map
      (notes [] (items template))).any isDay := by
  rw [compile_eq] at h
  split at h
  · obtain rfl := Except.ok.inj h
    have hcaptures : Pattern.captures? ⟨Template.source template, Template.regex template⟩ s =
        ((Pattern.locate (Template.regex template) s.toList).first? s.toList.length).map
          (noted s.toList) := rfl
    have hways := Template.map_noted_find?_ways s.toList (Template.isLettered_of_mem_items template)
      [] (Nat.zero_le _)
    rw [isMatch, hcaptures, Template.regex, TextRegex.first?_anchored, hways, List.drop_zero]
  · cases h

/-- **What a template matches.**  A template that does not take too much room is compiled.  It is
cut into items in one way, and a text matches it exactly if it splits into one piece for each item
and the pieces of the preferred split are a date.  There is one preferred split as soon as there is
any split. -/
theorem isMatch_iff_isPreferredSplit (template : String)
    (h : compile template ≠ .error .tooLarge) :
    ∃ f cut, compile template = .ok f ∧
      (∀ other, IsCut template.toList other ↔ other = cut) ∧
      ∀ s : String,
        (f.isMatch s = true ↔ ∃ pieces, IsPreferredSplit cut s.toList pieces ∧ IsDate cut pieces) ∧
        ((∃ pieces, IsSplit cut s.toList pieces) →
          ∃! pieces, IsPreferredSplit cut s.toList pieces) := by
  have hitems := Template.isLettered_of_mem_items template
  obtain ⟨f, hf⟩ := exists_compile_eq_ok h
  refine ⟨f, items template, hf, fun other => Template.isCut_iff, fun s => ⟨?_, ?_⟩⟩
  · rw [isMatch_of_compile hf]
    constructor
    · intro hmatch
      obtain ⟨noted, hnoted, hdate⟩ := (Option.any_eq_true _ _).1 hmatch
      obtain ⟨pieces, hfound, rfl⟩ := Option.map_eq_some_iff.1 hnoted
      have hpreferred := (Template.preferredSplit?_eq_some_iff hitems).1 hfound
      exact ⟨pieces, hpreferred, (Template.isDay_notes_iff hitems hpreferred.isSplit).1 hdate⟩
    · rintro ⟨pieces, hpreferred, hdate⟩
      rw [(Template.preferredSplit?_eq_some_iff hitems).2 hpreferred]
      exact (Template.isDay_notes_iff hitems hpreferred.isSplit).2 hdate
  · rintro ⟨pieces, hsplit⟩
    obtain ⟨preferred, hfound⟩ := Option.isSome_iff_exists.1
      (Template.preferredSplit?_isSome_of_isSplit hitems hsplit)
    refine ⟨preferred, (Template.preferredSplit?_eq_some_iff hitems).1 hfound, ?_⟩
    intro other hother
    have hother := (Template.preferredSplit?_eq_some_iff hitems).2 hother
    exact Option.some.inj (hother.symm.trans hfound)

/-- The template of day and month takes the leap day, of a year that it does not name. -/
theorem isMatch_iff_isPreferredSplit_leap_day :
    ∃ f, compile "j.n" = .ok f ∧ f.isMatch "29.2" = true := by
  have hregex : Template.regex "j.n" = TextRegex.anchored (.seqAll
      [.capture (some "day") (.altAll .empty [.step (.range '1' '9'),
        .seqAll [.step (.unions [.single '1', .single '2']), .step (.range '0' '9')],
        .seqAll [.step (.single '3'), .step (.unions [.single '0', .single '1'])]]),
      .step (.single '.'),
      .capture (some "month") (.altAll .empty [.step (.range '1' '9'),
        .seqAll [.step (.single '1'), .step (.range '0' '2')]])]) := rfl
  have hfits : TextRegex.fits (Template.regex "j.n") = true := by
    rw [hregex]
    cbv
  have hsize : compile "j.n" ≠ .error .tooLarge := by
    rw [compile_eq, hfits]
    rintro ⟨⟩
  obtain ⟨f, cut, hf, hcut, hmatch⟩ := isMatch_iff_isPreferredSplit "j.n" hsize
  obtain rfl : items "j.n" = cut := (hcut _).1 (Template.isCut_iff.2 rfl)
  have hfound : preferredSplit? (items "j.n") "29.2".toList = some [['2', '9'], ['.'], ['2']] := by
    decide +kernel
  have hitems := Template.isLettered_of_mem_items "j.n"
  have hpreferred := (Template.preferredSplit?_eq_some_iff hitems).1 hfound
  have hdate : IsDate (items "j.n") [['2', '9'], ['.'], ['2']] :=
    Or.inr (Or.inr ⟨['2', '9'], 2, by decide +kernel⟩)
  exact ⟨f, hf, (hmatch "29.2").1.2 ⟨_, hpreferred, hdate⟩⟩

end Format

end FieldRules.Date
