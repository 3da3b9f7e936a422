import FieldRules.Proofs.Date.Match

/-!
# Templates of fixed widths

If all texts that fit an item have the same length, for each item of a template, then a text splits
in one way at most (`Template.IsSplit.eq`) and no preference matters: it fits the template exactly
if it has a split whose pieces are a date (`Format.isMatch_iff_isSplit`).
-/

set_option autoImplicit false

namespace FieldRules.Date

open Pattern (Regex)

/-- The length that all texts that fit an item have, if it can be read off the item. -/
def Item.width? : Item → Option Nat
  | .token t => t.regex.width?
  | .literal _ => some 1

/-- All texts that fit an item of a fixed width have this length. -/
theorem Item.Fits.length_eq {item : Item} (hitem : item.IsLettered) {n : Nat}
    (hwidth : item.width? = some n) {w : List Char} (h : item.Fits w) : w.length = n := by
  cases item with
  | literal c =>
    obtain rfl := Option.some.inj hwidth
    obtain rfl : w = [c] := h
    rfl
  | token t =>
    obtain ⟨c, hc⟩ := hitem
    rw [Fits, Token.isWord_iff (isSound_of_token? hc)] at h
    exact Regex.length_of_isWord hwidth h

namespace Template

variable {items : List Item} {text : List Char} {pieces others : List (List Char)}

/-- Two rows of pieces with the same text are the same. -/
theorem eq_of_flatten_eq (hitems : ∀ item ∈ items, item.IsLettered)
    (hwidths : ∀ item ∈ items, item.width?.isSome) (h : List.Forall₂ Item.Fits items pieces)
    (hothers : List.Forall₂ Item.Fits items others) (htext : pieces.flatten = others.flatten) :
    pieces = others := by
  induction h generalizing others with
  | nil =>
    cases hothers
    rfl
  | cons hpiece _ ih =>
    cases hothers with
    | cons hother hothers =>
      obtain ⟨hitem, hitems⟩ := List.forall_mem_cons.1 hitems
      obtain ⟨hwidth, hwidths⟩ := List.forall_mem_cons.1 hwidths
      obtain ⟨n, hn⟩ := Option.isSome_iff_exists.1 hwidth
      rw [List.flatten_cons, List.flatten_cons] at htext
      have hlength := (hpiece.length_eq hitem hn).trans (hother.length_eq hitem hn).symm
      obtain ⟨rfl, hrest⟩ := List.append_inj htext hlength
      rw [ih hitems hwidths hothers hrest]

/-- A text has one split at most. -/
theorem IsSplit.eq (hitems : ∀ item ∈ items, item.IsLettered)
    (hwidths : ∀ item ∈ items, item.width?.isSome) (h : IsSplit items text pieces)
    (hothers : IsSplit items text others) : pieces = others :=
  eq_of_flatten_eq hitems hwidths h.1 hothers.1 (h.2.trans hothers.2.symm)

/-- The search finds the only split. -/
theorem preferredSplit?_eq_some_iff_isSplit (hitems : ∀ item ∈ items, item.IsLettered)
    (hwidths : ∀ item ∈ items, item.width?.isSome) :
    preferredSplit? items text = some pieces ↔ IsSplit items text pieces := by
  constructor
  · intro h
    exact (isPreferredSplit_of_preferredSplit? hitems h).isSplit
  · intro h
    obtain ⟨found, hfound⟩ :=
      Option.isSome_iff_exists.1 (preferredSplit?_isSome_of_isSplit hitems h)
    have hsplit := (isPreferredSplit_of_preferredSplit? hitems hfound).isSplit
    rw [hfound, hsplit.eq hitems hwidths h]

end Template

open Template (items IsSplit IsDate)

/-- A text fits a template of fixed widths exactly if it has a split whose pieces are a date. -/
theorem Format.isMatch_iff_isSplit {template : String} {f : Format}
    (h : Format.compile template = .ok f)
    (hwidths : ∀ item ∈ items template, item.width?.isSome) (s : String) :
    f.isMatch s = true ↔
      ∃ pieces, IsSplit (items template) s.toList pieces ∧ IsDate (items template) pieces := by
  have hitems := Template.isLettered_of_mem_items template
  rw [isMatch_of_compile h, Option.any_map, Option.any_eq_true]
  constructor
  · rintro ⟨pieces, hfound, hdate⟩
    have hsplit := (Template.preferredSplit?_eq_some_iff_isSplit hitems hwidths).1 hfound
    exact ⟨pieces, hsplit, (Template.isDay_notes_iff hitems hsplit).1 hdate⟩
  · rintro ⟨pieces, hsplit, hdate⟩
    have hfound := (Template.preferredSplit?_eq_some_iff_isSplit hitems hwidths).2 hsplit
    exact ⟨pieces, hfound, (Template.isDay_notes_iff hitems hsplit).2 hdate⟩

end FieldRules.Date
