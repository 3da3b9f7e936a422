import FieldRules.Proofs.Date.Compile

/-!
# Splits of a text

A text splits into one piece for each item of a template: the character of a literal, a word of the
fragment of a token.  Among several splits one is preferred: the first item tries its pieces in the
order in which its fragment matches them, then the next item does, and so on.
-/

set_option autoImplicit false

namespace FieldRules.Date

open Pattern (CharSet Condition Regex TextRegex)

/-! ## Pieces -/

/-- Whether a text is a word of a fragment. -/
def Token.IsWord (t : Token) (w : List Char) : Prop :=
  ∃ r, t.expression = .ok r ∧ r.IsWord CharSet.contains w

/-- Whether a piece of a text fits an item. -/
def Item.Fits : Item → List Char → Prop
  | .token t, w => t.IsWord w
  | .literal c, w => w = [c]

/-- The pieces at the head of a text that fit an item, in the order of preference. -/
def Item.choices : Item → List Char → List (List Char)
  | .token t, text =>
    match t.expression with
    | .ok r => (r.ways CharSet.contains Condition.meets text 0).map fun x => text.take x.stop
    | .error _ => []
  | .literal c, text => if text.head? = some c then [[c]] else []

/-- The words of a sound fragment are those of its expression. -/
theorem Token.isWord_iff {t : Token} (ht : t.IsSound) {w : List Char} :
    t.IsWord w ↔ t.regex.IsWord CharSet.contains w := by
  simp [IsWord, ht.expression_eq]

/-- The choices of a sound token are the ways in which its expression matches. -/
theorem Item.choices_token {t : Token} (ht : t.IsSound) (text : List Char) :
    (Item.token t).choices text =
      (t.regex.ways CharSet.contains Condition.meets text 0).map fun x => text.take x.stop := by
  simp only [choices, ht.expression_eq]

/-- The choices are the heads of the text that fit. -/
theorem Item.mem_choices_iff {item : Item} (hitem : item.IsLettered) {text w : List Char} :
    w ∈ item.choices text ↔ item.Fits w ∧ w <+: text := by
  cases item with
  | literal c =>
    cases text with
    | nil => simp +contextual [choices, Fits]
    | cons d rest =>
      rw [choices, Fits, List.head?_cons]
      split
      · rename_i h
        obtain rfl := Option.some.inj h
        simp +contextual
      · rename_i h
        have hne : c ≠ d := fun hcd => h (by rw [hcd])
        simp +contextual [hne]
  | token t =>
    obtain ⟨c, hc⟩ := hitem
    have ht := isSound_of_token? hc
    -- The choices of a token are what its expression matches, in the order of preference.
    rw [choices_token ht, Fits, Token.isWord_iff ht, List.mem_map]
    constructor
    · rintro ⟨x, hx, rfl⟩
      have hword := Regex.isWord_of_mem_ways _ _ _ ht.isPlain (Nat.zero_le _) hx
      exact ⟨hword, List.take_prefix _ _⟩
    · rintro ⟨hword, hfront⟩
      obtain ⟨x, hx, hstop⟩ := Regex.exists_mem_ways CharSet.contains Condition.meets text
        ht.isPlain (Nat.zero_le _) hfront hword
      refine ⟨x, hx, ?_⟩
      rw [hstop, Nat.zero_add]
      exact (List.prefix_iff_eq_take.1 hfront).symm

namespace Template

/-! ## Splits -/

/-- Whether pieces are a split of a text for several items. -/
def IsSplit (items : List Item) (text : List Char) (pieces : List (List Char)) : Prop :=
  List.Forall₂ Item.Fits items pieces ∧ pieces.flatten = text

/-- Whether, at the first item at which two splits differ, the first split has the piece that is
preferred. -/
def IsBefore : List Item → List Char → List (List Char) → List (List Char) → Prop
  | item :: items, text, piece :: pieces, other :: others =>
    (item.choices text).idxOf piece < (item.choices text).idxOf other ∨
      piece = other ∧ IsBefore items (text.drop piece.length) pieces others
  | _, _, _, _ => False

/-- Whether a split is preferred to all others. -/
structure IsPreferredSplit (items : List Item) (text : List Char) (pieces : List (List Char)) :
    Prop where
  isSplit : IsSplit items text pieces
  isBefore : ∀ others, IsSplit items text others → others ≠ pieces →
    IsBefore items text pieces others

/-- The preferred split: each item takes its first choice after which the others can go on. -/
def preferredSplit? : List Item → List Char → Option (List (List Char))
  | [], text => if text.isEmpty then some [] else none
  | item :: items, text =>
    (item.choices text).findSome? fun piece =>
      (preferredSplit? items (text.drop piece.length)).map (piece :: ·)

/-- Without items only the empty text splits, into no pieces. -/
theorem isSplit_nil_iff {text : List Char} {pieces : List (List Char)} :
    IsSplit [] text pieces ↔ pieces = [] ∧ text = [] := by
  constructor
  · rintro ⟨hfits, rfl⟩
    cases hfits
    exact ⟨rfl, rfl⟩
  · rintro ⟨rfl, rfl⟩
    exact ⟨List.Forall₂.nil, rfl⟩

/-- A split is a choice of the first item and a split of what is left. -/
theorem isSplit_cons_iff {item : Item} (hitem : item.IsLettered) {items : List Item}
    {text : List Char} {pieces : List (List Char)} :
    IsSplit (item :: items) text pieces ↔
      ∃ piece rest, pieces = piece :: rest ∧ piece ∈ item.choices text ∧
        IsSplit items (text.drop piece.length) rest := by
  constructor
  · rintro ⟨hfits, rfl⟩
    cases hfits with
    | cons hpiece hrest =>
      rename_i piece rest
      refine ⟨piece, rest, rfl, (Item.mem_choices_iff hitem).2 ⟨hpiece, ?_⟩, hrest, ?_⟩
      · exact List.prefix_append piece rest.flatten
      · rw [List.flatten_cons, List.drop_left]
  · rintro ⟨piece, rest, rfl, hchoice, hrest, hflatten⟩
    obtain ⟨hpiece, hfront⟩ := (Item.mem_choices_iff hitem).1 hchoice
    refine ⟨List.Forall₂.cons hpiece hrest, ?_⟩
    rw [List.flatten_cons, hflatten]
    exact List.prefix_iff_eq_append.1 hfront

/-- The search finds something if there is a split. -/
theorem preferredSplit?_isSome_of_isSplit {items : List Item}
    (hitems : ∀ item ∈ items, item.IsLettered) {text : List Char} {pieces : List (List Char)}
    (h : IsSplit items text pieces) : (preferredSplit? items text).isSome := by
  induction items generalizing text pieces with
  | nil =>
    obtain ⟨-, rfl⟩ := isSplit_nil_iff.1 h
    rfl
  | cons item items ih =>
    obtain ⟨hitem, hrest⟩ := List.forall_mem_cons.1 hitems
    obtain ⟨piece, rest, -, hchoice, hsplit⟩ := (isSplit_cons_iff hitem).1 h
    rw [preferredSplit?, List.findSome?_isSome_iff]
    exact ⟨piece, hchoice, by rw [Option.isSome_map, ih hrest hsplit]⟩

/-- An element before another in a list comes first. -/
theorem idxOf_lt_idxOf_of_append {α : Type} [BEq α] [LawfulBEq α] {before after : List α} {x y : α}
    (hx : x ∉ before) (hy : y ∉ before) (hne : y ≠ x) :
    (before ++ x :: after).idxOf x < (before ++ x :: after).idxOf y := by
  rw [List.idxOf_append_of_notMem hx, List.idxOf_append_of_notMem hy, List.idxOf_cons_self,
    List.idxOf_cons_ne _ hne.symm]
  omega

/-- What the search finds is a split that is preferred to all others. -/
theorem isPreferredSplit_of_preferredSplit? {items : List Item}
    (hitems : ∀ item ∈ items, item.IsLettered) {text : List Char} {pieces : List (List Char)}
    (h : preferredSplit? items text = some pieces) : IsPreferredSplit items text pieces := by
  induction items generalizing text pieces with
  | nil =>
    rw [preferredSplit?] at h
    split at h
    · rename_i hempty
      cases h
      have hnil := isSplit_nil_iff.2 ⟨rfl, List.isEmpty_iff.1 hempty⟩
      exact ⟨hnil, fun others hothers hne => absurd (isSplit_nil_iff.1 hothers).1 hne⟩
    · cases h
  | cons item items ih =>
    obtain ⟨hitem, hrest⟩ := List.forall_mem_cons.1 hitems
    rw [preferredSplit?, List.findSome?_eq_some_iff] at h
    obtain ⟨before, piece, after, hchoices, hpiece, hbefore⟩ := h
    obtain ⟨rest, hfound, rfl⟩ := Option.map_eq_some_iff.1 hpiece
    obtain ⟨hsplit, hfirst⟩ := ih hrest hfound
    have hchoice : piece ∈ item.choices text := by
      rw [hchoices]
      exact List.mem_append_right _ List.mem_cons_self
    refine ⟨(isSplit_cons_iff hitem).2 ⟨piece, rest, rfl, hchoice, hsplit⟩, ?_⟩
    intro others hothers hne
    obtain ⟨other, rest', rfl, hother, hsplit'⟩ := (isSplit_cons_iff hitem).1 hothers
    -- A choice after which the others can go on is not among those that were given up.
    have hkept {w : List Char} {ws : List (List Char)}
        (hw : IsSplit items (text.drop w.length) ws) : w ∉ before := by
      intro hmem
      have hsome := preferredSplit?_isSome_of_isSplit hrest hw
      rw [Option.map_eq_none_iff.1 (hbefore w hmem)] at hsome
      cases hsome
    by_cases hsame : other = piece
    · subst hsame
      have hne' : rest' ≠ rest := fun heq => hne (by rw [heq])
      exact Or.inr ⟨rfl, hfirst rest' hsplit' hne'⟩
    · left
      rw [hchoices]
      exact idxOf_lt_idxOf_of_append (hkept hsplit) (hkept hsplit') hsame

/-- Of two splits not both come before the other. -/
theorem IsBefore.asymm {items : List Item} {text : List Char} {pieces others : List (List Char)}
    (h : IsBefore items text pieces others) : ¬ IsBefore items text others pieces := by
  fun_induction IsBefore items text pieces others with
  | case1 item items text piece pieces other others ih =>
    intro h'
    rcases h with hlt | ⟨rfl, hrest⟩
    · rcases h' with hlt' | ⟨rfl, -⟩
      · omega
      · exact absurd hlt (lt_irrefl _)
    · rcases h' with hlt | ⟨-, hrest'⟩
      · exact absurd hlt (lt_irrefl _)
      · exact ih hrest hrest'
  | case2 => exact h.elim

/-- The search finds the preferred split. -/
theorem preferredSplit?_eq_some_iff {items : List Item}
    (hitems : ∀ item ∈ items, item.IsLettered) {text : List Char} {pieces : List (List Char)} :
    preferredSplit? items text = some pieces ↔ IsPreferredSplit items text pieces := by
  refine ⟨isPreferredSplit_of_preferredSplit? hitems, ?_⟩
  intro h
  obtain ⟨found, hfound⟩ :=
    Option.isSome_iff_exists.1 (preferredSplit?_isSome_of_isSplit hitems h.isSplit)
  have hpreferred := isPreferredSplit_of_preferredSplit? hitems hfound
  by_cases hsame : found = pieces
  · rw [hfound, hsame]
  · exact absurd (hpreferred.isBefore pieces h.isSplit (Ne.symm hsame))
      (h.isBefore found hpreferred.isSplit hsame).asymm

end Template

end FieldRules.Date
