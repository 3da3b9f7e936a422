import FieldRules.Proofs.Date.Split
import Mathlib.Data.List.Forall2

/-!
# The date that a split names

The pieces of the first day, month and year of a template name a day, which has to be one of the
calendar (`Template.IsDate`).  What the pattern of the template captures says the same
(`Template.isDay_notes_iff`).
-/

set_option autoImplicit false

namespace FieldRules.Date

open Pattern (CharSet Regex TextRegex)

namespace Template

/-! ## Parts of a date -/

/-- Whether some token of a template gives a component. -/
def HasComponent (k : Component) (items : List Item) : Prop :=
  ∃ t, Item.token t ∈ items ∧ t.component = some k

/-- The piece of the first token that gives a component. -/
def firstPiece? (k : Component) : List Item → List (List Char) → Option (List Char)
  | .token t :: items, piece :: pieces =>
    if t.component = some k then some piece else firstPiece? k items pieces
  | .literal _ :: items, _ :: pieces => firstPiece? k items pieces
  | _, _ => none

/-- The number of the month with a name, in full or by its first three letters. -/
def monthOfName? (name : List Char) : Option Nat :=
  (Calendar.monthNames.findIdx? fun full =>
    name == full.toList || name == full.toList.take 3).map (· + 1)

/-- The month, by its number or else by its name. -/
def month? (items : List Item) (pieces : List (List Char)) : Option Nat :=
  match firstPiece? .month items pieces with
  | some month => some (Text.numeralValue month)
  | none => (firstPiece? .monthName items pieces).bind monthOfName?

/-- The year, or else the short year from 2000 on, or else 2000. -/
def year (items : List Item) (pieces : List (List Char)) : Nat :=
  match firstPiece? .year items pieces with
  | some year => Text.numeralValue year
  | none =>
    match firstPiece? .shortYear items pieces with
    | some year => 2000 + Text.numeralValue year
    | none => 2000

/-- Whether the pieces of a split name a day of the calendar, as far as the template has a day and a
month. -/
def IsDate (items : List Item) (pieces : List (List Char)) : Prop :=
  ¬ HasComponent .day items ∨
    (¬ HasComponent .month items ∧ ¬ HasComponent .monthName items) ∨
      ∃ day month, firstPiece? .day items pieces = some day ∧ month? items pieces = some month ∧
        Calendar.isDay (year items pieces) month (Text.numeralValue day) = true

end Template

/-! ## What is noted -/

/-- The name under which the pattern of an item notes a piece, if it does. -/
def Item.name? (captured : List Component) : Item → Option String
  | .token t =>
    match t.group captured with
    | .plain _ => none
    | .capture name => name
  | .literal _ => none

/-- What the pattern of a template notes of the pieces of a split. -/
def Template.notes (captured : List Component) :
    List Item → List (List Char) → List (String × String)
  | item :: items, piece :: pieces =>
    ((item.name? captured).toList.map fun name => (name, String.ofList piece)) ++
      notes (item.capturedAfter captured) items pieces
  | _, _ => []

namespace Template

/-- The piece of a component is noted under the name of its group, once. -/
theorem lookup_notes (k : Component) (items : List Item) (captured : List Component)
    (pieces : List (List Char)) :
    (notes captured items pieces).lookup k.group =
      if k ∈ captured then none else (firstPiece? k items pieces).map String.ofList := by
  induction items generalizing captured pieces with
  | nil => simp [notes, firstPiece?]
  | cons item items ih =>
    cases pieces with
    | nil => cases item <;> simp [notes, firstPiece?]
    | cons piece pieces =>
      cases item with
      | literal c => exact ih captured pieces
      | token t =>
        rw [notes, firstPiece?, Item.name?, Item.capturedAfter]
        obtain ⟨k', hcomponent, hfree, hgroup, hpattern⟩ | ⟨hcaptured, hgroup, hpattern⟩ :=
          group_cases captured t
        · rw [hgroup, hpattern]
          -- Captured here for the first time, so this piece is the one that is found.
          by_cases hk : k' = k
          · subst hk
            simp [hcomponent, hfree]
          · have hname : (k.group == k'.group) = false :=
              beq_false_of_ne fun h => hk (Component.group_injective h).symm
            simp [List.lookup_cons, hcomponent, hk, Ne.symm hk, hname, ih]
        · rw [hgroup, hpattern]
          by_cases hk : t.component = some k
          · simp [ih, hcaptured k hk]
          · simp [ih, hk]

/-! ## First pieces -/

/-- The first piece of a component is that of a token that gives the component. -/
theorem exists_of_firstPiece? {R : Item → List Char → Prop} {k : Component} {items : List Item}
    {pieces : List (List Char)} (h : List.Forall₂ R items pieces) {piece : List Char}
    (hpiece : firstPiece? k items pieces = some piece) :
    ∃ t, Item.token t ∈ items ∧ t.component = some k ∧ R (.token t) piece := by
  induction h with
  | nil => cases hpiece
  | @cons item first items pieces hfirst _ ih =>
    have hrest (hpiece : firstPiece? k items pieces = some piece) :
        ∃ t, Item.token t ∈ item :: items ∧ t.component = some k ∧ R (.token t) piece :=
      (ih hpiece).imp fun t ht => ⟨List.mem_cons_of_mem _ ht.1, ht.2⟩
    cases item with
    | literal c => exact hrest hpiece
    | token t =>
      rw [firstPiece?] at hpiece
      split at hpiece
      · rename_i hk
        obtain rfl := Option.some.inj hpiece
        exact ⟨t, List.mem_cons_self, hk, hfirst⟩
      · exact hrest hpiece

/-- A component has a first piece if and only if a token gives it. -/
theorem firstPiece?_eq_none_iff {R : Item → List Char → Prop} {k : Component} {items : List Item}
    {pieces : List (List Char)} (h : List.Forall₂ R items pieces) :
    firstPiece? k items pieces = none ↔ ¬ HasComponent k items := by
  induction h with
  | nil => simp [firstPiece?, HasComponent]
  | @cons item piece items pieces _ _ ih =>
    cases item with
    | literal c => simpa [firstPiece?, HasComponent] using ih
    | token t =>
      rw [firstPiece?]
      split
      · rename_i hk
        have hhas : HasComponent k (.token t :: items) := ⟨t, List.mem_cons_self, hk⟩
        simpa using hhas
      · rename_i hk
        have hrest : HasComponent k (.token t :: items) ↔ HasComponent k items := by
          simp [HasComponent, hk]
        rw [ih, hrest]

/-- A component with a first piece is given by a token. -/
theorem hasComponent_of_firstPiece? {k : Component} {items : List Item}
    {pieces : List (List Char)} {piece : List Char}
    (h : firstPiece? k items pieces = some piece) : HasComponent k items := by
  fun_induction firstPiece? k items pieces with
  | case1 t items piece pieces hk => exact ⟨t, List.mem_cons_self, hk⟩
  | case2 t items piece pieces hk ih =>
    exact (ih h).imp fun t ht => ⟨List.mem_cons_of_mem _ ht.1, ht.2⟩
  | case3 c items piece pieces ih =>
    exact (ih h).imp fun t ht => ⟨List.mem_cons_of_mem _ ht.1, ht.2⟩
  | case4 => cases h

/-- With a day and the number of a month, the pieces are a date if and only if the calendar has the
day. -/
theorem isDate_iff_of_firstPiece? {items : List Item} {pieces : List (List Char)}
    {day month : List Char} (hday : firstPiece? .day items pieces = some day)
    (hmonth : firstPiece? .month items pieces = some month) :
    IsDate items pieces ↔ Calendar.isDay (year items pieces) (Text.numeralValue month)
      (Text.numeralValue day) = true := by
  have hnumber : month? items pieces = some (Text.numeralValue month) := by rw [month?, hmonth]
  constructor
  · rintro (hnone | ⟨hnone, -⟩ | ⟨_, _, hday', hmonth', hdate⟩)
    · exact absurd (hasComponent_of_firstPiece? hday) hnone
    · exact absurd (hasComponent_of_firstPiece? hmonth) hnone
    · obtain rfl := Option.some.inj (hday.symm.trans hday')
      obtain rfl := Option.some.inj (hnumber.symm.trans hmonth')
      exact hdate
  · intro hdate
    exact Or.inr (Or.inr ⟨day, _, hday, hnumber, hdate⟩)

end Template

/-! ## Names of months -/

/-- The names of months are read as they are, in full or by their first three letters. -/
theorem regex_of_monthName {c : Char} {t : Token} (h : token? c = some t)
    (hcomponent : t.component = some .monthName) :
    t.regex = Regex.ofWords CharSet.single (Calendar.monthNames.map String.toList) ∨
      t.regex = Regex.ofWords CharSet.single (Calendar.monthNames.map (·.toList.take 3)) := by
  unfold token? at h
  split at h <;> cases h <;> cases hcomponent
  · left
    rfl
  · right
    rfl

/-- A name of a month is that of one month. -/
theorem monthNamed?_of_isWord {c : Char} {t : Token} (h : token? c = some t)
    (hcomponent : t.component = some .monthName) {w : List Char} (hw : t.IsWord w) :
    ∃ month, Template.monthOfName? w = some month ∧
      Calendar.monthNamed? (String.ofList w) = some month := by
  have hnames : ∃ name ∈ Calendar.monthNames, w = name.toList ∨ w = name.toList.take 3 := by
    rw [Token.isWord_iff (isSound_of_token? h)] at hw
    rcases regex_of_monthName h hcomponent with hregex | hregex
    · rw [hregex, Regex.isWord_ofWords CharSet.contains_single_iff (by decide), List.mem_map] at hw
      obtain ⟨name, hname, rfl⟩ := hw
      exact ⟨name, hname, Or.inl rfl⟩
    · rw [hregex, Regex.isWord_ofWords CharSet.contains_single_iff (by decide), List.mem_map] at hw
      obtain ⟨name, hname, rfl⟩ := hw
      exact ⟨name, hname, Or.inr rfl⟩
  have hmonths : ∀ name ∈ Calendar.monthNames, ∀ w ∈ [name.toList, name.toList.take 3],
      Template.monthOfName? w = Calendar.monthNamed? (String.ofList w) ∧
        (Template.monthOfName? w).isSome := by decide
  obtain ⟨name, hname, hw⟩ := hnames
  obtain ⟨heq, hsome⟩ := hmonths name hname w (by simpa using hw)
  obtain ⟨month, hmonth⟩ := Option.isSome_iff_exists.1 hsome
  exact ⟨month, hmonth, heq ▸ hmonth⟩

/-! ## The date -/

namespace Template

/-- What is checked of the noted pieces, in terms of the first pieces. -/
theorem isDay_notes (items : List Item) (pieces : List (List Char)) :
    Format.isDay (notes [] items pieces) =
      match (firstPiece? .day items pieces).map Text.numeralValue with
      | none => true
      | some day =>
        match (firstPiece? .month items pieces).map Text.numeralValue <|>
          (firstPiece? .monthName items pieces).bind fun name =>
            Calendar.monthNamed? (String.ofList name) with
        | none => true
        | some month => Calendar.isDay (year items pieces) month day := by
  have htext (k : Component) : (notes [] items pieces).lookup k.group =
      (firstPiece? k items pieces).map String.ofList := by
    rw [lookup_notes, if_neg List.not_mem_nil]
  have hnumber (k : Component) :
      ((firstPiece? k items pieces).map String.ofList).map (fun s => Text.numeralValue s.toList) =
        (firstPiece? k items pieces).map Text.numeralValue := by
    simp [Function.comp_def]
  have hyear : ((firstPiece? .year items pieces).map Text.numeralValue <|>
      ((firstPiece? .shortYear items pieces).map Text.numeralValue).map (2000 + ·)).getD 2000 =
        year items pieces := by
    unfold year
    cases firstPiece? .year items pieces with
    | some piece => rfl
    | none => cases firstPiece? .shortYear items pieces <;> rfl
  simp only [Format.isDay, htext, hnumber, hyear, Option.bind_map]
  rfl

section Split

variable {items : List Item} {text : List Char} {pieces : List (List Char)}

/-- The piece of a name of a month is one. -/
theorem month?_of_monthName (hitems : ∀ item ∈ items, item.IsLettered)
    (h : IsSplit items text pieces) {name : List Char}
    (hname : firstPiece? .monthName items pieces = some name) :
    ∃ month, monthOfName? name = some month ∧
      Calendar.monthNamed? (String.ofList name) = some month := by
  obtain ⟨t, ht, hcomponent, hword⟩ := exists_of_firstPiece? h.1 hname
  obtain ⟨c, hc⟩ := hitems (.token t) ht
  exact monthNamed?_of_isWord hc hcomponent hword

/-- There is a month if and only if a token gives one. -/
theorem month?_eq_none_iff (hitems : ∀ item ∈ items, item.IsLettered)
    (h : IsSplit items text pieces) :
    month? items pieces = none ↔
      ¬ HasComponent .month items ∧ ¬ HasComponent .monthName items := by
  have hnumber : firstPiece? .month items pieces = none ↔ ¬ HasComponent .month items :=
    firstPiece?_eq_none_iff h.1
  have hname : firstPiece? .monthName items pieces = none ↔ ¬ HasComponent .monthName items :=
    firstPiece?_eq_none_iff h.1
  rw [← hnumber, ← hname, month?]
  cases hmonth : firstPiece? .month items pieces with
  | some month => simp
  | none =>
    cases hmonthName : firstPiece? .monthName items pieces with
    | none => simp
    | some name =>
      obtain ⟨month, hmonth, -⟩ := month?_of_monthName hitems h hmonthName
      simp [hmonth]

/-- The month is that which the check finds. -/
theorem month?_eq (hitems : ∀ item ∈ items, item.IsLettered) (h : IsSplit items text pieces) :
    month? items pieces = ((firstPiece? .month items pieces).map Text.numeralValue <|>
      (firstPiece? .monthName items pieces).bind fun name =>
        Calendar.monthNamed? (String.ofList name)) := by
  rw [month?]
  cases firstPiece? .month items pieces with
  | some month => rfl
  | none =>
    cases hmonthName : firstPiece? .monthName items pieces with
    | none => rfl
    | some name =>
      obtain ⟨month, hmonth, hnamed⟩ := month?_of_monthName hitems h hmonthName
      simp [hmonth, hnamed]

/-- What the pattern notes of a split is a date if and only if the pieces are. -/
theorem isDay_notes_iff (hitems : ∀ item ∈ items, item.IsLettered)
    (h : IsSplit items text pieces) :
    Format.isDay (notes [] items pieces) = true ↔ IsDate items pieces := by
  have hday : firstPiece? .day items pieces = none ↔ ¬ HasComponent .day items :=
    firstPiece?_eq_none_iff h.1
  rw [isDay_notes, ← month?_eq hitems h, IsDate, ← hday, ← month?_eq_none_iff hitems h]
  cases firstPiece? .day items pieces with
  | none => simp
  | some day => cases month? items pieces <;> simp

end Split

end Template

end FieldRules.Date
