import FieldRules.Proofs.Date.Parts
import Mathlib.Algebra.Group.Nat.Even

/-!
# Templates one after the other

A template is compiled from left to right, and what it has captured so far is all that the pattern
of the rest depends on.  So two templates in a row have the patterns of both in a row, the second
one compiled with what the first one has captured, unless the first one ends with a backslash that
escapes the first character of the second (`Template.itemsWith_append`).  In particular a letter
that stands for several may be written out wherever it stands
(`Template.body_append_and_composites`).
-/

set_option autoImplicit false

namespace FieldRules.Date.Template

/-- What a template is compiled to and the components captured after it, some being captured
before. -/
def body (captured : List Component) (template : String) : List Char × List Component :=
  let d := push template.toList ⟨"", captured⟩
  (d.pattern.toList, d.captured)

/-- A template is compiled to the patterns of its items. -/
theorem body_eq (captured : List Component) (template : String) :
    body captured template = itemPatterns captured (items template) := by
  rw [body, push_eq, String.empty_append, String.toList_ofList, items]

/-- The number of backslashes at the end of a text. -/
def trailingBackslashes (cs : List Char) : Nat :=
  (cs.reverse.takeWhile (· == '\\')).length

/-- Whether a template ends outside of an escape: backslashes at its end escape each other. -/
def EndsUnescaped (template : String) : Prop :=
  Even (trailingBackslashes template.toList)

instance (template : String) : Decidable (EndsUnescaped template) :=
  inferInstanceAs (Decidable (Even _))

/-! ## Backslashes at the end -/

/-- No more backslashes are at the end than there are characters. -/
theorem trailingBackslashes_le (cs : List Char) : trailingBackslashes cs ≤ cs.length := by
  have hprefix : (cs.reverse.takeWhile (· == '\\')).length ≤ cs.reverse.length :=
    (List.takeWhile_prefix _).length_le
  rwa [List.length_reverse] at hprefix

/-- A further character in front counts only if it is a backslash before nothing but backslashes. -/
theorem trailingBackslashes_cons (c : Char) (cs : List Char) :
    trailingBackslashes (c :: cs) =
      if trailingBackslashes cs = cs.length ∧ c = '\\' then cs.length + 1
      else trailingBackslashes cs := by
  unfold trailingBackslashes
  rw [List.reverse_cons, List.takeWhile_append, List.length_reverse]
  by_cases hall : (cs.reverse.takeWhile (· == '\\')).length = cs.length
  · by_cases hc : c = '\\'
    · simp [hall, hc]
    · simp [hall, hc]
  · simp [hall]

/-- A character in front that is no backslash does not count. -/
theorem trailingBackslashes_cons_of_ne {c : Char} (h : c ≠ '\\') (cs : List Char) :
    trailingBackslashes (c :: cs) = trailingBackslashes cs := by
  rw [trailingBackslashes_cons, if_neg fun hall => h hall.2]

/-- An escape in front does not change whether a text ends inside one. -/
theorem even_trailingBackslashes_escape (c : Char) (cs : List Char) :
    Even (trailingBackslashes ('\\' :: c :: cs)) ↔ Even (trailingBackslashes cs) := by
  by_cases hboth : trailingBackslashes cs = cs.length ∧ c = '\\'
  · -- two backslashes more, the second of them escaped
    have htwo : trailingBackslashes ('\\' :: c :: cs) = trailingBackslashes cs + 2 := by
      rw [trailingBackslashes_cons, trailingBackslashes_cons, if_pos hboth]
      simp [hboth.1]
    rw [htwo]
    exact Nat.even_add.trans (iff_true_right even_two)
  · have hsame : trailingBackslashes ('\\' :: c :: cs) = trailingBackslashes cs := by
      rw [trailingBackslashes_cons, trailingBackslashes_cons, if_neg hboth, if_neg]
      rintro ⟨hlength, -⟩
      have hle := trailingBackslashes_le cs
      rw [List.length_cons] at hlength
      omega
    rw [hsame]

/-! ## Items of templates in a row -/

section Items

variable {expand : Char → Option (List Item)}

/-- Outside of an escape the items of the second text are its own. -/
theorem itemsWith_append {cs : List Char} (h : Even (trailingBackslashes cs)) (ds : List Char) :
    itemsWith expand (cs ++ ds) = itemsWith expand cs ++ itemsWith expand ds := by
  induction cs using text_induction with
  | nil => rfl
  | backslash => exact absurd h (by decide)
  | escaped c rest ih =>
    rw [even_trailingBackslashes_escape] at h
    show itemsWith expand ('\\' :: c :: (rest ++ ds)) = _
    rw [itemsWith, itemsWith, ih h, List.cons_append]
  | plain c rest hc ih =>
    rw [trailingBackslashes_cons_of_ne hc] at h
    rw [List.cons_append, itemsWith_cons_of_ne hc, itemsWith_cons_of_ne hc, ih h,
      List.append_assoc]

end Items

/-- Of two templates in a row the items are in a row, if the first one does not end inside an
escape. -/
theorem items_append {a : String} (h : EndsUnescaped a) (b : String) :
    items (a ++ b) = items a ++ items b := by
  unfold items
  rw [String.toList_append]
  exact itemsWith_append h b.toList

/-! ## Patterns of items in a row -/

/-- Items in a row have their patterns in a row, the second ones with what the first ones capture.
-/
theorem itemPatterns_append (captured : List Component) (first second : List Item) :
    itemPatterns captured (first ++ second) =
      ((itemPatterns captured first).1 ++
          (itemPatterns (itemPatterns captured first).2 second).1,
        (itemPatterns (itemPatterns captured first).2 second).2) := by
  induction first generalizing captured with
  | nil => rfl
  | cons item rest ih =>
    rw [List.cons_append, itemPatterns_cons, itemPatterns_cons, ih, List.append_assoc]

/-- Two templates in a row are compiled one after the other. -/
theorem body_append {a : String} (h : EndsUnescaped a) (captured : List Component) (b : String) :
    body captured (a ++ b) =
      ((body captured a).1 ++ (body (body captured a).2 b).1, (body (body captured a).2 b).2) := by
  rw [body_eq, body_eq, body_eq, items_append h]
  exact itemPatterns_append captured (items a) (items b)

/-- A component is that of the first item or of one of the others. -/
theorem hasComponent_cons (k : Component) (item : Item) (rest : List Item) :
    HasComponent k (item :: rest) ↔ HasComponent k [item] ∨ HasComponent k rest := by
  simp only [HasComponent, List.mem_cons, List.not_mem_nil, or_false, or_and_right, exists_or]

/-- After an item its component is captured, besides those captured before. -/
theorem mem_capturedAfter_iff (captured : List Component) (item : Item) (k : Component) :
    k ∈ item.capturedAfter captured ↔ k ∈ captured ∨ HasComponent k [item] := by
  cases item with
  | literal c => simp [Item.capturedAfter, itemPattern, HasComponent]
  | token t =>
    have hself : HasComponent k [.token t] ↔ t.component = some k := by simp [HasComponent]
    rw [hself, Item.capturedAfter]
    obtain ⟨k', hcomponent, -, -, hpattern⟩ | ⟨hcaptured, -, hpattern⟩ := group_cases captured t
    · rw [hpattern, hcomponent, List.mem_append, List.mem_singleton, Option.some.injEq,
        eq_comm (a := k)]
    · rw [hpattern]
      exact (or_iff_left_of_imp (hcaptured k)).symm

/-- Captured are the components of the tokens, besides those captured before. -/
theorem mem_itemPatterns_iff (captured : List Component) (items : List Item) (k : Component) :
    k ∈ (itemPatterns captured items).2 ↔ k ∈ captured ∨ HasComponent k items := by
  induction items generalizing captured with
  | nil => simp [itemPatterns, HasComponent]
  | cons item rest ih =>
    rw [itemPatterns_cons, ih, mem_capturedAfter_iff, hasComponent_cons k item rest, or_assoc]

/-! ## Letters that stand for several -/

/-- Two texts with the same items mean the same between any others. -/
theorem items_between {a written letter : String} (ha : EndsUnescaped a)
    (hwritten : EndsUnescaped written) (hletter : EndsUnescaped letter)
    (h : items letter = items written) (b : String) :
    items (a ++ letter ++ b) = items (a ++ written ++ b) := by
  rw [String.append_assoc, String.append_assoc, items_append ha, items_append ha,
    items_append hletter, items_append hwritten, h]

/-- Templates with the same items are compiled alike. -/
theorem body_congr {a b : String} (h : items a = items b) (captured : List Component) :
    body captured a = body captured b := by
  rw [body_eq, body_eq, h]

/-- Templates with the same items have the same pattern. -/
theorem source_congr {a b : String} (h : items a = items b) : source a = source b := by
  rw [← String.toList_inj, toList_source, toList_source, h]

/-- **Templates one after the other.**  If a template does not end inside an escape, the pattern of
it and another one in a row is its own pattern and then that of the other one, compiled with what is
captured by then: what was captured before, and the components of its tokens.  So a `c` or an `r`
that is not escaped means what it stands for, to the last character of the pattern, whatever stands
around it and whatever is captured before. -/
theorem body_append_and_composites (captured : List Component) (a b : String)
    (h : EndsUnescaped a) :
    body captured (a ++ b) =
        ((body captured a).1 ++ (body (body captured a).2 b).1, (body (body captured a).2 b).2) ∧
      (∀ k, k ∈ (body captured a).2 ↔ k ∈ captured ∨ HasComponent k (items a)) ∧
      (body captured (a ++ "c" ++ b) = body captured (a ++ "Y-m-d\\TH:i:sP" ++ b) ∧
        source (a ++ "c" ++ b) = source (a ++ "Y-m-d\\TH:i:sP" ++ b)) ∧
      (body captured (a ++ "r" ++ b) = body captured (a ++ "D, d M Y H:i:s O" ++ b) ∧
        source (a ++ "r" ++ b) = source (a ++ "D, d M Y H:i:s O" ++ b)) := by
  have hc : items (a ++ "c" ++ b) = items (a ++ "Y-m-d\\TH:i:sP" ++ b) := by
    apply items_between h
    · decide
    · decide
    · decide
  have hr : items (a ++ "r" ++ b) = items (a ++ "D, d M Y H:i:s O" ++ b) := by
    apply items_between h
    · decide
    · decide
    · decide
  refine ⟨body_append h captured b, ?_, ⟨?_, ?_⟩, ?_, ?_⟩
  · rw [body_eq]
    exact mem_itemPatterns_iff captured (items a)
  · exact body_congr hc captured
  · exact source_congr hc
  · exact body_congr hr captured
  · exact source_congr hr

/-- A backslash that is escaped does not escape what comes after it, and the year after it is not
captured again. -/
theorem body_append_and_composites_escaped_backslash :
    EndsUnescaped "Y\\\\" ∧
      body [] ("Y\\\\" ++ "Y") =
        ("(?P<year>[0-9]\x7b4\x7d)\\\\(?:[0-9]\x7b4\x7d)".toList, [.year]) ∧
      source ("Y\\\\" ++ "c" ++ "r") = source ("Y\\\\" ++ "Y-m-d\\TH:i:sP" ++ "r") := by
  have hends : EndsUnescaped "Y\\\\" := by decide
  obtain ⟨happend, -, -⟩ := body_append_and_composites [] "Y\\\\" "Y" hends
  obtain ⟨-, -, ⟨-, hc⟩, -⟩ := body_append_and_composites [] "Y\\\\" "r" hends
  refine ⟨hends, ?_, hc⟩
  rw [happend, body_eq, body_eq]
  decide

end FieldRules.Date.Template
