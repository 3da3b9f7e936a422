import FieldRules.Pattern.Meaning
import FieldRules.Proofs.Pattern.Words

/-!
# The names of groups

`Ast.groupNames` are the names of the groups of a pattern from left to right, and `Regex.groupNames`
those under which an expression notes what it matches.  A pattern means an expression with the names
of its groups (`Ast.groupNames_of_meaning`), so one that means a plain expression has none.
-/

set_option autoImplicit false

namespace FieldRules.Pattern

namespace Regex

variable {σ α : Type}

/-- The names under which an expression notes what it matches, from left to right. -/
def groupNames : Regex σ α → List String
  | .empty => []
  | .step _ => []
  | .hold _ => []
  | .seq a b => groupNames a ++ groupNames b
  | .alt a b => groupNames a ++ groupNames b
  | .repeated _ _ _ r => groupNames r
  | .capture name r => name.toList ++ groupNames r

/-- An expression that notes nothing has no names. -/
theorem groupNames_eq_nil_of_isPlain {r : Regex σ α} (h : r.isPlain = true) :
    r.groupNames = [] := by
  induction r with
  | empty => rfl
  | step s => rfl
  | hold a => cases h
  | seq a b iha ihb =>
    rw [isPlain, Bool.and_eq_true] at h
    rw [groupNames, iha h.1, ihb h.2, List.nil_append]
  | alt a b iha ihb =>
    rw [isPlain, Bool.and_eq_true] at h
    rw [groupNames, iha h.1, ihb h.2, List.nil_append]
  | repeated low high greedy r ih =>
    rw [isPlain, Bool.and_eq_true] at h
    exact ih h.2
  | capture name r ih => cases h

/-- A row has the names of its parts, in order. -/
theorem groupNames_seqAll (rs : List (Regex σ α)) :
    (seqAll rs).groupNames = rs.flatMap groupNames := by
  fun_induction seqAll rs with
  | case1 => rfl
  | case2 r => simp
  | case3 r rest hrest ih => rw [groupNames, ih, List.flatMap_cons]

/-- A choice has the names of its branches, in order. -/
theorem groupNames_altAll (rs : List (Regex σ α)) :
    (altAll .empty rs).groupNames = rs.flatMap groupNames := by
  fun_induction altAll .empty rs with
  | case1 => rfl
  | case2 r => simp
  | case3 r rest hrest ih => rw [groupNames, ih, List.flatMap_cons]

end Regex

namespace Ast


mutual

/-- The names of the groups of a pattern, from left to right. -/
def groupNames : Ast → List String
  | .group (.capture name) body => name.toList ++ groupNames body
  | .group (.plain _) body => groupNames body
  | .repeated _ _ _ body => groupNames body
  | .concat parts => groupNamesAll parts
  | .alternation branches => groupNamesAll branches
  | _ => []

/-- The names of the groups of several patterns. -/
def groupNamesAll : List Ast → List String
  | [] => []
  | part :: rest => groupNames part ++ groupNamesAll rest

end

/-- Several parts as one have the names of them all. -/
theorem groupNames_ofParts (parts : List Ast) :
    (ofParts parts).groupNames = groupNamesAll parts := by
  unfold ofParts
  split
  · rfl
  · rw [groupNamesAll, groupNamesAll, List.append_nil]
  · rw [groupNames]

/-! ## What a pattern means -/

/-- Of two steps in a row each has to succeed. -/
theorem exists_of_bind_eq_ok {ε α β : Type} {x : Except ε α} {next : α → Except ε β} {b : β}
    (h : (x >>= next) = .ok b) : ∃ a, x = .ok a ∧ next a = .ok b := by
  cases x with
  | error e => cases h
  | ok a => exact ⟨a, rfl, h⟩

/-- A part that stands for one character means an expression without names. -/
theorem groupNames_of_step {set : Except PatternError CharSet} {f f' : Flags} {r : TextRegex}
    (h : (do .ok (.step (← set), f) : Except PatternError (TextRegex × Flags)) = .ok (r, f')) :
    r.groupNames = [] := by
  obtain ⟨s, -, h⟩ := exists_of_bind_eq_ok h
  cases h
  rfl

mutual

/-- A pattern means an expression with the names of its groups. -/
theorem groupNames_of_meaning {f f' : Flags} {r : TextRegex} :
    ∀ {ast : Ast}, ast.meaning f = .ok (r, f') → r.groupNames = ast.groupNames
  | .empty, h => by
    cases h
    rfl
  | .group (.capture name) body, h => by
    obtain ⟨⟨r', f''⟩, hbody, h⟩ := exists_of_bind_eq_ok h
    cases h
    rw [Regex.groupNames, groupNames, groupNames_of_meaning hbody]
  | .group (.plain changes) body, h => by
    obtain ⟨⟨r', f''⟩, hbody, h⟩ := exists_of_bind_eq_ok h
    cases h
    rw [groupNames, groupNames_of_meaning hbody]
  | .repeated low high greedy body, h => by
    obtain ⟨⟨r', f''⟩, hbody, h⟩ := exists_of_bind_eq_ok h
    cases h
    rw [Regex.groupNames, groupNames, groupNames_of_meaning hbody]
  | .concat parts, h => by
    obtain ⟨⟨rs, f''⟩, hparts, h⟩ := exists_of_bind_eq_ok h
    cases h
    rw [Regex.groupNames_seqAll, groupNames, groupNames_of_meanings hparts]
  | .alternation branches, h => by
    obtain ⟨⟨rs, f''⟩, hbranches, h⟩ := exists_of_bind_eq_ok h
    cases h
    rw [Regex.groupNames_altAll, groupNames, groupNames_of_meanings hbranches]
  | .literal l, h => groupNames_of_step h
  | .dot, h => groupNames_of_step h
  | .anchor a, h => by
    cases h
    rfl
  | .shorthand kind negated, h => groupNames_of_step h
  | .property p negated, h => groupNames_of_step h
  | .bracketed negated body, h => by
    obtain ⟨s, -, h⟩ := exists_of_bind_eq_ok h
    exact groupNames_of_step h
  | .flags changes, h => by
    cases h
    rfl

/-- Parts have the same names as the expressions that they mean. -/
theorem groupNames_of_meanings {f f' : Flags} {rs : List TextRegex} :
    ∀ {parts : List Ast}, meanings f parts = .ok (rs, f') →
      rs.flatMap Regex.groupNames = groupNamesAll parts
  | [], h => by
    cases h
    rfl
  | part :: rest, h => by
    obtain ⟨⟨r, f''⟩, hpart, h⟩ := exists_of_bind_eq_ok h
    obtain ⟨⟨rs', f'''⟩, hrest, h⟩ := exists_of_bind_eq_ok h
    cases h
    rw [List.flatMap_cons, groupNamesAll, groupNames_of_meaning hpart,
      groupNames_of_meanings hrest]

end

end Ast

end FieldRules.Pattern
