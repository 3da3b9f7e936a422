import FieldRules.Date.Template
import FieldRules.Proofs.Pattern.Reading
import FieldRules.Proofs.Pattern.Words

/-!
# The fragments of tokens

Each fragment is a pattern on its own (`isSound_of_token?`), and in a group it is read as the same
pattern, whatever comes after the group (`reads_fragment`).
-/

set_option autoImplicit false

namespace FieldRules.Date

open Pattern (Ast PatternError TextRegex GroupKind OpenGroup ReadState)

/-! ## Fragments -/

/-- The syntax tree of a fragment, on its own. -/
def Token.ast (t : Token) : Ast :=
  match Ast.ofChars t.fragment.toList with
  | .ok ast => ast
  | .error _ => .empty

/-- The expression that a fragment means, on its own. -/
def Token.expression (t : Token) : Except PatternError TextRegex :=
  Pattern.expression t.fragment.toList

/-- The expression of a fragment that is a pattern. -/
def Token.regex (t : Token) : TextRegex :=
  match t.expression with
  | .ok r => r
  | .error _ => .empty

/-- How deep the parts of a fragment may nest. -/
def maxFragmentDepth : Nat := 8

/-- A fragment that is a pattern, sets no flags, notes nothing and does not nest deep. -/
structure Token.IsSound (t : Token) : Prop where
  ofChars_eq : Ast.ofChars t.fragment.toList = .ok t.ast
  expression_eq : t.expression = .ok t.regex
  meaning_eq : t.ast.meaning .initial = .ok (t.regex, .initial)
  isPlain : t.regex.isPlain = true
  depth_le : t.ast.depth ≤ maxFragmentDepth

/-- Checks a fragment for being sound. -/
def Token.check (t : Token) : Bool :=
  match Ast.ofChars t.fragment.toList with
  | .ok ast =>
    match ast.meaning .initial with
    | .ok (r, flags) => flags == .initial && r.isPlain && decide (ast.depth ≤ maxFragmentDepth)
    | .error _ => false
  | .error _ => false

/-- A token that is checked successfully is sound. -/
theorem Token.isSound_of_check {t : Token} (h : t.check = true) : t.IsSound := by
  unfold check at h
  split at h
  · rename_i ast hast
    split at h
    · rename_i r flags hmeaning
      simp only [Bool.and_eq_true, beq_iff_eq, decide_eq_true_eq] at h
      obtain ⟨⟨rfl, hplain⟩, hdepth⟩ := h
      have htree : t.ast = ast := by simp only [Token.ast, hast]
      have hexpression : t.expression = .ok r := by
        simp only [expression, Pattern.expression, hast, bind, Except.bind, hmeaning]
      have hregex : t.regex = r := by simp only [regex, hexpression]
      constructor <;> simp_all
    · cases h
  · cases h

/-- All fragments are sound. -/
theorem isSound_of_token? {c : Char} {t : Token} (h : token? c = some t) : t.IsSound := by
  apply Token.isSound_of_check
  unfold token? at h
  split at h <;> cases h <;> decide +kernel

set_option maxRecDepth 2000 in
/-- A fragment is read in a group as it is on its own, whatever comes after the group. -/
theorem reads_fragment {c : Char} {t : Token} (h : token? c = some t) (kind : GroupKind)
    (parts branches : List Ast) (opened : List OpenGroup) (names : List String) :
    ReadState.Reads ⟨[], [], ⟨kind, parts, branches, false⟩ :: opened, false, names⟩
      (t.fragment.toList ++ [')'])
      ⟨.group kind t.ast :: parts, branches, opened, false, names⟩ := by
  unfold token? at h
  split at h <;> cases h
  -- Sets and bounds leave some fuel over, words alone do not.
  all_goals
    first
    | exact ⟨_, fun fuel rest => rfl⟩
    | exact ⟨0, fun fuel rest => rfl⟩

end FieldRules.Date
