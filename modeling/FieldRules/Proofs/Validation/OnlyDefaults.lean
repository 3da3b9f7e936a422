import FieldRules.Proofs.Rules.Options
import FieldRules.Proofs.Validation.Defaults
import FieldRules.Proofs.Validation.Reported

/-!
# Calls without arguments

A rule that is called without arguments is run with its default arguments if these are options.  A
list of default arguments fills in nothing, so the rule is then run without arguments.  To the
built-in rules other than `in` that is the same; `in` and custom rules can tell a list from nothing.
Just when a call without arguments says what a call with the default arguments would say, is
`Validator.result_check_withRuleDefaults_iff`.
-/

set_option autoImplicit false

namespace FieldRules

namespace Registry

/-- Whether the rule with a name says the same of a value with a list as with no arguments.  Of the
built-in rules only `in` may not, where the value is loosely the same as an element. -/
def IgnoresList (r : Registry) (name : String) (value : Option Json) (items : List Json) : Prop :=
  match r.custom.get? name with
  | some rule => rule value .empty = rule value (.list items)
  | none => name = "in" → ∀ v, value = some v → ∀ item ∈ items, v.looseSame item = false

/-- The rule `in` without choices fails, so it ignores a list exactly if it fails with it too. -/
theorem oneOf_empty_eq_iff (value : Option Json) (items : List Json) :
    Rules.oneOf value .empty = Rules.oneOf value (.list items) ↔
      ∀ v, value = some v → ∀ item ∈ items, v.looseSame item = false := by
  cases value with
  | none => simp [Rules.oneOf]
  | some v =>
    have hempty : Rules.oneOf (some v) .empty = .fail := rfl
    have hlist : Rules.oneOf (some v) (.list items) =
        .ofBool (items.any fun item => v.looseSame item) := rfl
    rw [hempty, hlist]
    cases hany : items.any fun item => v.looseSame item with
    | true =>
      have hsame : ¬∀ item ∈ items, v.looseSame item = false := by
        simpa using hany
      simp only [Outcome.ofBool, if_true, Option.some.injEq, forall_eq', hsame, iff_false]
      decide
    | false =>
      have hnone : ∀ item ∈ items, v.looseSame item = false := by
        simpa using hany
      simpa [Outcome.ofBool] using hnone

/-- A rule of the registry ignores a list exactly if dispatching it does. -/
theorem result_dispatch_list_iff (name : String) (value : Option Json) (items : List Json)
    (r : Registry) :
    (r.dispatch name value .empty).result = (r.dispatch name value (.list items)).result ↔
      r.IgnoresList name value items := by
  unfold dispatch IgnoresList
  cases r.custom.get? name with
  | some rule => rfl
  | none =>
    by_cases hname : name = "in"
    · subst hname
      have hin : Rules.builtin? "in" = some Rules.oneOf := rfl
      simpa [hin] using oneOf_empty_eq_iff value items
    · have hvacuous : name = "in" → ∀ v, value = some v →
          ∀ item ∈ items, v.looseSame item = false := fun h => absurd h hname
      refine iff_of_true ?_ hvacuous
      cases hbuiltin : Rules.builtin? name with
      | none => rfl
      | some rule =>
        have hlist := Args.sameOptions_list_empty items
        exact (Rules.eq_of_sameOptions hbuiltin hname hlist value).symm

end Registry

namespace Validator

/-- What a rule is run with where it is called without arguments: default arguments that are options
as they are, and none if they are a list. -/
theorem effectiveArgs_withRuleDefaults_empty {v : Validator} {rule : String} {defaults : Args}
    (hnone : v.ruleDefaults? rule = none) (hkeys : (Entries.keys defaults.toOptions).Nodup) :
    (v.withRuleDefaults rule defaults).effectiveArgs rule .empty =
      match defaults with
      | .options entries => .options entries
      | .list _ => .empty := by
  have hdefaults : (v.withRuleDefaults rule defaults).defaultArgs rule = defaults := by
    have hempty : v.defaultArgs rule = .empty := by rw [defaultArgs, hnone]; rfl
    rw [defaultArgs_withRuleDefaults, if_pos rfl, hempty, Args.withDefaults_empty]
  rw [effectiveArgs_eq, hdefaults]
  cases defaults with
  | list items => rfl
  | options entries =>
    rw [Args.empty, Args.options_withDefaults, Entries.fill_of_nodup entries hkeys]
    rfl

/-- **Calls without arguments.**  Give a rule that has no default arguments some, with distinct keys
if they are options.  If they are options, a call without arguments is a call with them; if they are
a list, it is a call without arguments all the same.  So it says what a call with the default
arguments says, exactly if these are no list or the rule ignores the list; and likewise what is
reported of a field with this one rule. -/
theorem result_check_withRuleDefaults_iff (v : Validator) (rule : String) (defaults : Args)
    (hnone : v.ruleDefaults? rule = none) (hkeys : (Entries.keys defaults.toOptions).Nodup) :
    let w := v.withRuleDefaults rule defaults
    (∀ entries, defaults = .options entries → ∀ value,
        w.check rule value .empty = v.registry.dispatch rule value defaults) ∧
      (∀ items, defaults = .list items → ∀ value,
        w.check rule value .empty = v.registry.dispatch rule value .empty) ∧
      (∀ value,
        (w.check rule value .empty).result = (v.registry.dispatch rule value defaults).result ↔
          ∀ items, defaults = .list items → v.registry.IgnoresList rule value items) ∧
      ∀ rules field, (w.effectiveRules rules).get? field = some (.single rule) →
        ((w.validate rules).result.get? field =
            some (.single (v.registry.dispatch rule (v.get? field) defaults).result) ↔
          ∀ items, defaults = .list items →
            v.registry.IgnoresList rule (v.get? field) items) := by
  intro w
  have hargs : w.effectiveArgs rule .empty = match defaults with
      | .options entries => .options entries
      | .list _ => .empty := effectiveArgs_withRuleDefaults_empty hnone hkeys
  have hoptions (entries : Entries Json) (h : defaults = .options entries)
      (value : Option Json) :
      w.check rule value .empty = v.registry.dispatch rule value defaults := by
    subst h
    rw [check, hargs]
    rfl
  have hlist (items : List Json) (h : defaults = .list items) (value : Option Json) :
      w.check rule value .empty = v.registry.dispatch rule value .empty := by
    subst h
    rw [check, hargs]
    rfl
  have hresult (value : Option Json) :
      (w.check rule value .empty).result = (v.registry.dispatch rule value defaults).result ↔
        ∀ items, defaults = .list items → v.registry.IgnoresList rule value items := by
    cases hdefaults : defaults with
    | options entries =>
      rw [hoptions entries hdefaults, hdefaults]
      simp
    | list items =>
      rw [hlist items hdefaults, Registry.result_dispatch_list_iff]
      simp
  refine ⟨hoptions, hlist, hresult, ?_⟩
  intro rules field hfield
  rw [get?_validate hfield, ← hresult]
  simp only [checkField, Traced.result_map, Option.some.injEq, FieldReport.single.injEq]
  rfl

/-- A length that is bounded by default arguments is bounded in a field with the bare rule too. -/
theorem result_check_withRuleDefaults_max_length :
    let v := Validator.new (.object [("name", .string "abcd")])
    let defaults : Args := .options [("max_length", .number (.int { val := 3 }))]
    let rules : RuleSet := RuleSet.empty.single "name" "string"
    v.ruleDefaults? "string" = none ∧ (Entries.keys defaults.toOptions).Nodup ∧
      (v.registry.dispatch "string" (v.get? "name") defaults).result = .fail ∧
      ((v.withRuleDefaults "string" defaults).validate rules).result.get? "name" =
        some (.single (v.registry.dispatch "string" (v.get? "name") defaults).result) := by
  intro v defaults rules
  have hkeys : (Entries.keys defaults.toOptions).Nodup := by decide
  refine ⟨rfl, hkeys, by cbv, ?_⟩
  have h := result_check_withRuleDefaults_iff v "string" defaults rfl hkeys
  refine (h.2.2.2 rules "name" rfl).2 ?_
  intro items hitems
  simp [defaults] at hitems

/-- The rule `in` passes a value with a list that has it, and fails it without arguments, although
the list is given as its default arguments. -/
theorem check_in_ne_dispatch_list :
    let v := Validator.new .null
    let choices : Args := .list [.string "a"]
    ((v.withRuleDefaults "in" choices).check "in" (some (.string "a")) .empty).result = .fail ∧
      (v.registry.dispatch "in" (some (.string "a")) choices).result = .pass := by
  intro v choices
  constructor
  · cbv
  · cbv

end Validator

end FieldRules
