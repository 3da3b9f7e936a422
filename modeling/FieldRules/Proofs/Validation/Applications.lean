import FieldRules.Proofs.Registry.Runs
import FieldRules.Validator

/-!
# The runs of rules in a validation

`RuleSet.asked` lists the applications that a rule set asks for: one for each field with one rule,
and one for each entry with proper arguments.  A validation runs exactly these, in order and each
once, those of unknown rules left out (`Validator.applications_validate`); whether a value is there
and what an earlier rule has said makes no difference.  So how often a rule runs is how often the
rule set asks for it (`Validator.runs_validate`).
-/

set_option autoImplicit false

namespace FieldRules

namespace Traced

variable {α β : Type}

/-- A result alone is its own result. -/
@[simp] theorem result_pure (a : α) : (pure a).result = a := rfl

/-- A result alone applies no rule. -/
@[simp] theorem applications_pure (a : α) : (pure a).applications = [] := rfl

/-- Mapping a result maps what comes out. -/
@[simp] theorem result_map (f : α → β) (x : Traced α) : (x.map f).result = f x.result := rfl

/-- Mapping a result applies no further rule. -/
@[simp] theorem applications_map (f : α → β) (x : Traced α) :
    (x.map f).applications = x.applications := rfl

/-- What comes out of two steps comes out of the second. -/
@[simp] theorem result_bind (x : Traced α) (f : α → Traced β) :
    (x.bind f).result = (f x.result).result := rfl

/-- Two steps apply the rules of the first and then those of the second. -/
@[simp] theorem applications_bind (x : Traced α) (f : α → Traced β) :
    (x.bind f).applications = x.applications ++ (f x.result).applications := rfl

/-- The results of several are the results of each. -/
@[simp] theorem result_traverse (f : α → Traced β) (l : List α) :
    (traverse f l).result = l.map fun a => (f a).result := by
  induction l with
  | nil => rfl
  | cons a rest ih => simp [traverse, ih]

/-- The runs of several are the runs of each, in order. -/
@[simp] theorem applications_traverse (f : α → Traced β) (l : List α) :
    (traverse f l).applications = l.flatMap fun a => (f a).applications := by
  induction l with
  | nil => rfl
  | cons a rest ih => simp [traverse, ih]

/-- How often a rule has run. -/
def runs (rule : String) (x : Traced α) : Nat :=
  x.applications.countP (·.rule == rule)

end Traced

/-! ## What a rule set asks for -/

/-- The rule that an entry asks for and its arguments, none if they are no proper ones. -/
def RuleEntry.asked? : RuleEntry → Option (String × Args)
  | .shorthand _ rule => some (rule, .empty)
  | .withArgs rule args => some (rule, args)
  | .invalidArgs _ _ => none

/-- The rules that are asked for a field, with their arguments, in order. -/
def RuleSpec.asked : RuleSpec → List (String × Args)
  | .single rule => [(rule, .empty)]
  | .multi entries => entries.filterMap RuleEntry.asked?
  | .malformed _ => []

/-- The rules that a rule set asks for, with their arguments, in order. -/
def RuleSet.asked (s : RuleSet) : List (String × Args) :=
  s.fields.entries.flatMap fun p => p.2.asked

namespace Registry

/-- Of all rules the one that is named runs, if it is known. -/
theorem runs_dispatch (rule name : String) (value : Option Json) (args : Args)
    (r : Registry) :
    (r.dispatch name value args).runs rule =
      if name = rule ∧ r.contains rule then 1 else 0 := by
  unfold Traced.runs
  rw [applications_dispatch]
  by_cases hname : name = rule
  · subst hname
    cases r.contains name <;> simp
  · cases r.contains name <;> simp [hname]

end Registry

namespace Validator

/-- The run of a rule that is asked for, on a value. -/
def application (v : Validator) (value : Option Json) (asked : String × Args) : Application :=
  ⟨asked.1, value, v.effectiveArgs asked.1 asked.2⟩

/-- Whether a rule that is asked for is known. -/
def isKnown (v : Validator) (asked : String × Args) : Bool :=
  v.registry.contains asked.1

/-- A check applies the rule once if there is one of the name, and else none. -/
theorem applications_check (v : Validator) (rule : String) (value : Option Json) (args : Args) :
    (v.check rule value args).applications =
      if v.registry.contains rule then [v.application value (rule, args)] else [] :=
  Registry.applications_dispatch rule value (v.effectiveArgs rule args) v.registry

/-- An entry applies the rule that it asks for. -/
theorem checkEntry_eq (v : Validator) (value : Option Json) (e : RuleEntry) :
    v.checkEntry value e =
      match e.asked? with
      | some asked => v.check asked.1 value asked.2
      | none => .pure .indeterminate := by
  cases e <;> rfl

/-- The rules of a field that are known run, in order. -/
theorem applications_checkField (v : Validator) (field : String) (spec : RuleSpec) :
    (v.checkField field spec).applications =
      (spec.asked.filter v.isKnown).map (v.application (v.get? field)) := by
  cases spec with
  | single rule =>
    cases hknown : v.registry.contains rule <;>
      simp [checkField, RuleSpec.asked, applications_check, isKnown, hknown]
  | malformed raw => simp [checkField, RuleSpec.asked]
  | multi entries =>
    simp only [checkField, RuleSpec.asked, Traced.applications_map, Traced.applications_traverse]
    induction entries with
    | nil => rfl
    | cons e rest ih =>
      rw [List.flatMap_cons, ih, checkEntry_eq]
      cases hasked : e.asked? with
      | none => simp [hasked]
      | some asked =>
        cases hknown : v.registry.contains asked.1 <;>
          simp [hasked, applications_check, isKnown, hknown]

/-- The rule set that is applied, as a choice by the fields of the given one. -/
theorem effectiveRules_eq (v : Validator) (rules : RuleSet) :
    v.effectiveRules rules = if rules.fields.entries = [] then v.rules else rules := by
  simp [effectiveRules, RuleSet.isEmpty, OrderedMap.isEmpty]

/-- A validation runs the rules that are asked for and known, field by field and in order. -/
theorem applications_validate (v : Validator) (rules : RuleSet) :
    (v.validate rules).applications =
      (v.effectiveRules rules).fields.entries.flatMap fun p =>
        (p.2.asked.filter v.isKnown).map (v.application (v.get? p.1)) := by
  simp [validate, applications_checkField]

/-- Of the applications that are run, those of a known rule are all that name it. -/
theorem countP_application (v : Validator) (rule : String) (value : Option Json)
    (asked : List (String × Args)) :
    ((asked.filter v.isKnown).map (v.application value)).countP (·.rule == rule) =
      if v.registry.contains rule then asked.countP (·.1 == rule) else 0 := by
  rw [List.countP_map, List.countP_filter]
  -- Whether an application of the rule is left out depends on the rule alone.
  by_cases hknown : v.registry.contains rule = true
  · rw [if_pos hknown]
    apply List.countP_congr
    intro a _
    have himp : a.1 = rule → v.isKnown a = true := fun h => by rw [isKnown, h, hknown]
    simpa [application] using himp
  · rw [if_neg hknown, List.countP_eq_zero]
    intro a _
    have himp : a.1 = rule → v.isKnown a = false := fun h => by simpa [isKnown, h] using hknown
    simpa [application] using himp

/-- **How often a rule runs.**  A validation, and likewise asking for its success or its failure,
runs a rule as often as the given rule set asks for it, or the configured one if the given one is
empty, if the rule is known, and else not at all.  Checking a value, the value at a path, or calling
the registry runs a rule once if it is the one that is named and known, and else not at all. -/
theorem runs_validate (v : Validator) (rules : RuleSet) (rule : String) :
    let applied := if rules.fields.entries = [] then v.rules else rules
    let times := if v.registry.contains rule then applied.asked.countP (·.1 == rule) else 0
    ((v.validate rules).runs rule = times ∧ (v.success rules).runs rule = times ∧
        (v.failed rules).runs rule = times) ∧
      ∀ (name : String) (args : Args),
        let once := if name = rule ∧ v.registry.contains rule then 1 else 0
        (∀ value, (v.check name value args).runs rule = once ∧
            (v.registry.dispatch name value args).runs rule = once) ∧
          ∀ path, (v.checkPath path name args).runs rule = once := by
  intro applied times
  have hvalidate : (v.validate rules).runs rule = times := by
    unfold Traced.runs times applied RuleSet.asked
    rw [applications_validate, v.effectiveRules_eq, List.countP_flatMap, List.countP_flatMap]
    simp only [Function.comp_def, countP_application]
    cases v.registry.contains rule <;> simp
  refine ⟨⟨hvalidate, hvalidate, hvalidate⟩, ?_⟩
  intro name args once
  refine ⟨?_, ?_⟩
  · intro value
    exact ⟨v.registry.runs_dispatch rule name value _,
      v.registry.runs_dispatch rule name value args⟩
  · intro path
    exact v.registry.runs_dispatch rule name (v.get? path) _

end Validator

end FieldRules
