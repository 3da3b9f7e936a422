import FieldRules.Path
import FieldRules.Registry
import FieldRules.Report
import FieldRules.RuleSet.Basic

/-!
# Validators

A `Validator` applies rule sets to one value.  It has custom rules, default arguments for some
rules, and a rule set of its own, which is applied where the given one is empty.
-/

set_option autoImplicit false

namespace FieldRules

/-- A value to validate, with what is configured for it. -/
structure Validator where
  data : Json
  /-- The rule set that is applied where the given one is empty. -/
  rules : RuleSet
  /-- Default arguments under the names of rules. -/
  defaults : OrderedMap Args
  registry : Registry

namespace Validator

/-- A validator of a value, with nothing configured. -/
def new (data : Json) : Validator :=
  ⟨data, .empty, .empty, .empty⟩

/-- Sets the rule set that is applied where the given one is empty. -/
def withRules (rules : RuleSet) (v : Validator) : Validator :=
  { v with rules }

/-- The default arguments of a rule. -/
def ruleDefaults? (rule : String) (v : Validator) : Option Args :=
  v.defaults.get? rule

/-- Gives a rule default arguments; they win over those that it has already. -/
def withRuleDefaults (rule : String) (defaults : Args) (v : Validator) : Validator :=
  let merged := match v.ruleDefaults? rule with
    | some previous => defaults.withDefaults previous
    | none => defaults
  { v with defaults := v.defaults.insert rule merged }

/-- The value at a path. -/
def get? (path : String) (v : Validator) : Option Json :=
  Path.get? (.ofText path) v.data

/-- Whether there is a value at a path. -/
def has (path : String) (v : Validator) : Bool :=
  Path.has (.ofText path) v.data

/-- Adds a custom rule. -/
def addRule (name : String) (rule : Rule) (v : Validator) : Except RegistryError Validator := do
  .ok { v with registry := ← v.registry.register name rule }

/-- Whether there is a rule with a name. -/
def ruleExists (name : String) (v : Validator) : Bool :=
  v.registry.contains name

/-! ## Applying rules -/

/-- The arguments that a rule is run with: those given, with its defaults filled in. -/
def effectiveArgs (rule : String) (args : Args) (v : Validator) : Args :=
  match v.ruleDefaults? rule with
  | some defaults => args.withDefaults defaults
  | none => args

/-- Applies a rule to a value. -/
def check (rule : String) (value : Option Json) (args : Args) (v : Validator) : Traced Outcome :=
  v.registry.dispatch rule value (v.effectiveArgs rule args)

/-- Applies a rule to the value at a path. -/
def checkPath (path rule : String) (args : Args) (v : Validator) : Traced Outcome :=
  v.check rule (v.get? path) args

/-- Applies one of several rules of a field.  A rule without proper arguments is not run. -/
def checkEntry (value : Option Json) (entry : RuleEntry) (v : Validator) : Traced Outcome :=
  match entry with
  | .shorthand _ rule => v.check rule value .empty
  | .withArgs rule args => v.check rule value args
  | .invalidArgs _ _ => .pure .indeterminate

/-- Applies the rules of a field. -/
def checkField (field : String) (spec : RuleSpec) (v : Validator) : Traced FieldReport :=
  let value := v.get? field
  match spec with
  | .single rule => (v.check rule value .empty).map .single
  | .multi entries =>
    (Traced.traverse (fun e => (v.checkEntry value e).map fun o => (e.rule, o)) entries).map
      fun outcomes => .multi (.ofPairs outcomes)
  | .malformed _ => .pure (.single .indeterminate)

/-- The rule set that is applied: the given one, or the configured one if it is empty. -/
def effectiveRules (rules : RuleSet) (v : Validator) : RuleSet :=
  if rules.isEmpty then v.rules else rules

/-- Applies a rule set. -/
def validate (rules : RuleSet) (v : Validator) : Traced Report :=
  (Traced.traverse (fun p => (v.checkField p.1 p.2).map fun r => (p.1, r))
    (v.effectiveRules rules).fields.entries).map Report.ofPairs

/-- Whether every rule of every field passes. -/
def success (rules : RuleSet) (v : Validator) : Traced Bool :=
  (v.validate rules).map Report.success

/-- Whether some rule of some field does not pass. -/
def failed (rules : RuleSet) (v : Validator) : Traced Bool :=
  (v.success rules).map not

end Validator

end FieldRules
