import FieldRules.Args
import FieldRules.Date.Template

/-!
# Dates

The rule `date` passes texts that fit a template.
-/

set_option autoImplicit false

namespace FieldRules.Rules

/-- The template when none is given. -/
def defaultFormat : String := Date.Template.iso8601

/-- The template that the arguments ask for. -/
def templateOf (args : Args) : String :=
  match args.getSet? "format" with
  | some (.string template) => template
  | _ => defaultFormat

/-- Passes texts that fit the template. -/
def date : Rule := fun value args =>
  match value with
  | some (.string s) =>
    match Date.Format.compile (templateOf args) with
    | .ok format => .ofBool (format.isMatch s)
    | .error _ => .indeterminate
  | _ => .fail

end FieldRules.Rules
