import FieldRules.Args

/-!
# Presence

The rules that look at no more than whether a value is there.
-/

set_option autoImplicit false

namespace FieldRules.Rules

/-- Passes a value that is there and not null. -/
def required : Rule := fun value _ =>
  .ofBool (value.any fun v => !v.isNull)

/-- Passes always. -/
def optional : Rule := fun _ _ =>
  .pass

end FieldRules.Rules
