import FieldRules.Rules.Address
import FieldRules.Rules.Collection
import FieldRules.Rules.Date
import FieldRules.Rules.Numeric
import FieldRules.Rules.Presence
import FieldRules.Rules.Text

/-!
# The built-in rules

`builtins` lists the rules that are always there, under their names.
-/

set_option autoImplicit false

namespace FieldRules.Rules

/-- The built-in rules under their names. -/
def builtins : Entries Rule :=
  [("integer", integer), ("number", number), ("numeric", numeric), ("string", text),
    ("array", array), ("in", oneOf), ("required", required), ("optional", optional), ("ip", ip),
    ("date", date)]

/-- The built-in rule with the given name; case counts. -/
def builtin? (name : String) : Option Rule :=
  Entries.get? name builtins

/-- Whether there is a built-in rule with the given name. -/
def isBuiltin (name : String) : Bool :=
  (builtin? name).isSome

/-- Applies a built-in rule; an unknown one cannot tell. -/
def check (name : String) (value : Option Json) (args : Args) : Outcome :=
  match builtin? name with
  | some rule => rule value args
  | none => .indeterminate

end FieldRules.Rules
