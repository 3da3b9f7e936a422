import FieldRules.Json.Text
import FieldRules.Rules.Count

/-!
# Lists, objects and choices

The rule `array` passes lists and objects that hold one of some keys and keep the bounds on their
number of elements.  The rule `in` passes the values of a list of choices.
-/

set_option autoImplicit false

namespace FieldRules.Rules

/-- The names of the bounds on the number of elements. -/
def countBounds : BoundNames := ⟨"max_count", "min_count", "count"⟩

/-- The number of elements of a list or an object. -/
def elementCount? : Json → Option Nat
  | .array items => some items.length
  | .object entries => some entries.length
  | _ => none

/-- The key that a value stands for: a text itself, a number its text, and a Boolean zero or one. -/
def keyText? : Json → Option String
  | .string s => some s
  | .number n => some n.render
  | .bool b => some (if b then "1" else "0")
  | _ => none

/-- The element of a list or an object under a key; that of a list is at the position that the key
denotes. -/
def element? (key : String) : Json → Option Json
  | .object entries => Entries.get? key entries
  | .array items => (Text.index? key).bind (items[·]?)
  | _ => none

/-- Whether a list or an object holds anything but null under a key. -/
def holdsKey (collection key : Json) : Bool :=
  match keyText? key with
  | some k => (element? k collection).any fun v => !v.isNull
  | none => false

/-- The values of a list. -/
def listItems? : Json → Option (List Json)
  | .array items => some items
  | _ => none

/-- Passes lists and objects that hold one of the keys and keep the bounds. -/
def array : Rule := fun value args =>
  match value with
  | none => .fail
  | some v =>
    match elementCount? v with
    | none => .fail
    | some count =>
      .ofVerdicts
        ([args.verdict "has" listItems? fun keys => keys.any (holdsKey v),
          args.verdict "empty" some fun empty => empty.truthy || count != 0] ++
          countBounds.verdicts args count)

/-- Passes a value that is loosely the same as one of the arguments. -/
def oneOf : Rule := fun value args =>
  match value with
  | none => .fail
  | some v => .ofBool (args.values.any fun choice => v.looseSame choice)

end FieldRules.Rules
