import FieldRules.Pattern.Basic
import FieldRules.Rules.Count
import FieldRules.Text.Encoding

/-!
# Texts

The rule `string` passes texts whose length keeps the bounds and that a pattern matches somewhere.
-/

set_option autoImplicit false

namespace FieldRules.Rules

/-- The names of the bounds on the length of a text. -/
def lengthBounds : BoundNames := ⟨"max_length", "min_length", "length"⟩

/-- The encoding that the arguments ask for, none if they name none that is known. -/
def encodingOf? (args : Args) : Option Encoding :=
  match args.getSet? "encoding" with
  | none => some .scalar
  | some (.string label) => if label.isEmpty then some .scalar else Encoding.ofLabel? label
  | some _ => none

/-- The pattern that a value is. -/
def pattern? : Json → Option Pattern
  | .string source => (Pattern.compile source).toOption
  | _ => none

/-- Passes texts that keep the bounds on their length and that the pattern matches. -/
def text : Rule := fun value args =>
  match value with
  | some (.string s) =>
    match encodingOf? args with
    | none => .indeterminate
    | some encoding =>
      .ofVerdicts (lengthBounds.verdicts args (encoding.measure s) ++
        [args.verdict "matches" pattern? fun p => p.isMatch s])
  | _ => .fail

end FieldRules.Rules
