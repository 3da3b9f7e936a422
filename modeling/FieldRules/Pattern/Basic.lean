import FieldRules.Pattern.Reader
import FieldRules.Pattern.Room

/-!
# Patterns

A `Pattern` is a text with the regular expression it means.  `Pattern.compile` makes one, and
refuses a text that is no pattern or that would take too much room.
-/

set_option autoImplicit false

namespace FieldRules

/-- A text that is a pattern. -/
structure Pattern where
  /-- The text. -/
  source : String
  /-- The regular expression that it means. -/
  regex : Pattern.TextRegex

namespace Pattern

/-- The regular expression that a text means, read as a pattern. -/
def expression (text : List Char) : Except PatternError TextRegex := do
  let ast ← Ast.ofChars text
  let (regex, _) ← ast.meaning .initial
  .ok regex

/-- The pattern that a text is. -/
def compile (source : String) : Except PatternError Pattern := do
  let regex ← expression source.toList
  if TextRegex.fits regex then .ok ⟨source, regex⟩ else .error .tooLarge

/-- The expression over the positions of a text. -/
def locate (r : TextRegex) (text : List Char) : Regex Positions Positions :=
  r.locate CharSet.contains Condition.meets text

/-- Whether an expression matches some stretch of a text. -/
def TextRegex.search (r : TextRegex) (text : String) : Bool :=
  (locate r text.toList).matchesSomewhere text.toList.length

/-- Whether an expression matches the whole of a text. -/
def TextRegex.accepts (r : TextRegex) (text : String) : Bool :=
  (locate r text.toList).matchesWhole text.toList.length

/-- Whether the pattern matches some stretch of a text. -/
def isMatch (p : Pattern) (text : String) : Bool :=
  TextRegex.search p.regex text

/-- The captures of the preferred first match in a text: names with the stretches they stand for. -/
def captures? (p : Pattern) (text : String) : Option (List (String × String)) :=
  let cs := text.toList
  ((locate p.regex cs).first? cs.length).map fun found =>
    found.captures.map fun (name, start, stop) =>
      (name, String.ofList ((cs.drop start).take (stop - start)))

end Pattern

end FieldRules
