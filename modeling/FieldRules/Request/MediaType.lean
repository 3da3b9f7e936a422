import FieldRules.Text.Space
import FieldRules.Text.Split

/-!
# Media types

A media type has parameters after semicolons, each a name and a value with an equals sign between
them.  `MediaType.charset?` finds the character set among them.
-/

set_option autoImplicit false

namespace FieldRules.MediaType

/-- The character set that a parameter names, if it is one that does. -/
def charsetOf? (parameter : List Char) : Option (List Char) :=
  match Text.splitFirst? (· == '=') parameter with
  | none => none
  | some (name, value) =>
    let charset := Text.trimBy (· == '"') (Text.trim value)
    if (Text.trim name).map Char.toLower = "charset".toList ∧ charset ≠ [] then some charset
    else none

/-- The character set of a media type: that of the first parameter with one. -/
def charset? (mediaType : String) : Option String :=
  (((Text.splitOn ';' mediaType.toList).drop 1).findSome? charsetOf?).map String.ofList

end FieldRules.MediaType
