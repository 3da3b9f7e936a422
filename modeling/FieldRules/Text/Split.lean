/-!
# Splitting and replacing

`splitOn` cuts a text, of characters or of bytes, at every separator, so that joining the pieces
with it gives the text back; `splitFirst?` cuts at the first separator alone.  `replaceAll` puts
another text in the place of a word.
-/

set_option autoImplicit false

namespace FieldRules.Text

/-- The pieces between the separators; a text without separators is one piece. -/
def splitOn {α : Type} [DecidableEq α] (separator : α) : List α → List (List α)
  | [] => [[]]
  | c :: rest =>
    if c = separator then
      [] :: splitOn separator rest
    else
      match splitOn separator rest with
      | piece :: pieces => (c :: piece) :: pieces
      | [] => [[c]]

/-- What stands before and after the first element that satisfies a test, if there is one. -/
def splitFirst? {α : Type} (p : α → Bool) : List α → Option (List α × List α)
  | [] => none
  | c :: rest =>
    if p c then some ([], rest)
    else (splitFirst? p rest).map fun (before, after) => (c :: before, after)

/-- Replaces a word from some place in a text on, the next `skip` characters belonging to an
occurrence that has been replaced already. -/
def replaceFrom (word new : List Char) : (skip : Nat) → List Char → List Char
  | _, [] => []
  | skip + 1, _ :: rest => replaceFrom word new skip rest
  | 0, c :: rest =>
    if word.isPrefixOf (c :: rest) then new ++ replaceFrom word new (word.length - 1) rest
    else c :: replaceFrom word new 0 rest

/-- Puts a text in the place of each occurrence of a word, which is not empty, from left to
right. -/
def replaceAll (word new text : List Char) : List Char :=
  replaceFrom word new 0 text

end FieldRules.Text
