import FieldRules.Json.Basic
import FieldRules.Text.Digits
import FieldRules.Text.Split

/-!
# Paths into nested values

A path is written as names with points between them.  A name leads to the entry of an object with
that key, or to the list element at the position it denotes.  `Path.get?` reads the value at a path,
and `Path.set` writes one, making objects where there is nothing to go through.
-/

set_option autoImplicit false

namespace FieldRules

/-- The names along a path. -/
abbrev Path : Type := List String

namespace Path

/-- The path that a text denotes. -/
def ofText (s : String) : Path :=
  (Text.splitOn '.' s.toList).map String.ofList

/-- The value one step below another. -/
def child? (name : String) : Json → Option Json
  | .object entries => Entries.get? name entries
  | .array items => (Text.index? name).bind (items[·]?)
  | _ => none

/-- The value at a path. -/
def get? : Path → Json → Option Json
  | [], root => some root
  | name :: rest, root => (child? name root).bind (get? rest)

/-- Whether there is a value at a path. -/
def has (path : Path) (root : Json) : Bool :=
  (get? path root).isSome

/-- The elements of a list and the position that a name may be written to: that of an element, or
the end of the list where the path ends too. -/
def listSlot? (name : String) (atEnd : Bool) : Json → Option (List Json × Nat)
  | .array items =>
    match Text.index? name with
    | some i => if i < items.length ∨ (atEnd ∧ i = items.length) then some (items, i) else none
    | none => none
  | _ => none

/-- The entries of an object; any other value has none. -/
def entriesOf : Json → Entries Json
  | .object entries => entries
  | _ => []

/-- Writes a value at a path.  A missing step becomes an object, and so does a value that the path
cannot go through: a scalar, or a list without the position that is named. -/
def set (value : Json) : Path → Json → Json
  | [], _ => value
  | name :: rest, node =>
    match listSlot? name rest.isEmpty node with
    | some (items, i) =>
      let below := set value rest ((items[i]?).getD .emptyObject)
      .array (items.take i ++ below :: items.drop (i + 1))
    | none =>
      let entries := entriesOf node
      let below := set value rest ((Entries.get? name entries).getD .emptyObject)
      .object (Entries.insert name below entries)

end Path

end FieldRules
