import FieldRules.Json.Basic
import FieldRules.Request.BracketKey
import FieldRules.Text.Digits

/-!
# Nested values from pairs

`Params.ofPairs` writes pairs one after the other into an object, each where its key leads.  A pair
with the same key as an earlier one takes its place, but a segment that appends always makes a new
element: in a list after the last, in an object under the number after the largest.
-/

set_option autoImplicit false

namespace FieldRules.Params

/-- The number that a key is the numeral of, without leading zeros, if a word holds it. -/
def indexOfKey? (key : String) : Option Nat :=
  match Text.index? key with
  | some n => if Text.numeral n = key then some n else none
  | none => none

/-- The number after the largest that is a key, or zero; it stays within a word. -/
def nextIndex (entries : Entries Json) : Nat :=
  match ((Entries.keys entries).filterMap indexOfKey?).max? with
  | some n => min (n + 1) (Text.wordBound - 1)
  | none => 0

/-- The entries of an object, or the elements of a list under their positions; a scalar has none. -/
def entriesOf : Json → Entries Json
  | .object entries => entries
  | .array items => Json.indexed items
  | _ => []

/-- Writes a text where the segments lead.  Scalars on the way are replaced. -/
def assign (value : String) : List Segment → Json → Json
  | [], _ => .string value
  | .append :: rest, .object entries =>
    let key := Text.numeral (nextIndex entries)
    let below := assign value rest ((Entries.get? key entries).getD .null)
    .object (Entries.insert key below entries)
  | .append :: rest, .array items => .array (items ++ [assign value rest .null])
  | .append :: rest, _ => .array [assign value rest .null]
  | .named name :: rest, node =>
    let entries := entriesOf node
    let below := assign value rest ((Entries.get? name entries).getD .null)
    .object (Entries.insert name below entries)

/-- Writes one pair.  A key with too many brackets writes nothing. -/
def write (root : Json) (pair : String × String) : Json :=
  match BracketKey.segments? pair.1 with
  | some segments => assign pair.2 segments root
  | none => root

/-- The nested value that pairs make. -/
def ofPairs (pairs : List (String × String)) : Json :=
  pairs.foldl write .emptyObject

end FieldRules.Params
