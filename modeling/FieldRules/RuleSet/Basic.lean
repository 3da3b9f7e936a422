import FieldRules.Json.Reader
import FieldRules.RuleSet.Spec

/-!
# Rule sets

A `RuleSet` gives the rules of each field, in order.  It is read from JSON, or built field by field:
`RuleSet.single`, `RuleSet.rule`, `RuleSet.bareRule` and `RuleSet.field` each add to one field.
-/

set_option autoImplicit false

namespace FieldRules

/-- Why a rule set cannot be read. -/
inductive RuleSetError where
  /-- The value is not an object; it is given by what it is called in messages. -/
  | notAMap (kind : String)
  /-- The text is not JSON. -/
  | json
deriving DecidableEq, Repr

/-- The message for a value that is not a rule set. -/
def RuleSetError.message? : RuleSetError → Option String
  | .notAMap kind => some ("rule set must be a map of field paths to rules, got " ++ kind)
  | .json => none

/-- The rules of each field, in order. -/
structure RuleSet where
  /-- The fields with their rules. -/
  fields : OrderedMap RuleSpec

namespace RuleSet

/-- The rule set without fields. -/
def empty : RuleSet := ⟨.empty⟩

/-- Reads a rule set. -/
def ofJson : Json → Except RuleSetError RuleSet
  | .object entries => .ok ⟨.ofPairs (entries.map fun p => (p.1, .ofJson p.2))⟩
  | v => .error (.notAMap v.kind)

/-- Reads a rule set from the text of a JSON document. -/
def ofText (text : String) : Except RuleSetError RuleSet :=
  match Json.parse? Json.maxDepth text with
  | some v => ofJson v
  | none => .error .json

/-- The rule set as JSON. -/
def toJson (s : RuleSet) : Json :=
  .object (Entries.mapValues (fun _ spec => spec.toJson) s.fields.entries)

/-- The rules of a field. -/
def get? (field : String) (s : RuleSet) : Option RuleSpec :=
  s.fields.get? field

/-- The number of fields. -/
def size (s : RuleSet) : Nat :=
  s.fields.size

/-- Whether there are no fields. -/
def isEmpty (s : RuleSet) : Bool :=
  s.fields.isEmpty

/-- Whether two rule sets are equal; the order of the fields does not count. -/
def same (s t : RuleSet) : Bool :=
  s.size == t.size && s.fields.entries.all fun p =>
    match t.get? p.1 with
    | some spec => p.2.same spec
    | none => false

/-! ## Building -/

/-- Sets the rules of a field. -/
def field (name : String) (spec : RuleSpec) (s : RuleSet) : RuleSet :=
  ⟨s.fields.insert name spec⟩

/-- Sets the one rule of a field. -/
def single (name rule : String) (s : RuleSet) : RuleSet :=
  s.field name (.single rule)

/-- The rules of a field as several; a field that is not there has none. -/
def entriesAt (name : String) (s : RuleSet) : List RuleEntry :=
  ((s.get? name).map RuleSpec.toEntries).getD []

/-- Puts an entry in the place of the first with its key, or at the end. -/
def putEntry (entry : RuleEntry) : List RuleEntry → List RuleEntry
  | [] => [entry]
  | e :: rest => if e.key = entry.key then entry :: rest else e :: putEntry entry rest

/-- Adds a rule with arguments to a field, in the place of the rule of that name if there is one. -/
def rule (name rule : String) (args : Args) (s : RuleSet) : RuleSet :=
  s.field name (.multi (putEntry (.withArgs rule args) (s.entriesAt name)))

/-- The first of the numbers from `i` on, `fuel` of them, that is the key of no entry. -/
def freeKeyFrom (entries : List RuleEntry) : (fuel i : Nat) → Option String
  | 0, _ => none
  | fuel + 1, i =>
    if entries.all fun e => e.key != Nat.repr i then some (Nat.repr i)
    else freeKeyFrom entries fuel (i + 1)

/-- The least number that is the key of no entry; one of the first numbers, one more than there are
entries, is free. -/
def freeKey (entries : List RuleEntry) : String :=
  (freeKeyFrom entries (entries.length + 1) 0).getD ""

/-- Adds a rule without arguments to a field, under the least number that is free. -/
def bareRule (name rule : String) (s : RuleSet) : RuleSet :=
  let entries := s.entriesAt name
  s.field name (.multi (entries ++ [.shorthand (freeKey entries) rule]))

end RuleSet

end FieldRules
