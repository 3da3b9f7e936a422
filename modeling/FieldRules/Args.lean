import FieldRules.Json.Basic
import FieldRules.Outcome
import FieldRules.Text.Digits

/-!
# The arguments of a rule

A rule is called with options by name or with a list.  `Args.withDefaults` fills in what the caller
has left out: an option that the caller gives wins, even one that is null.
-/

set_option autoImplicit false

namespace FieldRules

/-- The arguments of a rule. -/
inductive Args where
  /-- Options by name. -/
  | options (entries : Entries Json)
  /-- A list of values. -/
  | list (items : List Json)

/-- A value that cannot be arguments, by what it is called in messages. -/
structure InvalidArgs where
  kind : String
deriving DecidableEq, Repr

/-- The message for a value that cannot be arguments. -/
def InvalidArgs.message (e : InvalidArgs) : String :=
  "rule arguments must be a map or a list, got " ++ e.kind

namespace Args

/-- No arguments. -/
def empty : Args := .options []

/-- Reads arguments: null means none. -/
def ofJson : Json → Except InvalidArgs Args
  | .null => .ok empty
  | .object entries => .ok (.options entries)
  | .array items => .ok (.list items)
  | v => .error ⟨v.kind⟩

/-- The arguments as JSON. -/
def toJson : Args → Json
  | .options entries => .object entries
  | .list items => .array items

/-- Whether two arguments are equal, options compared without regard to order. -/
def same (a b : Args) : Bool :=
  a.toJson.same b.toJson

/-- The option with the given name, or the list value at the position that the name denotes. -/
def get? (key : String) : Args → Option Json
  | .options entries => Entries.get? key entries
  | .list items => (Text.index? key).bind (items[·]?)

/-- The option with the given name unless it is null. -/
def getSet? (key : String) (args : Args) : Option Json :=
  (args.get? key).filter fun v => !v.isNull

/-- All values, in order. -/
def values : Args → List Json
  | .options entries => Entries.values entries
  | .list items => items

/-- Whether there are no arguments. -/
def isEmpty : Args → Bool
  | .options entries => entries.isEmpty
  | .list items => items.isEmpty

/-- The arguments as options, the values of a list under their positions. -/
def toOptions : Args → Entries Json
  | .options entries => entries
  | .list items => Json.indexed items

/-- Sets one option. -/
def set (key : String) (value : Json) (args : Args) : Args :=
  .options (Entries.insert key value args.toOptions)

/-- Fills in the options that are missing.  A list of defaults fills in nothing. -/
def withDefaults (args defaults : Args) : Args :=
  match defaults with
  | .options (entry :: rest) => .options (Entries.fill args.toOptions (entry :: rest))
  | _ => args

/-- What one option says of a value: nothing if it is missing or null, else whether it holds once it
has been read. -/
def verdict {α : Type} (args : Args) (key : String) (read : Json → Option α) (holds : α → Bool) :
    Verdict :=
  match args.getSet? key with
  | none => .satisfied
  | some raw =>
    match read raw with
    | none => .malformed
    | some x => if holds x then .satisfied else .violated

end Args

/-- A rule: from a value, which may be missing, and arguments to an outcome. -/
abbrev Rule : Type := Option Json → Args → Outcome

end FieldRules
