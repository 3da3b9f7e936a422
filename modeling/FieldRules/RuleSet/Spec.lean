import FieldRules.Args

/-!
# The rules of one field

`RuleSpec` is what a rule set says of one field: one rule, several, or something that cannot be
read. It is read from JSON by `RuleSpec.ofJson`, which keeps what it cannot read, and written back
by `RuleSpec.toJson`.
-/

set_option autoImplicit false

namespace FieldRules

/-- One of several rules of a field. -/
inductive RuleEntry where
  /-- A rule without arguments, under a key of its own. -/
  | shorthand (key rule : String)
  /-- A rule with arguments, under its name. -/
  | withArgs (rule : String) (args : Args)
  /-- A rule with a value that cannot be arguments, under its name. -/
  | invalidArgs (rule : String) (raw : Json)

namespace RuleEntry

/-- Reads the entry under a key: a text names a rule, any other value is arguments of the rule that
the key names. -/
def ofPair (key : String) (value : Json) : RuleEntry :=
  match value with
  | .string rule => .shorthand key rule
  | value =>
    match Args.ofJson value with
    | .ok args => .withArgs key args
    | .error _ => .invalidArgs key value

/-- The name of the rule. -/
def rule : RuleEntry → String
  | .shorthand _ rule => rule
  | .withArgs rule _ => rule
  | .invalidArgs rule _ => rule

/-- The key that the entry is written under. -/
def key : RuleEntry → String
  | .shorthand key _ => key
  | .withArgs rule _ => rule
  | .invalidArgs rule _ => rule

/-- The value that the entry is written as. -/
def toJson : RuleEntry → Json
  | .shorthand _ rule => .string rule
  | .withArgs _ args => args.toJson
  | .invalidArgs _ raw => raw

/-- Whether two entries are equal, options compared without regard to order. -/
def same : RuleEntry → RuleEntry → Bool
  | .shorthand k r, .shorthand k' r' => k == k' && r == r'
  | .withArgs r a, .withArgs r' a' => r == r' && a.same a'
  | .invalidArgs r v, .invalidArgs r' v' => r == r' && v.same v'
  | _, _ => false

end RuleEntry

/-- The rules of one field. -/
inductive RuleSpec where
  /-- One rule without arguments. -/
  | single (rule : String)
  /-- Several rules. -/
  | multi (entries : List RuleEntry)
  /-- A value that says nothing of rules. -/
  | malformed (raw : Json)

namespace RuleSpec

/-- Reads the rules of a field: a text names one, an object or a list holds several. -/
def ofJson : Json → RuleSpec
  | .string rule => .single rule
  | .object entries => .multi (entries.map fun p => .ofPair p.1 p.2)
  | .array items => .multi ((Json.indexed items).map fun p => .ofPair p.1 p.2)
  | v => .malformed v

/-- The rules of a field as JSON. -/
def toJson : RuleSpec → Json
  | .single rule => .string rule
  | .multi entries => .object (Entries.ofPairs (entries.map fun e => (e.key, e.toJson)))
  | .malformed raw => raw

/-- Whether the value says nothing of rules. -/
def isMalformed : RuleSpec → Bool
  | .malformed _ => true
  | _ => false

/-- The names of the rules, in order. -/
def ruleNames : RuleSpec → List String
  | .single rule => [rule]
  | .multi entries => entries.map RuleEntry.rule
  | .malformed _ => []

/-- The rules as several: one rule gets the key zero, and what cannot be read is dropped. -/
def toEntries : RuleSpec → List RuleEntry
  | .single rule => [.shorthand "0" rule]
  | .multi entries => entries
  | .malformed _ => []

/-- Whether two lists of entries are equal, place by place. -/
def sameEntries : List RuleEntry → List RuleEntry → Bool
  | [], [] => true
  | a :: as, b :: bs => a.same b && sameEntries as bs
  | _, _ => false

/-- Whether two specs are equal. -/
def same : RuleSpec → RuleSpec → Bool
  | .single a, .single b => a == b
  | .multi as, .multi bs => sameEntries as bs
  | .malformed a, .malformed b => a.same b
  | _, _ => false

end RuleSpec

end FieldRules
