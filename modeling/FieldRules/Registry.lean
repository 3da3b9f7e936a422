import FieldRules.Rules.Builtin
import FieldRules.Unicode.Printable

/-!
# Custom rules

A `Registry` holds the custom rules.  A name that is empty, that a built-in rule has, or that has
been registered before is refused, so no rule ever replaces another.  `Traced` keeps with a result
the rules that have run to produce it.
-/

set_option autoImplicit false

namespace FieldRules

/-- Where a rule comes from. -/
inductive Origin where
  | builtIn
  | custom
deriving DecidableEq, Repr

/-- What an origin is called in messages. -/
def Origin.name : Origin → String
  | .builtIn => "built-in"
  | .custom => "custom"

/-- Why a custom rule is refused. -/
inductive RegistryError where
  /-- The name is taken. -/
  | nameTaken (name : String) (origin : Origin)
  /-- The name is empty. -/
  | emptyName
deriving DecidableEq, Repr

/-- The message for a rule that is refused. -/
def RegistryError.message : RegistryError → String
  | .nameTaken name origin =>
    "rule `" ++ name ++ "` is already registered as a " ++ origin.name ++ " rule"
  | .emptyName => "rule name must not be empty"

/-- One run of a rule. -/
structure Application where
  rule : String
  value : Option Json
  args : Args

/-- A result with the rules that have run to produce it, in order. -/
structure Traced (α : Type) where
  result : α
  applications : List Application

namespace Traced

variable {α β : Type}

/-- A result without any run. -/
def pure (a : α) : Traced α :=
  ⟨a, []⟩

/-- Goes on from a result. -/
def bind (x : Traced α) (f : α → Traced β) : Traced β :=
  ⟨(f x.result).result, x.applications ++ (f x.result).applications⟩

/-- Changes the result. -/
def map (f : α → β) (x : Traced α) : Traced β :=
  ⟨f x.result, x.applications⟩

/-- The results of several, in order. -/
def traverse (f : α → Traced β) : List α → Traced (List β)
  | [] => pure []
  | a :: rest => (f a).bind fun b => (traverse f rest).map (b :: ·)

end Traced

/-- The custom rules under their names. -/
structure Registry where
  /-- The rules, in the order in which they were registered. -/
  custom : OrderedMap Rule

namespace Registry

/-- The registry without custom rules. -/
def empty : Registry := ⟨.empty⟩

/-- Whether a name is that of a custom rule. -/
def isCustom (name : String) (r : Registry) : Bool :=
  (r.custom.get? name).isSome

/-- Where the rule with a name comes from, none if there is no such rule. -/
def origin? (name : String) (r : Registry) : Option Origin :=
  if r.isCustom name then some .custom
  else if Rules.isBuiltin name then some .builtIn
  else none

/-- Whether there is a rule with a name. -/
def contains (name : String) (r : Registry) : Bool :=
  (r.origin? name).isSome

/-- Adds a custom rule. -/
def register (name : String) (rule : Rule) (r : Registry) : Except RegistryError Registry :=
  if name.isEmpty then .error .emptyName
  else
    match r.origin? name with
    | some origin => .error (.nameTaken name origin)
    | none => .ok ⟨r.custom.insert name rule⟩

/-- The names of the custom rules, in the order of their code points. -/
def names (r : Registry) : List String :=
  r.custom.keys.mergeSort fun a b => decide (a ≤ b)

/-- The number of custom rules. -/
def size (r : Registry) : Nat :=
  r.custom.size

/-- Whether there are no custom rules. -/
def isEmpty (r : Registry) : Bool :=
  r.custom.isEmpty

/-- Applies the rule with a name to a value, a custom rule before a built-in one.  An unknown rule
cannot tell. -/
def dispatch (name : String) (value : Option Json) (args : Args) (r : Registry) :
    Traced Outcome :=
  match r.custom.get? name with
  | some rule => ⟨rule value args, [⟨name, value, args⟩]⟩
  | none =>
    match Rules.builtin? name with
    | some rule => ⟨rule value args, [⟨name, value, args⟩]⟩
    | none => ⟨.indeterminate, []⟩

/-- A character of a name in quotation marks; one that does not show is given by its code point. -/
def escape (c : Char) : List Char :=
  if c = '"' then ['\\', '"']
  else if c = '\\' then ['\\', '\\']
  else if c = '\n' then ['\\', 'n']
  else if c = '\r' then ['\\', 'r']
  else if c = '\t' then ['\\', 't']
  else if c.toNat = 0 then ['\\', '0']
  else if Unicode.isPrintable c then [c]
  else ['\\', 'u', '{'] ++ Nat.toDigits 16 c.toNat ++ ['}']

/-- What a registry looks like: the sorted names of its custom rules. -/
def describe (r : Registry) : String :=
  let quote (name : String) : String := String.ofList ('"' :: name.toList.flatMap escape ++ ['"'])
  "RuleRegistry \x7b custom: [" ++ String.intercalate ", " (r.names.map quote) ++ "] \x7d"

end Registry

end FieldRules
