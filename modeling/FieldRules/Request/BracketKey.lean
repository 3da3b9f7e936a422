/-!
# Keys with brackets

The key of a parameter may lead into nested values: a head, and then names in brackets.  Empty
brackets mean a new element at the end.
-/

set_option autoImplicit false

namespace FieldRules

/-- One step that a key leads down. -/
inductive Segment where
  /-- To the entry with this name. -/
  | named (name : String)
  /-- To a new element at the end. -/
  | append
deriving DecidableEq, Repr

namespace BracketKey

/-- How many brackets a key may have. -/
def maxNesting : Nat := 64

mutual

/-- The names in the pairs of brackets at the head of a text, up to the first character that does
not open a pair. -/
def groups : List Char → List (List Char)
  | '[' :: rest =>
    match closing? rest with
    | some (name, more) => name :: more
    | none => []
  | _ => []

/-- After an opening bracket: the name up to the closing bracket, and the names in the pairs of
brackets that follow; none if the bracket is never closed. -/
def closing? : List Char → Option (List Char × List (List Char))
  | [] => none
  | ']' :: rest => some ([], groups rest)
  | c :: rest => (closing? rest).map fun (name, more) => (c :: name, more)

end

/-- The segment that a pair of brackets stands for. -/
def segment (name : List Char) : Segment :=
  if name.isEmpty then .append else .named (String.ofList name)

/-- The segments of a key; none if it has too many brackets.  A key that begins with a bracket, or
that has no pair of brackets after its head, is one name. -/
def segments? (key : String) : Option (List Segment) :=
  let (head, rest) := key.toList.span (· != '[')
  let names := groups rest
  if head.isEmpty ∨ names.isEmpty then some [.named key]
  else if names.length > maxNesting then none
  else some (.named (String.ofList head) :: names.map segment)

end BracketKey

end FieldRules
