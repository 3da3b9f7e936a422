import FieldRules.Args
import FieldRules.Loose

/-!
# Bounds on a count

Lengths and element counts are bounded alike, by a largest, a smallest and an exact number.  A bound
that is not positive does not count, and all three are read before any of them is checked.
-/

set_option autoImplicit false

namespace FieldRules.Rules

/-- The names of the three bounds on a count. -/
structure BoundNames where
  most : String
  least : String
  exact : String

/-- Whether a bound can be read if it is there. -/
def readable (args : Args) (key : String) : Bool :=
  args.verdict key Json.integer? (fun _ => true) == .satisfied

/-- What the bounds say of a count, in the order in which they are checked. -/
def BoundNames.verdicts (names : BoundNames) (args : Args) (count : Nat) : List Verdict :=
  let check (key : String) (holds : Int → Bool) : Verdict :=
    args.verdict key Json.integer? fun n => decide (n ≤ 0) || holds n
  [if [names.most, names.least, names.exact].all (readable args) then .satisfied else .malformed,
    check names.most fun n => decide ((count : Int) ≤ n),
    check names.least fun n => decide (n ≤ (count : Int)),
    check names.exact fun n => decide ((count : Int) = n)]

end FieldRules.Rules
