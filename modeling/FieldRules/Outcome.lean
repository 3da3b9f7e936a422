import FieldRules.Json.Basic

/-!
# Outcomes

A rule passes a value, fails it, or cannot tell because it is not called as it should be.  Checks
that are made one after the other give their `Verdict`s; the first that is not satisfied decides.
-/

set_option autoImplicit false

namespace FieldRules

/-- What applying a rule to a value comes to. -/
inductive Outcome where
  /-- The value satisfies the rule. -/
  | pass
  /-- The value violates the rule. -/
  | fail
  /-- The rule could not be applied as it was called. -/
  | indeterminate
deriving DecidableEq, Repr

/-- What one of several checks says. -/
inductive Verdict where
  | satisfied
  | violated
  /-- The check is not written as it should be. -/
  | malformed
deriving DecidableEq, Repr

namespace Outcome

/-- The name of an outcome. -/
def name : Outcome → String
  | .pass => "pass"
  | .fail => "fail"
  | .indeterminate => "indeterminate"

/-- The outcome with the given name. -/
def ofName? (s : String) : Option Outcome :=
  [pass, fail, indeterminate].find? (·.name == s)

/-- Whether the outcome is a pass. -/
def isPass (o : Outcome) : Bool :=
  o == .pass

/-- Whether the outcome is a failure. -/
def isFail (o : Outcome) : Bool :=
  o == .fail

/-- Whether the rule could not be applied. -/
def isIndeterminate (o : Outcome) : Bool :=
  o == .indeterminate

/-- A pass or a failure. -/
def ofBool (passed : Bool) : Outcome :=
  if passed then .pass else .fail

/-- A check passes exactly if it succeeds. -/
@[simp] theorem ofBool_eq_pass_iff {b : Bool} : ofBool b = .pass ↔ b = true := by
  cases b <;> decide

/-- A check fails exactly if it does not succeed. -/
@[simp] theorem ofBool_eq_fail_iff {b : Bool} : ofBool b = .fail ↔ b = false := by
  cases b <;> decide

/-- Two checks have the same outcome exactly if both succeed or neither does. -/
theorem ofBool_inj {a b : Bool} : ofBool a = ofBool b ↔ a = b := by
  cases a <;> cases b <;> decide

/-- A pass or a failure, or indeterminate without an answer. -/
def ofOption : Option Bool → Outcome
  | some passed => ofBool passed
  | none => .indeterminate

/-- The outcome that the first verdict other than satisfied decides; without one, a pass. -/
def ofVerdicts : List Verdict → Outcome
  | [] => .pass
  | .satisfied :: rest => ofVerdicts rest
  | .violated :: _ => .fail
  | .malformed :: _ => .indeterminate

/-- An outcome as JSON: its name. -/
def toJson (o : Outcome) : Json :=
  .string o.name

/-- Reads an outcome: its name, or an object with that name as its one key and null as the value. -/
def ofJson? : Json → Option Outcome
  | .string s => ofName? s
  | .object [(s, .null)] => ofName? s
  | _ => none

end Outcome

end FieldRules
