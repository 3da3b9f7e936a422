import FieldRules.Args
import FieldRules.Loose

/-!
# Numbers

The rule `numeric` passes numbers and texts that are numbers if they keep the bounds `max` and `min`
and have at least `decimals` digits after the point; the bounds are checked in this order.  The
rules `number` and `integer` accept fewer values and then do the same.
-/

set_option autoImplicit false

namespace FieldRules.Rules

/-- What stands after the first point of a text, up to the first letter that begins an exponent. -/
def writtenFraction (cs : List Char) : List Char :=
  let mantissa := cs.takeWhile fun c => c != 'e' && c != 'E'
  ((Text.splitFirst? (· == '.') mantissa).map Prod.snd).getD []

/-- How many digits a value has after its point: a text as it is written, a floating-point number in
its shortest decimal without an exponent. -/
def fractionDigits : Json → Nat
  | .string s => (writtenFraction (Text.trim s.toList)).length
  | .number (.float x) => (-x.shortest.exponent).toNat
  | _ => 0

/-- Passes numbers and texts that are numbers within the bounds. -/
def numeric : Rule := fun value args =>
  match value with
  | none => .fail
  | some v =>
    match v.number? with
    | none => .fail
    | some x =>
      .ofVerdicts
        [args.verdict "max" Json.number? fun max => !max.lt x,
          args.verdict "min" Json.number? fun min => !x.lt min,
          args.verdict "decimals" Json.integer? fun d => decide (d ≤ (fractionDigits v : Int))]

/-- Passes numbers, but no texts, within the bounds. -/
def number : Rule := fun value args =>
  match value with
  | some (.number _) => numeric value args
  | _ => .fail

/-- Passes integers within the bounds.  No digits after the point are asked for. -/
def integer : Rule := fun value args =>
  match value with
  | some (.number (.int _)) => numeric value (args.set "decimals" (.number (.int { val := 0 })))
  | _ => .fail

end FieldRules.Rules
