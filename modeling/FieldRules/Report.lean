import FieldRules.Outcome

/-!
# Reports

A `Report` gives the outcomes of a validation, field by field.  A field with one rule has one
outcome, a field with several has one for each rule name.  A validation succeeds if every outcome is
a pass.
-/

set_option autoImplicit false

namespace FieldRules

/-- The outcomes of one field. -/
inductive FieldReport where
  /-- The outcome of a field with one rule. -/
  | single (outcome : Outcome)
  /-- The outcomes of a field with several rules, under their names. -/
  | multi (outcomes : OrderedMap Outcome)

namespace FieldReport

/-- All outcomes, in order. -/
def leaves : FieldReport → List Outcome
  | .single outcome => [outcome]
  | .multi outcomes => outcomes.values

/-- The outcome of one of several rules. -/
def rule? (name : String) : FieldReport → Option Outcome
  | .single _ => none
  | .multi outcomes => outcomes.get? name

/-- Whether every outcome is a pass. -/
def isPass (r : FieldReport) : Bool :=
  r.leaves.all Outcome.isPass

/-- The report of a field as JSON. -/
def toJson : FieldReport → Json
  | .single outcome => outcome.toJson
  | .multi outcomes => .object (Entries.mapValues (fun _ o => o.toJson) outcomes.entries)

/-- Reads the outcomes of an object, none if one of them cannot be read. -/
def outcomes? : List (String × Json) → Option (List (String × Outcome))
  | [] => some []
  | (name, v) :: rest => do
    let o ← Outcome.ofJson? v
    let os ← outcomes? rest
    return (name, o) :: os

/-- Reads the report of a field: an outcome if the value is one, else an object of outcomes. -/
def ofJson? (v : Json) : Option FieldReport :=
  match Outcome.ofJson? v with
  | some outcome => some (.single outcome)
  | none =>
    match v with
    | .object entries => (outcomes? entries).map fun os => .multi (.ofPairs os)
    | _ => none

end FieldReport

/-- The outcomes of a validation, field by field. -/
structure Report where
  /-- The fields with their outcomes, in the order of the rule set. -/
  fields : OrderedMap FieldReport

namespace Report

/-- The report without fields. -/
def empty : Report := ⟨.empty⟩

/-- The report of a list of fields. -/
def ofPairs (pairs : List (String × FieldReport)) : Report :=
  ⟨.ofPairs pairs⟩

/-- The report of one field. -/
def get? (field : String) (r : Report) : Option FieldReport :=
  r.fields.get? field

/-- All outcomes, in order. -/
def leaves (r : Report) : List Outcome :=
  r.fields.values.flatMap FieldReport.leaves

/-- Whether every outcome is a pass. -/
def success (r : Report) : Bool :=
  r.leaves.all Outcome.isPass

/-- Whether some outcome is not a pass. -/
def failed (r : Report) : Bool :=
  !r.success

/-- The fields with an outcome that is not a pass, in order. -/
def failedFields (r : Report) : List String :=
  (r.fields.entries.filter fun p => !p.2.isPass).map Prod.fst

/-- The number of fields. -/
def size (r : Report) : Nat :=
  r.fields.size

/-- Whether there are no fields. -/
def isEmpty (r : Report) : Bool :=
  r.fields.isEmpty

/-- The report as JSON. -/
def toJson (r : Report) : Json :=
  .object (Entries.mapValues (fun _ f => f.toJson) r.fields.entries)

/-- Reads the reports of the fields of an object, none if one of them cannot be read. -/
def fields? : List (String × Json) → Option (List (String × FieldReport))
  | [] => some []
  | (name, v) :: rest => do
    let f ← FieldReport.ofJson? v
    let fs ← fields? rest
    return (name, f) :: fs

/-- Reads a report. -/
def ofJson? : Json → Option Report
  | .object entries => (fields? entries).map ofPairs
  | _ => none

end Report

end FieldRules
