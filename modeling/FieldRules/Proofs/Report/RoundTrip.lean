import FieldRules.Proofs.Json.RoundTrip
import FieldRules.Report

/-!
# Reports and their JSON form

The report of a field is read as a single outcome if it can be, and an outcome may be written as an
object of one entry too.  Still no report with several rules is mistaken for an outcome, whatever
the rules are called: that one entry has null as its value, and in a report it has the name of an
outcome (`Outcome.ofJson?_object_toJson`).  So reports are read back just as they are
(`Report.ofJson?_toJson_and_render`).
-/

set_option autoImplicit false

namespace FieldRules

namespace Outcome

/-- An outcome is read back from its value. -/
theorem ofJson?_toJson (o : Outcome) : ofJson? o.toJson = some o := by
  cases o <;> decide

/-- The outcomes of several rules, written as an object, are no single outcome. -/
theorem ofJson?_object_toJson (outcomes : Entries Outcome) :
    ofJson? (.object (Entries.mapValues (fun _ o => o.toJson) outcomes)) = none := by
  cases outcomes with
  | nil => rfl
  | cons p rest => cases rest <;> rfl

end Outcome

namespace FieldReport

/-- The outcomes of several rules are read back from their values. -/
theorem outcomes?_mapValues_toJson (outcomes : Entries Outcome) :
    outcomes? (Entries.mapValues (fun _ o => o.toJson) outcomes) = some outcomes := by
  induction outcomes with
  | nil => rfl
  | cons p rest ih =>
    rw [Entries.mapValues_cons, outcomes?, Outcome.ofJson?_toJson, ih]
    rfl

/-- What is said of a field is read back from its value. -/
theorem ofJson?_toJson (r : FieldReport) : ofJson? r.toJson = some r := by
  unfold ofJson?
  cases r with
  | single outcome => simp only [toJson, Outcome.ofJson?_toJson]
  | multi outcomes =>
    simp only [toJson, Outcome.ofJson?_object_toJson, outcomes?_mapValues_toJson, Option.map_some,
      OrderedMap.ofPairs_entries]

/-- The value of what is said of a field is plain. -/
theorem plain_toJson (r : FieldReport) : r.toJson.Plain 1 := by
  cases r with
  | single outcome => exact .string 1 outcome.name
  | multi outcomes =>
    refine .object ?_ ?_
    · rw [Entries.keys_mapValues]
      exact outcomes.nodup
    · intro p hp
      obtain ⟨q, -, rfl⟩ := List.mem_map.1 hp
      exact .string 0 q.2.name

end FieldReport

namespace Report

/-- What is said of several fields is read back from its values. -/
theorem fields?_mapValues_toJson (fields : Entries FieldReport) :
    fields? (Entries.mapValues (fun _ f => f.toJson) fields) = some fields := by
  induction fields with
  | nil => rfl
  | cons p rest ih =>
    rw [Entries.mapValues_cons, fields?, FieldReport.ofJson?_toJson, ih]
    rfl

/-- A report is read back from its value. -/
theorem ofJson?_toJson (r : Report) : ofJson? r.toJson = some r := by
  have hfields : ofPairs r.fields.entries = r := by
    rw [ofPairs, OrderedMap.ofPairs_entries]
  rw [toJson, ofJson?, fields?_mapValues_toJson, Option.map_some, hfields]

/-- The value of a report is plain. -/
theorem plain_toJson (r : Report) : r.toJson.Plain 2 := by
  refine .object ?_ ?_
  · rw [Entries.keys_mapValues]
    exact r.fields.nodup
  · intro p hp
    obtain ⟨q, -, rfl⟩ := List.mem_map.1 hp
    exact q.2.plain_toJson

/-- **Reports are read back.**  Every report is what reading its JSON form gives, and what reading
the text of that form gives: with the fields and the rules in their order, a single outcome as a
single outcome, and the outcomes of several rules as such, also where there are none, or one with
the name of an outcome. -/
theorem ofJson?_toJson_and_render (r : Report) :
    ofJson? r.toJson = some r ∧
      (Json.parse? Json.maxDepth r.toJson.render).bind ofJson? = some r := by
  have htext : Json.parse? Json.maxDepth r.toJson.render = some r.toJson :=
    r.plain_toJson.parse?_render (by decide)
  rw [htext, Option.bind_some]
  exact ⟨ofJson?_toJson r, ofJson?_toJson r⟩

-- The same object is an outcome with null as its value and a report with an outcome as its value.
example :
    (FieldReport.ofJson? (.object [("pass", .null)])).map FieldReport.toJson =
        some (.string "pass") ∧
      (FieldReport.ofJson? (.object [("pass", .string "fail")])).map FieldReport.toJson =
        some (.object [("pass", .string "fail")]) := by
  constructor
  · cbv
  · cbv

end Report

end FieldRules
