import FieldRules.Proofs.Validation.Reported

/-!
# When a validation succeeds

A rule set asks for one application of a rule for each field with one rule, and for each entry of a
field with several.  Where two entries of a field name the same rule, the report keeps the outcome
of the later one alone.  So a validation succeeds exactly if the entries that decide pass
(`Validator.success_iff_succeeds`), and every application passes exactly if the validation succeeds
and no failure is hidden by a later entry (`Validator.allPass_iff_success`).
-/

set_option autoImplicit false

namespace FieldRules

namespace RuleEntry

/-- Whether an entry of a field decides the outcome of its rule: no later entry names the rule. -/
def Decides (entries : List RuleEntry) (e : RuleEntry) : Prop :=
  ∃ before after, entries = before ++ e :: after ∧ ∀ later ∈ after, later.rule ≠ e.rule

/-- Whether a later entry of the field names the rule of an entry. -/
def Overridden (entries : List RuleEntry) (e : RuleEntry) : Prop :=
  ∃ before after, entries = before ++ e :: after ∧ ∃ later ∈ after, later.rule = e.rule

/-- An entry that decides is one of the entries. -/
theorem Decides.mem {entries : List RuleEntry} {e : RuleEntry} (h : Decides entries e) :
    e ∈ entries := by
  obtain ⟨before, after, rfl, -⟩ := h
  simp

/-- An entry that is overridden is one of the entries. -/
theorem Overridden.mem {entries : List RuleEntry} {e : RuleEntry} (h : Overridden entries e) :
    e ∈ entries := by
  obtain ⟨before, after, rfl, -⟩ := h
  simp

/-- Every entry decides or has a later one that names its rule. -/
theorem decides_or_overridden {entries : List RuleEntry} {e : RuleEntry} (h : e ∈ entries) :
    Decides entries e ∨ Overridden entries e := by
  obtain ⟨before, after, rfl⟩ := List.append_of_mem h
  by_cases hlater : ∃ later ∈ after, later.rule = e.rule
  · exact Or.inr ⟨before, after, rfl, hlater⟩
  · refine Or.inl ⟨before, after, rfl, ?_⟩
    intro later hmem hrule
    exact hlater ⟨later, hmem, hrule⟩

end RuleEntry

namespace Validator

/-! ## The applications that a rule set asks for -/

/-- Whether an entry has proper arguments and its rule passes the value. -/
def EntryPasses (v : Validator) (value : Option Json) : RuleEntry → Prop
  | .shorthand _ rule => (v.check rule value .empty).result = .pass
  | .withArgs rule args => (v.check rule value args).result = .pass
  | .invalidArgs _ _ => False

/-- Whether the rules of a field can be read and each of them passes the value of the field. -/
def SpecPasses (v : Validator) (field : String) : RuleSpec → Prop
  | .single rule => (v.check rule (v.get? field) .empty).result = .pass
  | .multi entries => ∀ e ∈ entries, v.EntryPasses (v.get? field) e
  | .malformed _ => False

/-- Whether every rule of every field passes. -/
def AllPass (v : Validator) (rules : RuleSet) : Prop :=
  ∀ p ∈ (v.effectiveRules rules).fields.entries, v.SpecPasses p.1 p.2

/-- Whether the rules of a field can be read and those that decide pass the value of the field. -/
def SpecSucceeds (v : Validator) (field : String) : RuleSpec → Prop
  | .single rule => (v.check rule (v.get? field) .empty).result = .pass
  | .multi entries => ∀ e, e.Decides entries → v.EntryPasses (v.get? field) e
  | .malformed _ => False

/-- Whether the rules that decide pass, in every field. -/
def Succeeds (v : Validator) (rules : RuleSet) : Prop :=
  ∀ p ∈ (v.effectiveRules rules).fields.entries, v.SpecSucceeds p.1 p.2

/-- Whether some entry does not pass and a later entry of its field names the same rule. -/
def HidesFailure (v : Validator) (rules : RuleSet) : Prop :=
  ∃ field entries, (field, RuleSpec.multi entries) ∈ (v.effectiveRules rules).fields.entries ∧
    ∃ e : RuleEntry, e.Overridden entries ∧ ¬v.EntryPasses (v.get? field) e

/-! ## What a report says -/

/-- An entry passes if its outcome is a pass. -/
theorem entryPasses_iff (v : Validator) (value : Option Json) (e : RuleEntry) :
    v.EntryPasses value e ↔ v.entryOutcome value e = .pass := by
  cases e with
  | shorthand key rule => rfl
  | withArgs rule args => rfl
  | invalidArgs rule raw => simp [EntryPasses, entryOutcome, RuleEntry.asked?]

/-- The outcomes that the report of a field keeps are those of the entries that decide. -/
theorem mem_values_outcomes_iff (v : Validator) (value : Option Json) (entries : List RuleEntry)
    (o : Outcome) :
    o ∈ Entries.values
        (Entries.ofPairs (entries.map fun e => (e.rule, v.entryOutcome value e))) ↔
      ∃ e : RuleEntry, e.Decides entries ∧ v.entryOutcome value e = o := by
  rw [Entries.mem_values_ofPairs_iff]
  constructor
  · rintro ⟨before, rule, after, h, hrule⟩
    obtain ⟨before', rest, rfl, -, hrest⟩ := List.map_eq_append_iff.1 h
    obtain ⟨e, after', rfl, he, rfl⟩ := List.map_eq_cons_iff.1 hrest
    obtain ⟨rfl, rfl⟩ := Prod.mk.inj he
    refine ⟨e, ⟨before', after', rfl, ?_⟩, rfl⟩
    intro later hlater heq
    apply hrule
    simp only [Entries.keys, List.map_map, List.mem_map]
    exact ⟨later, hlater, heq⟩
  · rintro ⟨e, ⟨before, after, rfl, hafter⟩, rfl⟩
    refine ⟨_, e.rule, _, by rw [List.map_append, List.map_cons], ?_⟩
    simp only [Entries.keys, List.map_map, List.mem_map, not_exists, not_and]
    exact hafter

/-- The report of a field is a pass exactly if the rules that decide pass. -/
theorem isPass_checkField_iff (v : Validator) (field : String) (spec : RuleSpec) :
    (v.checkField field spec).result.isPass = true ↔ v.SpecSucceeds field spec := by
  cases spec with
  | single rule =>
    simp [checkField, Traced.map, FieldReport.isPass, FieldReport.leaves, Outcome.isPass,
      SpecSucceeds]
  | multi entries =>
    rw [result_checkField_multi]
    simp only [FieldReport.isPass, FieldReport.leaves, OrderedMap.values, OrderedMap.ofPairs,
      List.all_eq_true, mem_values_outcomes_iff, Outcome.isPass, beq_iff_eq, SpecSucceeds,
      entryPasses_iff]
    constructor
    · intro h e he
      exact h _ ⟨e, he, rfl⟩
    · rintro h o ⟨e, he, rfl⟩
      exact h e he
  | malformed raw =>
    simp [checkField, Traced.pure, FieldReport.isPass, FieldReport.leaves, Outcome.isPass,
      SpecSucceeds]

/-- A validation succeeds exactly if the rules that decide pass. -/
theorem success_iff_succeeds (v : Validator) (rules : RuleSet) :
    (v.success rules).result = true ↔ v.Succeeds rules := by
  have hreport : (v.success rules).result = (v.validate rules).result.success := rfl
  rw [hreport, Report.success_eq_true_iff, entries_validate]
  simp only [List.mem_map, Succeeds]
  constructor
  · intro h p hp
    exact (isPass_checkField_iff v p.1 p.2).1 (h _ ⟨p, hp, rfl⟩)
  · rintro h q ⟨p, hp, rfl⟩
    exact (isPass_checkField_iff v p.1 p.2).2 (h p hp)

/-- Every rule of a field passes exactly if those that decide pass and none of the others fails. -/
theorem specPasses_iff (v : Validator) (field : String) (spec : RuleSpec) :
    v.SpecPasses field spec ↔
      v.SpecSucceeds field spec ∧
        ∀ entries, spec = .multi entries →
          ∀ e : RuleEntry, e.Overridden entries → v.EntryPasses (v.get? field) e := by
  cases spec with
  | single rule => simp [SpecPasses, SpecSucceeds]
  | malformed raw => simp [SpecPasses, SpecSucceeds]
  | multi entries =>
    simp only [SpecPasses, SpecSucceeds, RuleSpec.multi.injEq, forall_eq']
    constructor
    · intro h
      exact ⟨fun e he => h e he.mem, fun e he => h e he.mem⟩
    · rintro ⟨hdecides, hoverridden⟩ e he
      rcases RuleEntry.decides_or_overridden he with hd | ho
      · exact hdecides e hd
      · exact hoverridden e ho

/-- **Success and the rules that a rule set asks for.**  A validation succeeds exactly if no spec is
malformed and every entry that decides the outcome of its rule has proper arguments and passes.
Every entry does so, whether it decides or not, exactly if the validation succeeds and hides no
failure. -/
theorem allPass_iff_success (v : Validator) (rules : RuleSet) :
    ((v.success rules).result = true ↔ v.Succeeds rules) ∧
      (v.AllPass rules ↔ (v.success rules).result = true ∧ ¬v.HidesFailure rules) := by
  refine ⟨success_iff_succeeds v rules, ?_⟩
  rw [success_iff_succeeds]
  simp only [AllPass, Succeeds, specPasses_iff]
  constructor
  · intro h
    refine ⟨fun p hp => (h p hp).1, ?_⟩
    rintro ⟨field, entries, hp, e, he, hfails⟩
    exact hfails ((h _ hp).2 entries rfl e he)
  · rintro ⟨hsucceeds, hhidden⟩ ⟨field, spec⟩ hp
    refine ⟨hsucceeds _ hp, ?_⟩
    rintro entries rfl e he
    by_contra hfails
    exact hhidden ⟨field, entries, hp, e, he, hfails⟩

/-- The rule `in` fails without arguments, and the later entry of its name hides that. -/
theorem success_of_hidden_failure :
    ∃ rules,
      RuleSet.ofJson (.object
        [("f", .object [("0", .string "in"), ("in", .array [.string "x"])])]) = .ok rules ∧
      ((Validator.new (.object [("f", .string "x")])).success rules).result = true ∧
      ¬(Validator.new (.object [("f", .string "x")])).AllPass rules := by
  have hfails : ((Validator.new (.object [("f", .string "x")])).check "in" (some (.string "x"))
      .empty).result = .fail := by cbv
  refine ⟨_, rfl, by cbv, ?_⟩
  intro h
  have hpasses : ((Validator.new (.object [("f", .string "x")])).check "in" (some (.string "x"))
      .empty).result = .pass :=
    h ("f", .multi [.shorthand "0" "in", .withArgs "in" (.list [.string "x"])])
      (List.mem_singleton.2 rfl) (.shorthand "0" "in") (by simp)
  rw [hfails] at hpasses
  cases hpasses

end Validator

end FieldRules
