import FieldRules.Proofs.Entries
import FieldRules.Validator
import Mathlib

/-!
# Runs of registrations

A run is a row of calls that add custom rules to a validator, of which some are refused.  What one
call does is said by `Registry.register_eq_ok_iff`: it succeeds exactly if its name is not empty and
no rule has it, and then puts the rule after those that are there.  So after a run the custom rules
are those of the calls that succeeded, in order (`Validator.entries_afterCalls`), and none of them
has the name of a built-in rule.  What each name then leads to, and that no further call can change
it, is `Validator.dispatch_afterCalls`.
-/

set_option autoImplicit false

namespace FieldRules

namespace Registry

/-! ## Looking a rule up -/

/-- The rule that a name leads to, a custom one before a built-in one. -/
def rule? (name : String) (r : Registry) : Option Rule :=
  (r.custom.get? name).or (Rules.builtin? name)

/-- A name is known exactly if there is a rule for it. -/
theorem contains_eq_isSome_rule? (name : String) (r : Registry) :
    r.contains name = (r.rule? name).isSome := by
  unfold contains origin? isCustom Rules.isBuiltin rule?
  cases r.custom.get? name with
  | some rule => rfl
  | none => cases Rules.builtin? name <;> rfl

/-- Calling a rule gives what the rule says, and runs it once; an unknown one is not run. -/
theorem dispatch_eq_rule? (name : String) (value : Option Json) (args : Args) (r : Registry) :
    r.dispatch name value args =
      match r.rule? name with
      | some rule => ⟨rule value args, [⟨name, value, args⟩]⟩
      | none => ⟨.indeterminate, []⟩ := by
  unfold dispatch rule?
  cases r.custom.get? name <;> rfl

/-- A call runs the rule that it names once, if there is one. -/
theorem applications_dispatch (name : String) (value : Option Json) (args : Args)
    (r : Registry) :
    (r.dispatch name value args).applications =
      if r.contains name then [⟨name, value, args⟩] else [] := by
  rw [dispatch_eq_rule?, contains_eq_isSome_rule?]
  cases r.rule? name <;> rfl

/-! ## One call -/

/-- The names that have no origin are those of no rule. -/
theorem origin?_eq_none_iff (name : String) (r : Registry) :
    r.origin? name = none ↔ name ∉ r.custom.keys ∧ name ∉ Entries.keys Rules.builtins := by
  have hcustom : r.isCustom name = false ↔ name ∉ r.custom.keys := by
    rw [isCustom, Option.isSome_eq_false_iff, Option.isNone_iff_eq_none]
    exact Entries.get?_eq_none_iff name r.custom.entries
  have hbuiltin : Rules.isBuiltin name = false ↔ name ∉ Entries.keys Rules.builtins := by
    rw [Rules.isBuiltin, Option.isSome_eq_false_iff, Option.isNone_iff_eq_none]
    exact Entries.get?_eq_none_iff name Rules.builtins
  rw [← hcustom, ← hbuiltin, origin?]
  cases r.isCustom name <;> cases Rules.isBuiltin name <;> simp

/-- A name is unknown exactly if no rule of either kind has it. -/
theorem contains_eq_false_iff (name : String) (r : Registry) :
    r.contains name = false ↔ name ∉ r.custom.keys ∧ name ∉ Entries.keys Rules.builtins := by
  rw [contains, Option.isSome_eq_false_iff, Option.isNone_iff_eq_none, origin?_eq_none_iff]

/-- A call succeeds exactly if its name is not empty and no rule has it, and then the rule comes
after those that are there. -/
theorem register_eq_ok_iff (name : String) (rule : Rule) (r r' : Registry) :
    r.register name rule = .ok r' ↔
      (name ≠ "" ∧ name ∉ r.custom.keys ∧ name ∉ Entries.keys Rules.builtins) ∧
        r'.custom.entries = r.custom.entries ++ [(name, rule)] := by
  have hinsert (hname : name ∉ r.custom.keys) :
      (r.custom.insert name rule).entries = r.custom.entries ++ [(name, rule)] :=
    Entries.insert_of_notMem rule hname
  rw [← origin?_eq_none_iff, register]
  by_cases hempty : name = ""
  · simp [hempty]
  · have hempty' : name.isEmpty = false := by simpa using hempty
    rw [if_neg (by simp [hempty'])]
    cases horigin : r.origin? name with
    | some origin => simp
    | none =>
      have hfresh := hinsert ((origin?_eq_none_iff name r).1 horigin).1
      obtain ⟨custom'⟩ := r'
      simp only [Except.ok.injEq, Registry.mk.injEq, ne_eq, hempty, not_false_eq_true, true_and]
      constructor
      · rintro rfl
        exact hfresh
      · intro hentries
        exact OrderedMap.eq_of_entries_eq (hfresh.trans hentries.symm)

/-- A name leads to the custom rule that has it, else to the built-in one, else to none. -/
theorem dispatch_eq (name : String) (value : Option Json) (args : Args) (r : Registry) :
    r.dispatch name value args =
      match r.custom.get? name with
      | some rule => ⟨rule value args, [⟨name, value, args⟩]⟩
      | none =>
        if name ∈ Entries.keys Rules.builtins then
          ⟨Rules.check name value args, [⟨name, value, args⟩]⟩
        else ⟨.indeterminate, []⟩ := by
  unfold dispatch
  cases r.custom.get? name with
  | some rule => rfl
  | none =>
    cases hbuiltin : Rules.builtin? name with
    | some rule =>
      have hmem : name ∈ Entries.keys Rules.builtins := by
        by_contra hmem
        rw [← Entries.get?_eq_none_iff] at hmem
        rw [Rules.builtin?, hmem] at hbuiltin
        cases hbuiltin
      simp [hmem, Rules.check, hbuiltin]
    | none => simp [(Entries.get?_eq_none_iff name Rules.builtins).1 hbuiltin]

/-- No rule runs exactly if the name is unknown. -/
theorem applications_dispatch_eq_nil_iff (name : String) (value : Option Json) (args : Args)
    (r : Registry) :
    (r.dispatch name value args).applications = [] ↔ r.contains name = false := by
  rw [applications_dispatch]
  cases r.contains name <;> simp

end Registry

namespace Validator

/-! ## Runs -/

/-- A call that adds a custom rule. -/
structure Call where
  name : String
  rule : Rule

/-- The validator after a call; one that is refused leaves it as it was. -/
def afterCall (v : Validator) (call : Call) : Validator :=
  match v.addRule call.name call.rule with
  | .ok v' => v'
  | .error _ => v

/-- The validator after several calls. -/
def afterCalls (v : Validator) (calls : List Call) : Validator :=
  calls.foldl afterCall v

/-- The calls that succeed, in order. -/
def succeeding (v : Validator) : List Call → List Call
  | [] => []
  | call :: rest =>
    match v.addRule call.name call.rule with
    | .ok v' => call :: succeeding v' rest
    | .error _ => succeeding v rest

/-- A call succeeds exactly if its name is not empty and no rule has it, and then the rule comes
after those that are there. -/
theorem addRule_eq_ok_iff (v v' : Validator) (call : Call) :
    v.addRule call.name call.rule = .ok v' ↔
      (call.name ≠ "" ∧ call.name ∉ v.registry.custom.keys ∧
        call.name ∉ Entries.keys Rules.builtins) ∧
        v'.registry.custom.entries = v.registry.custom.entries ++ [(call.name, call.rule)] ∧
          v' = { v with registry := v'.registry } := by
  have hadd : v.addRule call.name call.rule =
      (v.registry.register call.name call.rule).map fun r => { v with registry := r } := by
    unfold addRule
    cases v.registry.register call.name call.rule <;> rfl
  rw [hadd, ← and_assoc, ← Registry.register_eq_ok_iff]
  cases hregister : v.registry.register call.name call.rule with
  | ok r =>
    simp only [Except.map, Except.ok.injEq]
    constructor
    · rintro rfl
      exact ⟨rfl, rfl⟩
    · rintro ⟨rfl, h⟩
      exact h.symm
  | error e => simp [Except.map]

/-- A call succeeds exactly if its name is not empty and no rule has it. -/
theorem exists_addRule_eq_ok_iff (v : Validator) (call : Call) :
    (∃ v', v.addRule call.name call.rule = .ok v') ↔
      call.name ≠ "" ∧ call.name ∉ v.registry.custom.keys ∧
        call.name ∉ Entries.keys Rules.builtins := by
  constructor
  · rintro ⟨v', h⟩
    exact ((addRule_eq_ok_iff v v' call).1 h).1
  · intro h
    have hentries : (v.registry.custom.insert call.name call.rule).entries =
        v.registry.custom.entries ++ [(call.name, call.rule)] :=
      Entries.insert_of_notMem call.rule h.2.1
    exact ⟨{ v with registry := ⟨v.registry.custom.insert call.name call.rule⟩ },
      (addRule_eq_ok_iff v _ call).2 ⟨h, hentries, rfl⟩⟩

/-- A call that is refused leaves the validator as it was. -/
theorem afterCall_of_error {v : Validator} {call : Call} {e : RegistryError}
    (h : v.addRule call.name call.rule = .error e) : v.afterCall call = v := by
  simp [afterCall, h]

/-- Further calls go on from where the first ones end. -/
theorem afterCalls_append (v : Validator) (calls more : List Call) :
    v.afterCalls (calls ++ more) = (v.afterCalls calls).afterCalls more := by
  simp [afterCalls]

/-- After a run the custom rules are those from before and then those of the calls that succeeded,
in order. -/
theorem entries_afterCalls (v : Validator) (calls : List Call) :
    (v.afterCalls calls).registry.custom.entries =
      v.registry.custom.entries ++
        (v.succeeding calls).map fun call => (call.name, call.rule) := by
  induction calls generalizing v with
  | nil => simp [afterCalls, succeeding]
  | cons call rest ih =>
    have hrest : v.afterCalls (call :: rest) = (v.afterCall call).afterCalls rest := rfl
    rw [hrest, ih]
    cases hadd : v.addRule call.name call.rule with
    | ok v' =>
      have hentries := ((addRule_eq_ok_iff v v' call).1 hadd).2.1
      simp [afterCall, succeeding, hadd, hentries]
    | error e => simp [afterCall_of_error hadd, succeeding, hadd]

/-- No call succeeds with the name of a built-in rule. -/
theorem notMem_builtins_of_mem_succeeding {v : Validator} {calls : List Call} {call : Call}
    (h : call ∈ v.succeeding calls) : call.name ∉ Entries.keys Rules.builtins := by
  induction calls generalizing v with
  | nil => simp [succeeding] at h
  | cons first rest ih =>
    rw [succeeding] at h
    cases hadd : v.addRule first.name first.rule with
    | ok v' =>
      rw [hadd] at h
      rcases List.mem_cons.1 h with rfl | hrest
      · exact ((addRule_eq_ok_iff v v' call).1 hadd).1.2.2
      · exact ih hrest
    | error e =>
      rw [hadd] at h
      exact ih h

/-- A name reads the rule of the first call that has it. -/
theorem get?_map_call (name : String) (calls : List Call) :
    Entries.get? name (calls.map fun call => (call.name, call.rule)) =
      (calls.find? (·.name == name)).map Call.rule :=
  Entries.get?_map name Call.name Call.rule calls

/-- What a known name leads to stays the same through every run. -/
theorem dispatch_afterCalls_of_contains {v : Validator} {name : String}
    (h : v.registry.contains name = true) (calls : List Call) (value : Option Json) (args : Args) :
    (v.afterCalls calls).registry.dispatch name value args =
      v.registry.dispatch name value args := by
  have hafter : (v.afterCalls calls).registry.custom.get? name =
      (v.registry.custom.get? name).or
        (((v.succeeding calls).find? (·.name == name)).map Call.rule) := by
    rw [OrderedMap.get?, entries_afterCalls, Entries.get?_append, get?_map_call]
    rfl
  rw [Registry.dispatch_eq, Registry.dispatch_eq, hafter]
  cases hcustom : v.registry.custom.get? name with
  | some rule => rfl
  | none =>
    -- The name is that of a built-in rule, so no call has succeeded with it.
    have hname : name ∈ Entries.keys Rules.builtins := by
      by_contra hname
      have hkeys : name ∉ v.registry.custom.keys := (Entries.get?_eq_none_iff name _).1 hcustom
      rw [(Registry.contains_eq_false_iff name v.registry).2 ⟨hkeys, hname⟩] at h
      cases h
    have hnone : (v.succeeding calls).find? (·.name == name) = none := by
      rw [List.find?_eq_none]
      intro call hcall heq
      rw [beq_iff_eq] at heq
      exact notMem_builtins_of_mem_succeeding hcall (heq ▸ hname)
    rw [hnone, Option.none_or, Option.map_none]

/-- **What a run of registrations leaves.**  Start without custom rules and take any run of calls. A
further call succeeds exactly if its name is not empty, no built-in rule has it, and no call of the
run has succeeded with it; if it is refused, all stays as it is.  The custom rules have the names of
the calls that succeeded, and none of them the name of a built-in rule.  A name leads to the rule of
the first call that succeeded with it, else to the built-in rule, else to no rule, which is so
exactly if the name is unknown.  And what a known name leads to stays the same through every further
run. -/
theorem dispatch_afterCalls (data : Json) (rules : RuleSet) (defaults : OrderedMap Args)
    (calls : List Call) :
    let start : Validator := ⟨data, rules, defaults, .empty⟩
    let v := start.afterCalls calls
    let succeeded := start.succeeding calls
    (∀ call : Call,
        ((∃ v', v.addRule call.name call.rule = .ok v') ↔
          call.name ≠ "" ∧ call.name ∉ Entries.keys Rules.builtins ∧
            call.name ∉ succeeded.map Call.name) ∧
          ((∃ e, v.addRule call.name call.rule = .error e) →
            start.afterCalls (calls ++ [call]) = v)) ∧
      (∀ name, name ∈ v.registry.names ↔ name ∈ succeeded.map Call.name) ∧
      (∀ name ∈ v.registry.names, name ∉ Entries.keys Rules.builtins) ∧
      (∀ name value args,
        (v.registry.dispatch name value args =
          match succeeded.find? (·.name == name) with
          | some call => ⟨call.rule value args, [⟨name, value, args⟩]⟩
          | none =>
            if name ∈ Entries.keys Rules.builtins then
              ⟨Rules.check name value args, [⟨name, value, args⟩]⟩
            else ⟨.indeterminate, []⟩) ∧
          (v.registry.contains name = false ↔
            (v.registry.dispatch name value args).applications = [])) ∧
      ∀ more name, v.registry.contains name = true → ∀ value args,
        (start.afterCalls (calls ++ more)).registry.dispatch name value args =
          v.registry.dispatch name value args := by
  intro start v succeeded
  -- The custom rules are those of the calls that succeeded, in order; the rest is read off them.
  have hentries : v.registry.custom.entries =
      succeeded.map fun call => (call.name, call.rule) := by
    have h := entries_afterCalls start calls
    rwa [show start.registry.custom.entries = [] from rfl, List.nil_append] at h
  have hkeys : v.registry.custom.keys = succeeded.map Call.name := by
    simp [OrderedMap.keys, hentries, Entries.keys]
  have hnames (name : String) : name ∈ v.registry.names ↔ name ∈ succeeded.map Call.name := by
    rw [Registry.names, List.mem_mergeSort, hkeys]
  have hget (name : String) : v.registry.custom.get? name =
      (succeeded.find? (·.name == name)).map Call.rule := by
    rw [OrderedMap.get?, hentries, get?_map_call]
  refine ⟨?_, hnames, ?_, ?_, ?_⟩
  · intro call
    refine ⟨?_, ?_⟩
    · rw [exists_addRule_eq_ok_iff, hkeys, and_comm (a := call.name ∉ succeeded.map Call.name)]
    · rintro ⟨e, he⟩
      rw [afterCalls_append]
      exact afterCall_of_error he
  · intro name hname
    obtain ⟨call, hcall, rfl⟩ := List.mem_map.1 ((hnames name).1 hname)
    exact notMem_builtins_of_mem_succeeding hcall
  · intro name value args
    refine ⟨?_, (Registry.applications_dispatch_eq_nil_iff name value args v.registry).symm⟩
    rw [Registry.dispatch_eq, hget]
    cases succeeded.find? (·.name == name) <;> rfl
  · intro more name hname value args
    rw [afterCalls_append]
    exact dispatch_afterCalls_of_contains hname more value args

/-- The rule `even` is not replaced by a second one of that name. -/
theorem dispatch_afterCalls_second_even :
    ((Validator.new .null).afterCalls [⟨"even", fun _ _ => .fail⟩]).registry.contains "even" =
        true ∧
      (((Validator.new .null).afterCalls ([⟨"even", fun _ _ => .fail⟩] ++
        [⟨"even", fun _ _ => .pass⟩, ⟨"string", fun _ _ => .pass⟩])).registry.dispatch "even" none
          .empty).result = .fail := by
  have hknown : ((Validator.new .null).afterCalls
      [⟨"even", fun _ _ => .fail⟩]).registry.contains "even" = true := by cbv
  refine ⟨hknown, ?_⟩
  have hsame := (dispatch_afterCalls .null .empty .empty [⟨"even", fun _ _ => .fail⟩]).2.2.2.2
    [⟨"even", fun _ _ => .pass⟩, ⟨"string", fun _ _ => .pass⟩] "even" hknown none .empty
  rw [Validator.new, hsame]
  cbv

end Validator

end FieldRules
