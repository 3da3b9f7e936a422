import FieldRules.Proofs.Entries
import FieldRules.Proofs.Registry.Runs
import FieldRules.Proofs.Validation.Applications

/-!
# Default arguments

A validator is set up by settings in any order: a rule set of its own, default arguments of rules,
and custom rules.  Default arguments of one rule are merged one by one, the later ones winning
(`Validator.defaultArgs_afterSettings`), and the arguments of a call win over all of them.  So where
options are given as default arguments, a rule is run with each option as the call has it, else as
the last of the default arguments that have it (`Validator.effectiveArgs_afterSettings`).
-/

set_option autoImplicit false

namespace FieldRules

/-- Of options that are filled in one after the other, each later row taking what the earlier ones
have and it lacks, a key reads the last that has it. -/
theorem Entries.get?_foldl_fill {α : Type} (key : String) (rows : List (Entries α))
    (start : Entries α) :
    get? key (rows.foldl (fun earlier later => fill later earlier) start) =
      (rows.reverse.findSome? (get? key)).or (get? key start) := by
  induction rows generalizing start with
  | nil => rfl
  | cons row rest ih =>
    have hlast : [row].findSome? (get? key) = get? key row := by
      cases h : get? key row <;> simp [h]
    rw [List.foldl_cons, ih, get?_fill, List.reverse_cons, List.findSome?_append, hlast,
      Option.or_assoc]

/-- Nothing is filled in exactly if there is nothing to fill in. -/
theorem Entries.foldl_fill_eq_nil_iff {α : Type} (rows : List (Entries α)) :
    rows.foldl (fun earlier later => fill later earlier) [] = [] ↔ ∀ row ∈ rows, row = [] := by
  have hread (key : String) :
      get? key (rows.foldl (fun earlier later => fill later earlier) []) =
        rows.reverse.findSome? (get? key) := by
    rw [get?_foldl_fill]
    exact Option.or_none
  -- Both sides say that no key is there: of the result on the left, of each row on the right.
  simp only [eq_nil_iff, hread, List.findSome?_eq_none_iff, List.mem_reverse]
  exact forall_comm.trans (forall_congr' fun row => forall_comm)

namespace Args

/-- Empty defaults leave arguments as they are. -/
@[simp] theorem withDefaults_empty (args : Args) : args.withDefaults .empty = args := rfl

/-- Other defaults make options of arguments and fill them. -/
theorem withDefaults_of_ne_nil (args : Args) {defaults : Entries Json} (h : defaults ≠ []) :
    args.withDefaults (.options defaults) = .options (Entries.fill args.toOptions defaults) := by
  cases defaults with
  | nil => exact absurd rfl h
  | cons entry rest => rfl

/-- Options are filled with the defaults they lack. -/
theorem options_withDefaults (entries defaults : Entries Json) :
    (options entries).withDefaults (.options defaults) =
      .options (Entries.fill entries defaults) := by
  cases defaults <;> rfl

/-- Taken as options, arguments with defaults are filled with those they lack. -/
theorem toOptions_withDefaults (args : Args) (defaults : Entries Json) :
    (args.withDefaults (.options defaults)).toOptions =
      Entries.fill args.toOptions defaults := by
  cases defaults <;> rfl

/-- Merging options gives options. -/
theorem foldl_withDefaults_map_options (rows : List (Entries Json)) (start : Entries Json) :
    (rows.map options).foldl (fun earlier later => later.withDefaults earlier) (.options start) =
      .options (rows.foldl (fun earlier later => Entries.fill later earlier) start) := by
  induction rows generalizing start with
  | nil => rfl
  | cons row rest ih =>
    rw [List.map_cons, List.foldl_cons, options_withDefaults, ih]
    rfl

end Args

namespace Validator

/-! ## One setting -/

/-- The default arguments of a rule; a rule that has none has the empty ones. -/
def defaultArgs (rule : String) (v : Validator) : Args :=
  (v.ruleDefaults? rule).getD .empty

/-- The arguments a rule runs with are those given, with the defaults of the rule. -/
theorem effectiveArgs_eq (v : Validator) (rule : String) (args : Args) :
    v.effectiveArgs rule args = args.withDefaults (v.defaultArgs rule) := by
  unfold effectiveArgs defaultArgs
  cases v.ruleDefaults? rule <;> rfl

/-- Default arguments go before those that the rule has already, and leave other rules alone. -/
theorem defaultArgs_withRuleDefaults (v : Validator) (rule other : String) (args : Args) :
    (v.withRuleDefaults rule args).defaultArgs other =
      if other = rule then args.withDefaults (v.defaultArgs rule) else v.defaultArgs other := by
  simp only [defaultArgs, ruleDefaults?, withRuleDefaults, OrderedMap.get?, OrderedMap.insert,
    Entries.get?_insert]
  by_cases h : other = rule
  · subst h
    cases hdefaults : Entries.get? other v.defaults.entries <;> simp
  · simp [h]

/-- Registering a rule changes no defaults. -/
theorem defaults_afterCall (v : Validator) (call : Call) :
    (v.afterCall call).defaults = v.defaults := by
  unfold afterCall
  cases hadd : v.addRule call.name call.rule with
  | ok v' =>
    have hv' := ((addRule_eq_ok_iff v v' call).1 hadd).2.2
    rw [hv']
  | error e => rfl

/-- A step in setting up a validator. -/
inductive Setting where
  /-- A rule set of its own. -/
  | rules (rules : RuleSet)
  /-- Default arguments of a rule. -/
  | defaults (rule : String) (args : Args)
  /-- A custom rule, which may be refused. -/
  | custom (call : Call)

/-- The default arguments that a setting gives a rule. -/
def Setting.given? (rule : String) : Setting → Option Args
  | .defaults name args => if rule = name then some args else none
  | .rules _ | .custom _ => none

/-- The validator after a setting. -/
def afterSetting (v : Validator) : Setting → Validator
  | .rules rules => v.withRules rules
  | .defaults rule args => v.withRuleDefaults rule args
  | .custom call => v.afterCall call

/-- The validator after several settings. -/
def afterSettings (v : Validator) (settings : List Setting) : Validator :=
  settings.foldl afterSetting v

/-- A setting changes the default arguments of a rule only if it gives it some. -/
theorem defaultArgs_afterSetting (v : Validator) (rule : String) (setting : Setting) :
    (v.afterSetting setting).defaultArgs rule =
      match setting.given? rule with
      | some args => args.withDefaults (v.defaultArgs rule)
      | none => v.defaultArgs rule := by
  cases setting with
  | rules rules => rfl
  | defaults name args =>
    rw [afterSetting, defaultArgs_withRuleDefaults, Setting.given?]
    by_cases h : rule = name
    · subst h
      simp
    · simp [h]
  | custom call =>
    rw [afterSetting, defaultArgs, ruleDefaults?, defaults_afterCall]
    rfl

/-! ## Several settings -/

/-- Settings change no data. -/
theorem data_afterSettings (v : Validator) (settings : List Setting) :
    (v.afterSettings settings).data = v.data := by
  induction settings generalizing v with
  | nil => rfl
  | cons setting rest ih =>
    have hstep : (v.afterSetting setting).data = v.data := by
      cases setting with
      | rules rules => rfl
      | defaults name args => rfl
      | custom call =>
        simp only [afterSetting, afterCall]
        split
        · rename_i v' hadd
          rw [((addRule_eq_ok_iff v v' call).1 hadd).2.2]
        · rfl
    exact (ih (v.afterSetting setting)).trans hstep

/-- No setting takes the name of a built-in rule. -/
theorem notMem_keys_afterSetting {v : Validator} {name : String}
    (hbuiltin : name ∈ Entries.keys Rules.builtins) (h : name ∉ v.registry.custom.keys)
    (setting : Setting) : name ∉ (v.afterSetting setting).registry.custom.keys := by
  cases setting with
  | rules rules => exact h
  | defaults rule args => exact h
  | custom call =>
    simp only [afterSetting, afterCall]
    split
    · rename_i v' hadd
      obtain ⟨⟨-, -, hname⟩, hentries, -⟩ := (addRule_eq_ok_iff v v' call).1 hadd
      intro hmem
      rw [OrderedMap.keys, hentries, Entries.keys_append, List.mem_append] at hmem
      rcases hmem with hmem | hmem
      · exact h hmem
      · rw [Entries.keys_cons, Entries.keys_nil, List.mem_singleton] at hmem
        subst hmem
        exact hname hbuiltin
    · exact h

/-- A built-in rule stays what its name leads to. -/
theorem rule?_afterSettings {v : Validator} {name : String}
    (hbuiltin : name ∈ Entries.keys Rules.builtins) (h : name ∉ v.registry.custom.keys)
    (settings : List Setting) :
    (v.afterSettings settings).registry.rule? name = Rules.builtin? name := by
  induction settings generalizing v with
  | nil =>
    have hnone : v.registry.custom.get? name = none := (Entries.get?_eq_none_iff name _).2 h
    show v.registry.rule? name = Rules.builtin? name
    rw [Registry.rule?, hnone, Option.none_or]
  | cons setting rest ih => exact ih (notMem_keys_afterSetting hbuiltin h setting)

/-- After several settings a rule has the default arguments that they give it, merged in order. -/
theorem defaultArgs_afterSettings (v : Validator) (rule : String) (settings : List Setting) :
    (v.afterSettings settings).defaultArgs rule =
      (settings.filterMap (Setting.given? rule)).foldl
        (fun earlier later => later.withDefaults earlier) (v.defaultArgs rule) := by
  induction settings generalizing v with
  | nil => rfl
  | cons setting rest ih =>
    have hrest : v.afterSettings (setting :: rest) = (v.afterSetting setting).afterSettings rest :=
      rfl
    rw [hrest, ih, defaultArgs_afterSetting, List.filterMap_cons]
    cases setting.given? rule <;> rfl

/-- Of the runs of a validation, those of a known rule are what the rule set asks of it. -/
theorem filter_applications_validate {v : Validator} {rule : String}
    (h : v.registry.contains rule = true) (rules : RuleSet) :
    (v.validate rules).applications.filter (·.rule == rule) =
      (v.effectiveRules rules).fields.entries.flatMap fun p =>
        (p.2.asked.filter (·.1 == rule)).map fun asked =>
          ⟨rule, v.get? p.1, v.effectiveArgs rule asked.2⟩ := by
  rw [applications_validate, List.filter_flatMap]
  congr 1
  funext p
  -- Unknown rules are left out before, but none of them has the name of a known one.
  have hfilter : (p.2.asked.filter v.isKnown).filter (·.1 == rule) =
      p.2.asked.filter (·.1 == rule) := by
    rw [List.filter_filter]
    apply List.filter_congr
    intro asked _
    by_cases hrule : asked.1 = rule
    · simp [isKnown, hrule, h]
    · simp [hrule]
  rw [List.filter_map]
  have hnames : ((fun x : Application => x.rule == rule) ∘ v.application (v.get? p.1)) =
      fun asked => asked.1 == rule := rfl
  rw [hnames, hfilter]
  apply List.map_congr_left
  intro asked hasked
  have hrule : asked.1 = rule := by simpa using (List.mem_filter.1 hasked).2
  rw [application, hrule]

/-- **What a rule is run with.**  Start without default arguments and take any settings, of which
those for a rule give it the options `given`, in this order.  Then the rule is run with arguments in
which each option is as the call has it, the elements of a list counting as options under their
positions, else as the last of `given` has it, and else missing.  They are options if some of
`given` has any, and else just those of the call.  This holds for a check of a value or of the value
at a path, and for every application that a validation runs. -/
theorem effectiveArgs_afterSettings (data : Json) (rules : RuleSet) (registry : Registry)
    (settings : List Setting) (rule : String) (given : List (Entries Json))
    (hgiven : settings.filterMap (Setting.given? rule) = given.map Args.options) :
    let start : Validator := ⟨data, rules, .empty, registry⟩
    let v := start.afterSettings settings
    let merged := v.effectiveArgs rule
    (∀ args key, Entries.get? key (merged args).toOptions =
        (Entries.get? key args.toOptions).or (given.reverse.findSome? (Entries.get? key))) ∧
      ((∃ entries ∈ given, entries ≠ []) → ∀ args, merged args = .options (merged args).toOptions) ∧
      ((∀ entries ∈ given, entries = []) → ∀ args, merged args = args) ∧
      ∀ implementation, v.registry.rule? rule = some implementation →
        (∀ value args, v.check rule value args =
          ⟨implementation value (merged args), [⟨rule, value, merged args⟩]⟩) ∧
        (∀ path args, v.checkPath path rule args =
          ⟨implementation (v.get? path) (merged args), [⟨rule, v.get? path, merged args⟩]⟩) ∧
        ∀ applied, (v.validate applied).applications.filter (·.rule == rule) =
          (v.effectiveRules applied).fields.entries.flatMap fun p =>
            (p.2.asked.filter (·.1 == rule)).map fun asked =>
              ⟨rule, v.get? p.1, merged asked.2⟩ := by
  intro start v merged
  set defaults := given.foldl (fun earlier later => Entries.fill later earlier) [] with hdefaults
  have hargs : v.defaultArgs rule = .options defaults := by
    have hstart : start.defaultArgs rule = .options [] := rfl
    rw [defaultArgs_afterSettings, hgiven, hstart, Args.foldl_withDefaults_map_options]
  have hmerged (args : Args) : merged args = args.withDefaults (.options defaults) := by
    rw [← hargs]
    exact v.effectiveArgs_eq rule args
  have hnil : defaults = [] ↔ ∀ entries ∈ given, entries = [] :=
    Entries.foldl_fill_eq_nil_iff given
  -- All that the settings leave to say is how a call is merged with this one row of options.
  refine ⟨?_, ?_, ?_, ?_⟩
  · intro args key
    have hread : Entries.get? key defaults = given.reverse.findSome? (Entries.get? key) := by
      rw [hdefaults, Entries.get?_foldl_fill]
      exact Option.or_none
    rw [hmerged, Args.toOptions_withDefaults, Entries.get?_fill, hread]
  · rintro ⟨entries, hentries, hne⟩ args
    have hdefaults : defaults ≠ [] := fun h => hne (hnil.1 h entries hentries)
    rw [hmerged, Args.withDefaults_of_ne_nil args hdefaults]
    rfl
  · intro hempty args
    rw [hmerged, hnil.2 hempty]
    rfl
  · intro implementation himplementation
    have hdispatch (value : Option Json) (args : Args) :
        v.registry.dispatch rule value args =
          ⟨implementation value args, [⟨rule, value, args⟩]⟩ := by
      rw [Registry.dispatch_eq_rule?, himplementation]
    have hknown : v.registry.contains rule = true := by
      rw [Registry.contains_eq_isSome_rule?, himplementation, Option.isSome_some]
    refine ⟨?_, ?_, ?_⟩
    · intro value args
      exact hdispatch value (merged args)
    · intro path args
      exact hdispatch (v.get? path) (merged args)
    · exact filter_applications_validate hknown

/-- A bound on the length that the call gives as null stays null, and the later of the two bounds
that are given as default arguments wins. -/
theorem effectiveArgs_afterSettings_null_wins :
    let three : Json := .number (.int { val := 3 })
    let five : Json := .number (.int { val := 5 })
    let settings : List Setting :=
      [.defaults "string" (.options [("max_length", three), ("min_length", three)]),
        .custom ⟨"even", fun _ _ => .pass⟩, .defaults "in" (.list [three]),
        .defaults "string" (.options [("max_length", five)])]
    let given := [[("max_length", three), ("min_length", three)], [("max_length", five)]]
    let v := (Validator.new .null).afterSettings settings
    let args : Args := .options [("min_length", .null)]
    settings.filterMap (Setting.given? "string") = given.map Args.options ∧
      Entries.get? "min_length" (v.effectiveArgs "string" args).toOptions = some .null ∧
      Entries.get? "max_length" (v.effectiveArgs "string" args).toOptions = some five ∧
      v.check "string" (some (.string "x")) args =
        ⟨.pass, [⟨"string", some (.string "x"), v.effectiveArgs "string" args⟩]⟩ := by
  intro three five settings given v args
  have h := effectiveArgs_afterSettings .null .empty .empty settings "string" given rfl
  refine ⟨rfl, ?_, ?_, ?_⟩
  · exact h.1 args "min_length"
  · exact h.1 args "max_length"
  · exact (h.2.2.2 Rules.text rfl).1 (some (.string "x")) args

end Validator

end FieldRules
