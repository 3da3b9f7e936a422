import FieldRules.Rules.Builtin

/-!
# Which option decides

The rules `numeric`, `string` and `array` check their options in a fixed order, and the first that
is not satisfied decides.  The bounds on a length and on a number of elements are an exception: the
three of them are read before any of them is checked, so that one that is malformed decides against
one before it that is violated (`Rules.outcome_of_first_violated`).
-/

set_option autoImplicit false

namespace FieldRules

namespace Outcome

/-! ## Groups of checks -/

/-- The outcome of checks in groups, each of which is read as a whole before its checks are made. -/
def ofGroups : List (List Verdict) → Outcome
  | [] => .pass
  | group :: rest =>
    if .malformed ∈ group then .indeterminate
    else if .violated ∈ group then .fail
    else ofGroups rest

/-- The check that a group can be read. -/
def readability (group : List Verdict) : Verdict :=
  if .malformed ∈ group then .malformed else .satisfied

/-- A group without malformed bounds decides if it violates one, and else what follows. -/
theorem ofVerdicts_append {group : List Verdict} (h : .malformed ∉ group) (rest : List Verdict) :
    ofVerdicts (group ++ rest) = if .violated ∈ group then .fail else ofVerdicts rest := by
  induction group with
  | nil => rfl
  | cons v group ih =>
    rw [List.mem_cons, not_or] at h
    cases v with
    | satisfied => simpa [ofVerdicts] using ih h.2
    | violated => simp [ofVerdicts]
    | malformed => exact absurd rfl h.1

section Continued

variable {rest : List Verdict} {groups : List (List Verdict)}

/-- The checks of a group after the one that it can be read. -/
theorem ofVerdicts_readability_cons (h : ofVerdicts rest = ofGroups groups)
    (group : List Verdict) :
    ofVerdicts (readability group :: (group ++ rest)) = ofGroups (group :: groups) := by
  unfold readability
  by_cases hmalformed : .malformed ∈ group
  · simp [hmalformed, ofVerdicts, ofGroups]
  · simp [hmalformed, ofVerdicts, ofGroups, ofVerdicts_append, h]

/-- A check by itself is a group. -/
theorem ofVerdicts_cons (h : ofVerdicts rest = ofGroups groups) (v : Verdict) :
    ofVerdicts (v :: rest) = ofGroups ([v] :: groups) := by
  cases v with
  | satisfied => exact h
  | violated => rfl
  | malformed => rfl

end Continued

/-- A group that is satisfied leaves the decision to what follows. -/
theorem ofGroups_of_satisfied {group : List Verdict} (h : ∀ v ∈ group, v = .satisfied)
    (rest : List (List Verdict)) : ofGroups (group :: rest) = ofGroups rest := by
  have hmalformed : .malformed ∉ group := fun hmem => by cases h _ hmem
  have hviolated : .violated ∉ group := fun hmem => by cases h _ hmem
  rw [ofGroups, if_neg hmalformed, if_neg hviolated]

/-- The first check that is violated decides, unless a later one of its group is malformed. -/
theorem ofGroups_of_first_violated {earlier later : List (List Verdict)}
    {before after : List Verdict} (hearlier : ∀ group ∈ earlier, ∀ v ∈ group, v = .satisfied)
    (hbefore : ∀ v ∈ before, v = .satisfied) :
    ofGroups (earlier ++ (before ++ .violated :: after) :: later) =
      if .malformed ∈ after then .indeterminate else .fail := by
  induction earlier with
  | nil =>
    have hmalformed : .malformed ∈ before ++ .violated :: after ↔ .malformed ∈ after := by
      have hnone : .malformed ∉ before := fun hmem => by cases hbefore _ hmem
      simp [hnone]
    rw [List.nil_append, ofGroups]
    simp [hmalformed]
  | cons group earlier ih =>
    obtain ⟨hgroup, hrest⟩ := List.forall_mem_cons.1 hearlier
    rw [List.cons_append, ofGroups_of_satisfied hgroup, ih hrest]

end Outcome

namespace Rules

/-! ## Bounds on a count -/

/-- What one bound says of a count: nothing unless it is positive. -/
def boundVerdict (args : Args) (key : String) (holds : Int → Bool) : Verdict :=
  args.verdict key Json.integer? fun n => decide (n ≤ 0) || holds n

/-- What the three bounds say of a count, in order. -/
def BoundNames.group (names : BoundNames) (args : Args) (count : Nat) : List Verdict :=
  [boundVerdict args names.most fun n => decide ((count : Int) ≤ n),
    boundVerdict args names.least fun n => decide (n ≤ (count : Int)),
    boundVerdict args names.exact fun n => decide ((count : Int) = n)]

/-- A bound that can be read says something, whatever is asked of it. -/
theorem readable_iff (args : Args) (key : String) (holds : Int → Bool) :
    readable args key = true ↔ .malformed ≠ boundVerdict args key holds := by
  unfold readable boundVerdict Args.verdict
  cases args.getSet? key with
  | none => simp
  | some raw =>
    dsimp only
    cases raw.integer? with
    | none => simp
    | some n =>
      by_cases h : (decide (n ≤ 0) || holds n) = true
      · simp [h]
      · simp [h]

/-- The three bounds are checked after the check that all of them can be read. -/
theorem BoundNames.verdicts_eq (names : BoundNames) (args : Args) (count : Nat) :
    names.verdicts args count =
      Outcome.readability (names.group args count) :: names.group args count := by
  have hreadable : [names.most, names.least, names.exact].all (readable args) = true ↔
      .malformed ∉ names.group args count := by
    simp only [List.all_cons, List.all_nil, Bool.and_true, Bool.and_eq_true, BoundNames.group,
      List.mem_cons, List.not_mem_nil, or_false, not_or]
    rw [readable_iff, readable_iff, readable_iff]
  unfold BoundNames.verdicts Outcome.readability
  by_cases h : .malformed ∈ names.group args count
  · rw [if_pos h, if_neg fun hall => hreadable.1 hall h]
    rfl
  · rw [if_neg h, if_pos (hreadable.2 h)]
    rfl

/-! ## Rules with options -/

/-- Whether a rule comes to an outcome on a value of the kind that it accepts, its options saying
the given verdicts.  The options are in the order of their checks, in groups that are read together;
an option that is missing or null is satisfied. -/
inductive OptionCall (args : Args) : Outcome → List (List Verdict) → Prop where
  | numeric {v : Json} {x : Binary64} (h : v.number? = some x) :
    OptionCall args (numeric (some v) args)
      [[args.verdict "max" Json.number? fun max => !max.lt x],
        [args.verdict "min" Json.number? fun min => !x.lt min],
        [args.verdict "decimals" Json.integer? fun d => decide (d ≤ (fractionDigits v : Int))]]
  | text {s : String} {encoding : Encoding} (h : encodingOf? args = some encoding) :
    OptionCall args (text (some (.string s)) args)
      [lengthBounds.group args (encoding.measure s),
        [args.verdict "matches" pattern? fun p => p.isMatch s]]
  | array {v : Json} {count : Nat} (h : elementCount? v = some count) :
    OptionCall args (array (some v) args)
      [[args.verdict "has" listItems? fun keys => keys.any (holdsKey v)],
        [args.verdict "empty" some fun empty => empty.truthy || count != 0],
        countBounds.group args count]

/-- The rules check their options group by group. -/
theorem OptionCall.outcome_eq {args : Args} {outcome : Outcome} {groups : List (List Verdict)}
    (h : OptionCall args outcome groups) : outcome = Outcome.ofGroups groups := by
  have hend : Outcome.ofVerdicts [] = Outcome.ofGroups [] := rfl
  cases h with
  | numeric h =>
    simp only [Rules.numeric, h]
    exact Outcome.ofVerdicts_cons (Outcome.ofVerdicts_cons (Outcome.ofVerdicts_cons hend _) _) _
  | text h =>
    simp only [Rules.text, h, BoundNames.verdicts_eq, List.cons_append]
    exact Outcome.ofVerdicts_readability_cons (Outcome.ofVerdicts_cons hend _) _
  | @array v count h =>
    have hbounds := Outcome.ofVerdicts_readability_cons hend (countBounds.group args count)
    rw [List.append_nil] at hbounds
    simp only [Rules.array, h, BoundNames.verdicts_eq, List.cons_append, List.nil_append]
    exact Outcome.ofVerdicts_cons (Outcome.ofVerdicts_cons hbounds _) _

/-- **The first option that is violated.**  If all options before it are satisfied, the outcome is a
failure, whatever is asked after it, unless one of the options that are read together with it and
checked after it is malformed: then the rule cannot tell.  No option is read together with another
but the bounds on a length and those on a number of elements. -/
theorem outcome_of_first_violated {args : Args} {outcome : Outcome}
    {earlier later : List (List Verdict)} {before after : List Verdict}
    (hcall : OptionCall args outcome (earlier ++ (before ++ .violated :: after) :: later))
    (hearlier : ∀ group ∈ earlier, ∀ v ∈ group, v = .satisfied)
    (hbefore : ∀ v ∈ before, v = .satisfied) :
    outcome = if .malformed ∈ after then .indeterminate else .fail := by
  rw [hcall.outcome_eq, Outcome.ofGroups_of_first_violated hearlier hbefore]

/-- A text that is too long fails though its pattern is none. -/
theorem outcome_of_first_violated_length :
    let args : Args := .options [("max_length", .number (.int { val := 1 })),
      ("matches", .string "(unclosed")]
    OptionCall args (text (some (.string "abc")) args)
        ([] ++ ([] ++ .violated :: [.satisfied, .satisfied]) :: [[.malformed]]) ∧
      text (some (.string "abc")) args = .fail := by
  intro args
  have hcall : OptionCall args (text (some (.string "abc")) args)
      ([] ++ ([] ++ .violated :: [.satisfied, .satisfied]) :: [[.malformed]]) := by
    have hbounds : lengthBounds.group args 3 = [.violated, .satisfied, .satisfied] := by
      decide +kernel
    have hmatches : args.verdict "matches" pattern? (fun p => p.isMatch "abc") = .malformed := by
      decide +kernel
    have hencoding : encodingOf? args = some .scalar := rfl
    have htext : OptionCall args (text (some (.string "abc")) args)
        [lengthBounds.group args 3, [args.verdict "matches" pattern? fun p => p.isMatch "abc"]] :=
      .text hencoding
    rwa [hbounds, hmatches] at htext
  exact ⟨hcall, outcome_of_first_violated hcall (by simp) (by simp)⟩

/-- A text that is too long is not failed if a bound after the violated one cannot be read. -/
theorem text_eq_indeterminate_of_too_long :
    let args : Args := .options [("max_length", .number (.int { val := 1 })),
      ("min_length", .string "many")]
    lengthBounds.group args (Encoding.scalar.measure "abc") =
        [.violated, .malformed, .satisfied] ∧
      text (some (.string "abc")) args = .indeterminate := by
  decide +kernel

end Rules

end FieldRules
