import FieldRules.Proofs.RuleSet.Reachable
import Mathlib

/-!
# Giving a rule arguments

`RuleSet.rule` puts a rule with arguments in the place of the entry with that key.  The key of an
entry is the name of its rule unless the rule has been named without arguments: then it is a number,
or any text.  So the entry that is replaced is the one of that rule, and the only one, exactly if
the entries of the rule are those with its name as their key (`RuleSet.givesRule_rule_iff`).
-/

set_option autoImplicit false

namespace FieldRules

namespace RuleSet

/-- Whether one row of entries is another one with a rule given arguments: one entry names the rule,
with these arguments, and stands in the place of an entry of the rule if there was one; the entries
of other rules are as they were, in their order. -/
inductive GivesRule (rule : String) (args : Args) : List RuleEntry → List RuleEntry → Prop where
  | added {front back : List RuleEntry} (hnew : ∀ e ∈ front ++ back, e.rule ≠ rule) :
    GivesRule rule args (front ++ back) (front ++ .withArgs rule args :: back)
  | inPlace {front back : List RuleEntry} {e : RuleEntry} (he : e.rule = rule) :
    GivesRule rule args (front ++ e :: back)
      (front.filter (·.rule ≠ rule) ++ .withArgs rule args :: back.filter (·.rule ≠ rule))

/-! ## What the rows have in common -/

variable {rule : String} {args : Args}

/-- Where no entry names a rule, the entries of other rules are all of them. -/
theorem filter_rule_ne_of_forall {entries : List RuleEntry} (h : ∀ e ∈ entries, e.rule ≠ rule) :
    entries.filter (·.rule ≠ rule) = entries := by
  rw [List.filter_eq_self]
  intro e he
  simpa using h e he

/-- The entries of other rules are those that they were. -/
theorem GivesRule.filter_rule_ne {before after : List RuleEntry}
    (h : GivesRule rule args before after) :
    after.filter (·.rule ≠ rule) = before.filter (·.rule ≠ rule) := by
  have hargs : ¬(RuleEntry.withArgs rule args).rule ≠ rule := by simp [RuleEntry.rule]
  cases h with
  | added hnew =>
    rw [List.filter_append, List.filter_append, List.filter_cons_of_neg (by simpa using hargs)]
  | inPlace he =>
    rw [List.filter_append, List.filter_append, List.filter_cons_of_neg (by simpa using hargs),
      List.filter_cons_of_neg (by simpa using he), List.filter_filter, List.filter_filter]
    simp

/-- One entry names the rule, with the arguments. -/
theorem GivesRule.filter_rule_eq {before after : List RuleEntry}
    (h : GivesRule rule args before after) :
    after.filter (·.rule = rule) = [.withArgs rule args] := by
  have hargs : (RuleEntry.withArgs rule args).rule = rule := rfl
  have hnone {l : List RuleEntry} (hl : ∀ e ∈ l, e.rule ≠ rule) :
      l.filter (·.rule = rule) = [] := by
    rw [List.filter_eq_nil_iff]
    intro e he
    simpa using hl e he
  have hothers (l : List RuleEntry) : ∀ e ∈ l.filter (·.rule ≠ rule), e.rule ≠ rule := by
    intro e he
    simpa using (List.mem_filter.1 he).2
  cases h with
  | added hnew =>
    rw [List.filter_append, List.filter_cons_of_pos (by simpa using hargs),
      hnone fun e he => hnew e (List.mem_append_left _ he),
      hnone fun e he => hnew e (List.mem_append_right _ he), List.nil_append]
  | inPlace he =>
    rw [List.filter_append, List.filter_cons_of_pos (by simpa using hargs), hnone (hothers _),
      hnone (hothers _), List.nil_append]

/-- No entry beside the one with the arguments names the rule. -/
theorem GivesRule.rule_ne {before front back : List RuleEntry}
    (h : GivesRule rule args before (front ++ .withArgs rule args :: back)) :
    ∀ e ∈ front ++ back, e.rule ≠ rule := by
  have hlength := congrArg List.length h.filter_rule_eq
  rw [List.filter_append, List.filter_cons_of_pos (by simp [RuleEntry.rule])] at hlength
  simp only [List.length_append, List.length_cons, List.length_nil] at hlength
  have hfront : front.filter (·.rule = rule) = [] := List.length_eq_zero_iff.1 (by omega)
  have hback : back.filter (·.rule = rule) = [] := List.length_eq_zero_iff.1 (by omega)
  intro e he
  rcases List.mem_append.1 he with he | he
  · simpa using List.filter_eq_nil_iff.1 hfront e he
  · simpa using List.filter_eq_nil_iff.1 hback e he

/-! ## Putting an entry -/

/-- An entry at the end gives the rule its arguments if the rule has not been there. -/
theorem givesRule_append_iff {entries : List RuleEntry} :
    GivesRule rule args entries (entries ++ [.withArgs rule args]) ↔
      ∀ e ∈ entries, e.rule ≠ rule := by
  constructor
  · intro h e he
    exact h.rule_ne e (List.mem_append_left _ he)
  · intro hnew
    have hadded : GivesRule rule args (entries ++ []) (entries ++ .withArgs rule args :: []) :=
      .added (by simpa using hnew)
    rwa [List.append_nil] at hadded

/-- An entry in the place of another gives the rule its arguments if that one is the only one of
the rule. -/
theorem givesRule_replace_iff {front back : List RuleEntry} {e : RuleEntry} :
    GivesRule rule args (front ++ e :: back) (front ++ .withArgs rule args :: back) ↔
      e.rule = rule ∧ ∀ e' ∈ front ++ back, e'.rule ≠ rule := by
  constructor
  · intro h
    refine ⟨?_, h.rule_ne⟩
    -- An entry of another rule in that place would be missing afterwards.
    by_contra hrule
    have hlength := congrArg List.length h.filter_rule_ne
    rw [List.filter_append, List.filter_append, List.filter_cons_of_neg (by simp [RuleEntry.rule]),
      List.filter_cons_of_pos (by simpa using hrule)] at hlength
    simp only [List.length_append, List.length_cons] at hlength
    omega
  · rintro ⟨hrule, hothers⟩
    have hfront : front.filter (·.rule ≠ rule) = front :=
      filter_rule_ne_of_forall fun e' he' => hothers e' (List.mem_append_left _ he')
    have hback : back.filter (·.rule ≠ rule) = back :=
      filter_rule_ne_of_forall fun e' he' => hothers e' (List.mem_append_right _ he')
    have hplace : GivesRule rule args (front ++ e :: back) _ := .inPlace hrule
    rwa [hfront, hback] at hplace

/-- An entry is put at the end, or in the place of the first with its key. -/
theorem putEntry_cases (entry : RuleEntry) (entries : List RuleEntry) :
    ((∀ e ∈ entries, e.key ≠ entry.key) ∧ putEntry entry entries = entries ++ [entry]) ∨
      ∃ front e back, entries = front ++ e :: back ∧ e.key = entry.key ∧
        putEntry entry entries = front ++ entry :: back := by
  induction entries with
  | nil => exact Or.inl ⟨by simp, rfl⟩
  | cons e rest ih =>
    by_cases hkey : e.key = entry.key
    · exact Or.inr ⟨[], e, rest, rfl, hkey, by simp [putEntry, hkey]⟩
    · have hput : putEntry entry (e :: rest) = e :: putEntry entry rest := by
        simp [putEntry, hkey]
      rcases ih with ⟨hnew, heq⟩ | ⟨front, e', back, rfl, he', heq⟩
      · exact Or.inl ⟨List.forall_mem_cons.2 ⟨hkey, hnew⟩, by rw [hput, heq, List.cons_append]⟩
      · exact Or.inr ⟨e :: front, e', back, rfl, he', by rw [hput, heq, List.cons_append]⟩

/-- Among entries with distinct keys, putting a rule gives it its arguments exactly if the entries
of the rule are those with its name as their key. -/
theorem givesRule_putEntry_iff (args : Args) {entries : List RuleEntry}
    (hkeys : (entries.map RuleEntry.key).Nodup) :
    GivesRule rule args entries (putEntry (.withArgs rule args) entries) ↔
      ∀ e ∈ entries, e.rule = rule ↔ e.key = rule := by
  -- Either no entry has the key, or one has it and is replaced, and no other has it.
  rcases putEntry_cases (.withArgs rule args) entries with
    ⟨hnew, hput⟩ | ⟨front, e, back, rfl, hkey, hput⟩
  · rw [hput, givesRule_append_iff]
    refine forall₂_congr fun e he => ?_
    have hkey : e.key ≠ rule := hnew e he
    simp [hkey]
  · have hbeside : ∀ e' ∈ front ++ back, e'.key ≠ rule := by
      intro e' he' hkey'
      have hnotMem := (List.nodup_middle.1 (by simpa using hkeys)).notMem
      rw [← List.map_append] at hnotMem
      exact hnotMem (List.mem_map.2 ⟨e', he', hkey'.trans hkey.symm⟩)
    have hkey : e.key = rule := hkey
    rw [hput, givesRule_replace_iff]
    constructor
    · rintro ⟨hrule, hothers⟩ e' he'
      rcases List.mem_cons.1 (List.perm_middle.mem_iff.1 he') with rfl | he'
      · exact iff_of_true hrule hkey
      · exact iff_of_false (hothers e' he') (hbeside e' he')
    · intro h
      refine ⟨(h e (by simp)).2 hkey, ?_⟩
      intro e' he' hrule
      have hmem : e' ∈ front ++ e :: back :=
        List.perm_middle.mem_iff.2 (List.mem_cons_of_mem _ he')
      exact hbeside e' he' ((h e' hmem).1 hrule)

/-! ## Rule sets -/

/-- **Which rules are given their arguments.**  Giving a rule arguments makes its field one of
several rules and leaves every other field as it is.  In a rule set that reading and building make,
the rule is given its arguments, and nothing else of the field is changed, exactly if the entries of
the field that name the rule are those that have the name as their key. -/
theorem givesRule_rule_iff {s : RuleSet} (hs : Reachable s) (field rule : String) (args : Args) :
    (∃ entries, (s.rule field rule args).get? field = some (.multi entries) ∧
      (GivesRule rule args (s.entriesAt field) entries ↔
        ∀ e ∈ s.entriesAt field, e.rule = rule ↔ e.key = rule)) ∧
      (s.rule field rule args).fields.entries.filter (·.1 ≠ field) =
        s.fields.entries.filter (·.1 ≠ field) := by
  refine ⟨⟨putEntry (.withArgs rule args) (s.entriesAt field), ?_, ?_⟩, ?_⟩
  · have hget := Entries.get?_insert field field
      (RuleSpec.multi (putEntry (.withArgs rule args) (s.entriesAt field))) s.fields.entries
    rwa [if_pos rfl] at hget
  · cases hs.canonical.entriesAt field with
    | multi hkeys _ => exact givesRule_putEntry_iff args hkeys
  · exact Entries.filter_key_ne_insert field _ s.fields.entries

/-- A rule that has arguments is given others in its place. -/
theorem givesRule_rule_iff_second_numeric :
    let s := (empty.rule "age" "numeric" (.list [.null])).bareRule "age" "required"
    Reachable s ∧
      ∃ entries, (s.rule "age" "numeric" .empty).get? "age" = some (.multi entries) ∧
        GivesRule "numeric" .empty
          [.withArgs "numeric" (.list [.null]), .shorthand "0" "required"] entries := by
  intro s
  have hs : Reachable s := .bareRule "age" "required" (.rule "age" "numeric" _ .empty)
  have hentries : s.entriesAt "age" =
      [.withArgs "numeric" (.list [.null]), .shorthand "0" "required"] := by cbv
  obtain ⟨⟨entries, hget, hgives⟩, -⟩ := givesRule_rule_iff hs "age" "numeric" .empty
  rw [hentries] at hgives
  exact ⟨hs, entries, hget, hgives.2 (by decide)⟩

/-- A rule that a list names stays beside the same rule with arguments. -/
theorem not_givesRule_of_list :
    let atLeastThree : Args := .options [("min_length", .number (.int { val := 3 }))]
    ∃ s, ofJson (.object [("f", .array [.string "string"])]) = .ok s ∧
      s.get? "f" = some (.multi [.shorthand "0" "string"]) ∧
      (s.rule "f" "string" atLeastThree).get? "f" =
        some (.multi ([.shorthand "0" "string"] ++ [.withArgs "string" atLeastThree])) ∧
      ¬GivesRule "string" atLeastThree [.shorthand "0" "string"]
        ([.shorthand "0" "string"] ++ [.withArgs "string" atLeastThree]) := by
  intro atLeastThree
  refine ⟨_, rfl, by cbv, by cbv, ?_⟩
  rw [givesRule_append_iff]
  intro hnew
  exact hnew (.shorthand "0" "string") (List.mem_singleton_self _) rfl

end RuleSet

end FieldRules
