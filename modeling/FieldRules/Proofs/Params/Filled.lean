import FieldRules.Proofs.Params.Leaves
import FieldRules.Proofs.Validation.Defaults

/-!
# Nested values that pairs leave

While a pair is being written, what has not been reached yet counts as null, but no null stays
behind.  The value that pairs make is an object, everything below it is a text or a container that
is not empty, and no text is deeper than the number of brackets allows (`Json.Filled`).  So a path
never leads to a number, and the rules that ask for one always fail (`Params.filled_ofPairs`).
-/

set_option autoImplicit false

namespace FieldRules

/-- Whether a value is a text or a container of at least one value of this kind, where at most
`depth` containers lie on the way to a text. -/
inductive Json.Filled : (depth : Nat) → Json → Prop where
  | string (depth : Nat) (s : String) : Filled depth (.string s)
  | array {depth : Nat} {items : List Json} (hne : items ≠ [])
      (hitems : ∀ item ∈ items, Filled depth item) : Filled (depth + 1) (.array items)
  | object {depth : Nat} {entries : Entries Json} (hne : entries ≠ [])
      (hkeys : (Entries.keys entries).Nodup) (hentries : ∀ p ∈ entries, Filled depth p.2) :
    Filled (depth + 1) (.object entries)

namespace Params

/-- Whether all values one step below a node are filled; of the node itself nothing is said. -/
def FilledBelow (depth : Nat) (node : Json) : Prop :=
  (Entries.keys (entriesOf node)).Nodup ∧ ∀ p ∈ entriesOf node, p.2.Filled depth

/-- Below null there is nothing. -/
theorem filledBelow_null (depth : Nat) : FilledBelow depth .null := by
  simp [FilledBelow, entriesOf]

/-- Below a list are its items. -/
theorem filledBelow_array_iff (depth : Nat) (items : List Json) :
    FilledBelow depth (.array items) ↔ ∀ item ∈ items, item.Filled depth := by
  have hvalues : (∀ item ∈ Entries.values (Json.indexed items), item.Filled depth) ↔
      ∀ p ∈ Json.indexed items, p.2.Filled depth := List.forall_mem_map
  rw [Json.values_indexed] at hvalues
  rw [hvalues]
  exact and_iff_right (Json.nodup_keys_indexed items)

/-- What lies below a filled value is filled, with one container less on the way. -/
theorem filledBelow_of_filled {depth : Nat} {v : Json} (h : v.Filled depth) :
    FilledBelow (depth - 1) v := by
  cases h with
  | string s => simp [FilledBelow, entriesOf]
  | array hne hitems => exact (filledBelow_array_iff _ _).2 hitems
  | object hne hkeys hentries => exact ⟨hkeys, hentries⟩

/-! ## One write -/

/-- A missing value counts as null. -/
theorem filledBelow_child {depth : Nat} {node : Json} (h : FilledBelow depth node) (key : String) :
    FilledBelow (depth - 1) ((Entries.get? key (entriesOf node)).getD .null) := by
  cases hget : Entries.get? key (entriesOf node) with
  | none => exact filledBelow_null _
  | some v => exact filledBelow_of_filled (h.2 _ (Entries.mem_of_get? hget))

/-- An object stays filled as a filled value is put under a key. -/
theorem filled_insert {depth : Nat} {node below : Json} (h : FilledBelow depth node)
    (hbelow : below.Filled depth) (key : String) :
    (Json.object (Entries.insert key below (entriesOf node))).Filled (depth + 1) := by
  refine .object ?_ (Entries.nodup_keys_insert key below h.1) ?_
  · intro hnil
    have hget := Entries.get?_insert key key below (entriesOf node)
    rw [hnil, if_pos rfl] at hget
    cases hget
  · intro p hp
    rcases Entries.mem_insert hp with rfl | hp
    · exact hbelow
    · exact h.2 p hp

/-- A list stays filled as a filled value is appended. -/
theorem filled_append {depth : Nat} {items : List Json} {below : Json}
    (h : FilledBelow depth (.array items)) (hbelow : below.Filled depth) :
    (Json.array (items ++ [below])).Filled (depth + 1) := by
  refine .array (by simp) ?_
  intro item hitem
  rcases List.mem_append.1 hitem with hitem | hitem
  · exact (filledBelow_array_iff depth items).1 h item hitem
  · rw [List.mem_singleton.1 hitem]
    exact hbelow

/-- A write fills what it goes through, however empty that was. -/
theorem filled_assign (value : String) {segments : List Segment} {depth : Nat} {node : Json}
    (hlength : segments.length ≤ depth) (hnode : FilledBelow (depth - 1) node) :
    (assign value segments node).Filled depth := by
  induction segments generalizing depth node with
  | nil => exact .string depth value
  | cons s rest ih =>
    obtain ⟨below, rfl⟩ : ∃ below, depth = below + 1 := by
      apply Nat.exists_eq_succ_of_ne_zero
      intro hzero
      simp [hzero] at hlength
    have hrest : rest.length ≤ below := by simpa using hlength
    have hnull : (assign value rest .null).Filled below := ih hrest (filledBelow_null _)
    cases s with
    | named name => exact filled_insert hnode (ih hrest (filledBelow_child hnode name)) name
    | append =>
      cases node with
      | object entries => exact filled_insert hnode (ih hrest (filledBelow_child hnode _)) _
      | array items => exact filled_append hnode hnull
      -- A scalar gives way to a list, as if it had been an empty one.
      | null | bool _ | number _ | string _ =>
        have hempty : FilledBelow below (.array []) := by simp [filledBelow_array_iff]
        exact filled_append hempty hnull

/-- The segments of a key are a name and at most as many more as brackets are allowed. -/
theorem exists_of_segments? {key : String} {segments : List Segment}
    (h : BracketKey.segments? key = some segments) :
    ∃ head rest, segments = .named head :: rest ∧ rest.length ≤ BracketKey.maxNesting := by
  unfold BracketKey.segments? at h
  simp only at h
  split at h
  · exact ⟨key, [], (Option.some.inj h).symm, Nat.zero_le _⟩
  · split at h
    · cases h
    · rename_i hdepth
      refine ⟨_, _, (Option.some.inj h).symm, ?_⟩
      rw [List.length_map]
      exact Nat.le_of_not_lt hdepth

/-- Writing a pair keeps an object whose values are filled such an object. -/
theorem filledBelow_write {entries : Entries Json}
    (h : FilledBelow BracketKey.maxNesting (.object entries)) (pair : String × String) :
    ∃ entries', write (.object entries) pair = .object entries' ∧
      FilledBelow BracketKey.maxNesting (.object entries') := by
  unfold write
  cases hsegments : BracketKey.segments? pair.1 with
  | none => exact ⟨entries, rfl, h⟩
  | some segments =>
    obtain ⟨head, rest, rfl, hlength⟩ := exists_of_segments? hsegments
    have hfilled : (assign pair.2 (.named head :: rest) (.object entries)).Filled
        (BracketKey.maxNesting + 1) := filled_assign pair.2 (by simpa using hlength) h
    exact ⟨_, rfl, filledBelow_of_filled hfilled⟩

/-! ## A sequence of writes -/

/-- What pairs make is an object, with filled values below it. -/
theorem filledBelow_ofPairs (pairs : List (String × String)) :
    ∃ entries, ofPairs pairs = .object entries ∧
      FilledBelow BracketKey.maxNesting (.object entries) := by
  induction pairs using List.reverseRecOn with
  | nil => exact ⟨[], rfl, by simp [FilledBelow, entriesOf]⟩
  | append_singleton pairs pair ih =>
    obtain ⟨entries, heq, hfilled⟩ := ih
    rw [ofPairs_append_singleton, heq]
    exact filledBelow_write hfilled pair

/-- A path leads from a filled value to a filled value. -/
theorem exists_filled_of_get? {path : Path} {depth : Nat} {v found : Json} (h : v.Filled depth)
    (hfound : Path.get? path v = some found) : ∃ depth', found.Filled depth' := by
  induction path generalizing depth v with
  | nil => exact ⟨depth, Option.some.inj hfound ▸ h⟩
  | cons name rest ih =>
    rw [Path.get?, Option.bind_eq_some_iff] at hfound
    obtain ⟨child, hchild, hfound⟩ := hfound
    cases h with
    | string s => cases hchild
    | array hne hitems =>
      obtain ⟨i, -, hi⟩ := Option.bind_eq_some_iff.1 hchild
      exact ih (hitems child (List.mem_of_getElem? hi)) hfound
    | object hne hkeys hentries => exact ih (hentries _ (Entries.mem_of_get? hchild)) hfound

/-- No path leads to a number in the value that pairs make. -/
theorem get?_ofPairs_ne_number (pairs : List (String × String)) (path : Path) (n : Number) :
    Path.get? path (ofPairs pairs) ≠ some (.number n) := by
  obtain ⟨entries, heq, -, hentries⟩ := filledBelow_ofPairs pairs
  rw [heq]
  intro hnumber
  cases path with
  | nil => cases hnumber
  | cons name rest =>
    obtain ⟨child, hchild, hrest⟩ := Option.bind_eq_some_iff.1 hnumber
    have hfilled : child.Filled BracketKey.maxNesting := hentries _ (Entries.mem_of_get? hchild)
    obtain ⟨depth, hdepth⟩ := exists_filled_of_get? hfilled hrest
    cases hdepth

end Params

namespace Rules

/-- What is no number fails the rule for numbers. -/
theorem number_eq_fail {value : Option Json} (h : ∀ n, value ≠ some (.number n)) (args : Args) :
    number value args = .fail := by
  unfold number
  split
  · rename_i n
    exact absurd rfl (h n)
  · rfl

/-- What is no number fails the rule for integers. -/
theorem integer_eq_fail {value : Option Json} (h : ∀ n, value ≠ some (.number n)) (args : Args) :
    integer value args = .fail := by
  unfold integer
  split
  · rename_i n
    exact absurd rfl (h (.int n))
  · rfl

end Rules

namespace Params

/-- **What pairs leave.**  The value that pairs make is an object with distinct keys.  Everything
below it is a text or a container that is not empty, and with the object itself at most 65
containers lie on the way to a text.  So on a validator of this value, however it is set up, the
rules `integer` and `number` fail at every path with all arguments. -/
theorem filled_ofPairs (pairs : List (String × String)) :
    (∃ entries, ofPairs pairs = .object entries ∧ (Entries.keys entries).Nodup ∧
      ∀ p ∈ entries, p.2.Filled 64) ∧
      ∀ (settings : List Validator.Setting) (path : String) (args : Args),
        let v := (Validator.new (ofPairs pairs)).afterSettings settings
        (v.checkPath path "integer" args).result = .fail ∧
          (v.checkPath path "number" args).result = .fail := by
  refine ⟨filledBelow_ofPairs pairs, ?_⟩
  intro settings path args v
  have hdata : v.data = ofPairs pairs := Validator.data_afterSettings _ settings
  have hvalue (n : Number) : v.get? path ≠ some (.number n) := by
    rw [Validator.get?, hdata]
    exact get?_ofPairs_ne_number pairs _ n
  have hdispatch (name : String) {rule : Rule} (hrule : Rules.builtin? name = some rule)
      (hname : name ∈ Entries.keys Rules.builtins) :
      (v.checkPath path name args).result = rule (v.get? path) (v.effectiveArgs name args) := by
    have hafter : v.registry.rule? name = some rule := by
      rw [← hrule]
      exact Validator.rule?_afterSettings hname List.not_mem_nil settings
    rw [Validator.checkPath, Validator.check, Registry.dispatch_eq_rule?, hafter]
  constructor
  · rw [hdispatch "integer" rfl (by decide)]
    exact Rules.integer_eq_fail hvalue _
  · rw [hdispatch "number" rfl (by decide)]
    exact Rules.number_eq_fail hvalue _

end Params

end FieldRules
