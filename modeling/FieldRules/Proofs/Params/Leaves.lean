import FieldRules.Path
import FieldRules.Proofs.Params.WrittenKey
import FieldRules.Proofs.Positions
import FieldRules.Request.Params
import Mathlib.Data.Set.Insert
import Mathlib.Order.Bounds.Basic

/-!
# Nested values as sets of leaves

A nested value is seen as the set of its leaves, the texts in it with the paths that lead to them;
the step to a list element is the numeral of its position.  Writing a pair resolves its key to one
path (`Params.writePath`).  The leaves above and below that path go, the new text comes, and every
other leaf stays, also where a list on the way becomes an object (`Params.leaves_assign`).
-/

set_option autoImplicit false

namespace FieldRules

namespace Params

/-! ## Nodes and leaves -/

/-- The node one step below another: the entry with that key, or the list element at the position
whose numeral the step is. -/
def child? (name : String) : Json → Option Json
  | .object entries => Entries.get? name entries
  | .array items => Entries.get? name (Json.indexed items)
  | _ => none

/-- The node at the end of a path. -/
def node? : Path → Json → Option Json
  | [], root => some root
  | name :: rest, root => (child? name root).bind (node? rest)

/-- The leaves of a value: the texts in it with their paths. -/
def leaves (root : Json) : Set (Path × String) :=
  {leaf | node? leaf.1 root = some (.string leaf.2)}

/-- Puts a text at a path of a set of leaves, in the place of the leaves above and below it. -/
def overwrite (path : Path) (value : String) (old : Set (Path × String)) : Set (Path × String) :=
  insert (path, value) {leaf ∈ old | ¬leaf.1 <+: path ∧ ¬path <+: leaf.1}

/-- A step reads the entries of a node, those of a list under the numerals of their positions. -/
theorem child?_eq_get?_entriesOf (name : String) (node : Json) :
    child? name node = Entries.get? name (entriesOf node) := by
  cases node <;> rfl

/-- No step goes below null. -/
@[simp] theorem child?_null (name : String) : child? name .null = none := rfl

/-- No step goes below a text. -/
@[simp] theorem child?_string (name s : String) : child? name (.string s) = none := rfl

/-! ## The path that a key is resolved to -/

/-- The step that a segment takes from the node reached so far.  A segment that appends steps to the
end of a list, to the next index of an object, and to zero from anything else. -/
def stepName (node : Json) : Segment → String
  | .named name => name
  | .append =>
    match node with
    | .array items => Text.numeral items.length
    | .object entries => Text.numeral (nextIndex entries)
    | _ => Text.numeral 0

/-- The path that segments are resolved to from a node.  Where nothing is reached the node counts as
null. -/
def writePath : List Segment → Json → Path
  | [], _ => []
  | s :: rest, node =>
    stepName node s :: writePath rest ((child? (stepName node s) node).getD .null)

/-- What the next index after some keys is: one past the largest number whose numeral is a key,
among the numbers that a word holds and not beyond the largest of these; zero if there is none. -/
def IsNextIndex (keys : List String) (n : Nat) : Prop :=
  (∃ m, IsGreatest {m | m < Text.wordBound ∧ Text.numeral m ∈ keys} m ∧
      n = min (m + 1) (Text.wordBound - 1)) ∨
    (∀ m < Text.wordBound, Text.numeral m ∉ keys) ∧ n = 0

/-- A key counts as a number exactly if it is the numeral of one that a word holds. -/
theorem indexOfKey?_eq_some_iff (key : String) (n : Nat) :
    indexOfKey? key = some n ↔ n < Text.wordBound ∧ Text.numeral n = key := by
  unfold indexOfKey?
  constructor
  · intro h
    split at h
    · rename_i m hm
      rw [Option.ite_none_right_eq_some] at h
      obtain ⟨hkey, hmn⟩ := h
      rw [Option.some.inj hmn] at hkey hm
      exact ⟨Text.lt_wordBound_of_index? hm, hkey⟩
    · cases h
  · rintro ⟨hn, rfl⟩
    simp [Text.index?_numeral hn]

/-- The numbers that keys count as. -/
theorem mem_filterMap_indexOfKey?_iff (keys : List String) (n : Nat) :
    n ∈ keys.filterMap indexOfKey? ↔ n < Text.wordBound ∧ Text.numeral n ∈ keys := by
  simp only [List.mem_filterMap, indexOfKey?_eq_some_iff]
  constructor
  · rintro ⟨key, hkey, hn, rfl⟩
    exact ⟨hn, hkey⟩
  · rintro ⟨hn, hkey⟩
    exact ⟨Text.numeral n, hkey, hn, rfl⟩

/-- The next index is computed as it should be. -/
theorem isNextIndex_nextIndex (entries : Entries Json) :
    IsNextIndex (Entries.keys entries) (nextIndex entries) := by
  unfold nextIndex
  split
  · rename_i m hm
    obtain ⟨hmem, hmax⟩ := List.max?_eq_some_iff.1 hm
    refine Or.inl ⟨m, ⟨?_, ?_⟩, rfl⟩
    · exact (mem_filterMap_indexOfKey?_iff _ _).1 hmem
    · intro k hk
      exact hmax k ((mem_filterMap_indexOfKey?_iff _ _).2 hk)
  · rename_i hnone
    rw [List.max?_eq_none_iff] at hnone
    refine Or.inr ⟨?_, rfl⟩
    intro m hm hkey
    have hmem := (mem_filterMap_indexOfKey?_iff (Entries.keys entries) m).2 ⟨hm, hkey⟩
    rw [hnone] at hmem
    cases hmem

/-! ## One write -/

/-- Appending to a list changes one step: the one to the position at its end. -/
theorem child?_assign_append_array (value : String) (rest : List Segment) (items : List Json)
    (name : String) :
    child? name (assign value (.append :: rest) (.array items)) =
      if name = Text.numeral items.length then
        some (assign value rest ((child? (Text.numeral items.length) (.array items)).getD .null))
      else child? name (.array items) := by
  -- The position at the end is not there yet, so what is written starts from nothing.
  have hend : child? (Text.numeral items.length) (.array items) = none := by
    rw [child?, Entries.get?_eq_none_iff, Json.numeral_mem_keys_indexed_iff]
    exact lt_irrefl _
  have hadd : child? name (.array (items ++ [assign value rest .null])) =
      (child? name (.array items)).or
        (if Text.numeral items.length = name then some (assign value rest .null) else none) := by
    simp only [child?, Json.indexed_append_singleton, Entries.get?_append, Entries.get?]
  simp only [assign, hadd, hend, Option.getD_none]
  by_cases h : name = Text.numeral items.length
  · simp [h, hend]
  · have h' : ¬Text.numeral items.length = name := fun e => h e.symm
    simp [h, h']

/-- Writing changes one step of a node: the one that the first segment takes. -/
theorem child?_assign (value : String) (s : Segment) (rest : List Segment) (node : Json)
    (name : String) :
    child? name (assign value (s :: rest) node) =
      if name = stepName node s then
        some (assign value rest ((child? (stepName node s) node).getD .null))
      else child? name node := by
  cases s with
  | named key =>
    simp only [assign, stepName, child?_eq_get?_entriesOf]
    exact Entries.get?_insert key name _ _
  | append =>
    cases node with
    | object entries => exact Entries.get?_insert _ name _ entries
    | array items => exact child?_assign_append_array value rest items name
    -- A scalar gives way to a list, as if it had been an empty one.
    | null | bool _ | number _ | string _ => exact child?_assign_append_array value rest [] name

/-- What is written through a segment is no text. -/
theorem assign_cons_ne_string (value : String) (s : Segment) (rest : List Segment) (node : Json)
    (text : String) : assign value (s :: rest) node ≠ .string text := by
  cases s with
  | named key => simp [assign]
  | append => cases node <;> simp [assign]

/-- A path leads to a text below a node that may be missing as it does below null. -/
theorem bind_node?_eq_string_iff (path : Path) (node : Option Json) (text : String) :
    node.bind (node? path) = some (.string text) ↔
      node? path (node.getD .null) = some (.string text) := by
  cases node with
  | some v => rfl
  | none => cases path <;> simp [node?]

/-- After a write a path leads to a text if it is the path written and the text the one written, or
if it led there before and neither of the two paths goes through the other. -/
theorem node?_assign_eq_string_iff (value : String) (segments : List Segment) (root : Json)
    (path : Path) (text : String) :
    node? path (assign value segments root) = some (.string text) ↔
      path = writePath segments root ∧ text = value ∨
        node? path root = some (.string text) ∧
          ¬path <+: writePath segments root ∧ ¬writePath segments root <+: path := by
  induction segments generalizing root path with
  | nil =>
    cases path with
    | nil => simp [node?, assign, writePath, eq_comm]
    | cons name rest => simp [node?, assign, writePath]
  | cons s segments ih =>
    cases path with
    | nil => simp [node?, writePath, assign_cons_ne_string]
    | cons name rest =>
      simp only [node?, writePath, child?_assign]
      by_cases h : name = stepName root s
      · subst h
        simp only [if_true, Option.bind_some, ih, bind_node?_eq_string_iff, List.cons.injEq,
          true_and, List.cons_prefix_cons]
      · have h' : ¬stepName root s = name := fun e => h e.symm
        simp [h, h', List.cons_prefix_cons]

/-- A write removes the leaves above and below the path that its segments are resolved to, adds the
text there, and keeps every other leaf. -/
theorem leaves_assign (value : String) (segments : List Segment) (root : Json) :
    leaves (assign value segments root) =
      overwrite (writePath segments root) value (leaves root) := by
  ext ⟨path, text⟩
  simp [leaves, overwrite, node?_assign_eq_string_iff]

/-! ## A sequence of writes -/

/-- A further pair is written into what the others make. -/
theorem ofPairs_append_singleton (pairs : List (String × String)) (pair : String × String) :
    ofPairs (pairs ++ [pair]) = write (ofPairs pairs) pair := by
  simp [ofPairs]

/-- The leaves of an empty object. -/
theorem leaves_emptyObject : leaves .emptyObject = ∅ := by
  ext ⟨path, text⟩
  cases path <;> simp [leaves, node?, child?, Json.emptyObject, Entries.get?]

/-- **The leaves that pairs make.**  There are none at first.  Each further pair puts its text at
the path that its key is resolved to in the value so far, in the place of the leaves above and below
that path, and a pair whose key is not read changes nothing.  Where a key appends to an object, the
step is the next index after the keys of the object.  Not read are the written keys with more than
64 segments; any other written key is read as its head and its segments, and the keys that are not
written ones, those without a pair of brackets after a head, as one name. -/
theorem leaves_ofPairs :
    leaves (ofPairs []) = ∅ ∧
      (∀ (pairs : List (String × String)) (key value : String),
        match BracketKey.segments? key with
        | some segments =>
          leaves (ofPairs (pairs ++ [(key, value)])) =
            overwrite (writePath segments (ofPairs pairs)) value (leaves (ofPairs pairs))
        | none => ofPairs (pairs ++ [(key, value)]) = ofPairs pairs) ∧
      (∀ entries : Entries Json, IsNextIndex (Entries.keys entries) (nextIndex entries)) ∧
      (∀ k : WrittenKey, BracketKey.segments? k.text =
        if 64 < k.segments.length then none else some (.named k.head :: k.segments)) ∧
      (∀ key : String, BracketKey.segments? key = some [.named key] ↔ BracketKey.IsLiteral key) ∧
      ∀ key : String, ¬BracketKey.IsLiteral key ↔ ∃ k : WrittenKey, k.text = key := by
  refine ⟨leaves_emptyObject, ?_, isNextIndex_nextIndex, WrittenKey.segments?_text,
    WrittenKey.segments?_eq_singleton_iff, WrittenKey.not_isLiteral_iff⟩
  intro pairs key value
  rw [ofPairs_append_singleton]
  cases hsegments : BracketKey.segments? key with
  | some segments =>
    simp only [write, hsegments]
    exact leaves_assign value segments (ofPairs pairs)
  | none => simp only [write, hsegments]

end Params

end FieldRules
