import FieldRules.Proofs.Params.Leaves
import FieldRules.Proofs.Params.WrittenKey
import Mathlib

/-!
# Appending to a container

A key such as `a[b][]` leads to the container at `a`, `b` and appends to it.  A list always grows by
the value.  An object grows by the value under its next index, which is a new key except in one
case: where the object has the largest index that there is, the entry under that index is replaced
(`Params.extended_iff_not_full`).
-/

set_option autoImplicit false

namespace FieldRules

namespace Params

/-- Whether a value is a list or an object. -/
def IsContainer : Json → Prop
  | .array _ | .object _ => True
  | _ => False

/-- Whether a container holds a text as one more element, after all elements that it held before,
each of them as it was and in its place. -/
def Extended (value : String) : Json → Json → Prop
  | .array items, .array items' => items' = items ++ [.string value]
  | .object entries, .object entries' =>
    ∃ key, key ∉ Entries.keys entries ∧ entries' = entries ++ [(key, .string value)]
  | _, _ => False

/-- Whether a container is an object that has the largest index as a key. -/
def Full : Json → Prop
  | .object entries => Text.numeral (Text.wordBound - 1) ∈ Entries.keys entries
  | _ => False

/-- Segments that are names lead down their path, and what follows them is written there. -/
theorem node?_assign_named (value : String) (path : Path) (segments : List Segment) (root : Json) :
    node? path (assign value (path.map Segment.named ++ segments) root) =
      some (assign value segments ((node? path root).getD .null)) := by
  induction path generalizing root with
  | nil => rfl
  | cons name path ih =>
    have hbelow : (node? path ((child? name root).getD .null)).getD .null =
        ((child? name root).bind (node? path)).getD .null := by
      cases child? name root with
      | some node => rfl
      | none => cases path <;> rfl
    simp only [List.map_cons, List.cons_append, node?, child?_assign, stepName, if_true,
      Option.bind_some, ih, hbelow]

/-- The next index is taken exactly if the largest index is. -/
theorem numeral_nextIndex_mem_iff (entries : Entries Json) :
    Text.numeral (nextIndex entries) ∈ Entries.keys entries ↔
      Text.numeral (Text.wordBound - 1) ∈ Entries.keys entries := by
  have hpos : 0 < Text.wordBound := by decide
  have hlast : Text.wordBound - 1 < Text.wordBound := Nat.sub_one_lt hpos.ne'
  rcases isNextIndex_nextIndex entries with ⟨m, ⟨hm, hmax⟩, hnext⟩ | ⟨hnone, hnext⟩
  · have hle : m ≤ Text.wordBound - 1 := Nat.le_sub_one_of_lt hm.1
    rcases hle.eq_or_lt with heq | hlt
    · -- The largest key is the largest index, and the next index stays there.
      have hn : nextIndex entries = Text.wordBound - 1 := by
        rw [hnext, heq]
        exact min_eq_right (Nat.le_succ _)
      rw [hn]
    · -- One past the largest key is no key, and the largest index, which is not below it, is none.
      have hn : nextIndex entries = m + 1 := by
        rw [hnext]
        exact min_eq_left hlt
      constructor
      · intro h
        rw [hn] at h
        have hsucc := hmax ⟨lt_of_le_of_lt hlt hlast, h⟩
        exact absurd hsucc (Nat.not_succ_le_self m)
      · intro h
        have hback := hmax ⟨hlast, h⟩
        exact absurd hback (not_le.2 hlt)
  · rw [hnext]
    exact iff_of_false (hnone 0 hpos) (hnone _ hlast)

/-- Appending extends a container, unless it is full. -/
theorem extended_assign_append_iff (value : String) {container : Json} (h : IsContainer container) :
    Extended value container (assign value [.append] container) ↔ ¬Full container := by
  cases container with
  | array items => simp [assign, Extended, Full]
  | object entries =>
    simp only [assign, Extended, Full, ← numeral_nextIndex_mem_iff]
    constructor
    · rintro ⟨key, -, hinsert⟩ hmem
      have hlength := Entries.length_insert_of_mem (.string value) hmem
      rw [hinsert] at hlength
      simp at hlength
    · intro hmem
      exact ⟨_, hmem, Entries.insert_of_notMem (.string value) hmem⟩
  | null | bool _ | number _ | string _ => exact h.elim

/-- The segments of a key that appends to the container under a head and names. -/
theorem segments?_written_append {head : String} {names : List String} (hne : head ≠ "")
    (hhead : '[' ∉ head.toList) (hnames : ∀ name ∈ names, name ≠ "" ∧ ']' ∉ name.toList)
    (hdepth : names.length + 1 ≤ BracketKey.maxNesting) :
    BracketKey.segments? (BracketKey.written head (names ++ [""])) =
      some ((head :: names).map Segment.named ++ [.append]) := by
  have hclosing : ∀ name ∈ names ++ [""], ']' ∉ name.toList := by
    intro name hname
    rcases List.mem_append.1 hname with hname | hname
    · exact (hnames name hname).2
    · simp [List.mem_singleton.1 hname]
  have hnamed : names.map (fun name => BracketKey.segment name.toList) =
      names.map Segment.named := by
    apply List.map_congr_left
    intro name hname
    have hempty : name.toList.isEmpty = false := by simpa using (hnames name hname).1
    simp [BracketKey.segment, hempty]
  rw [BracketKey.segments?_written hne hhead hclosing (by simp) (by simpa using hdepth)]
  rw [List.map_append, hnamed]
  simp [BracketKey.segment]

/-- **Appending keeps what is there, except at the largest index.**  Take any pairs, and a further
pair whose key has a head, names, and empty brackets at its end.  If the head and the names lead to
a container, then they lead to a container afterwards too, and it is the one before with the value
as one more element exactly if the container before was not an object with the largest index. -/
theorem extended_iff_not_full (pairs : List (String × String)) (head : String) (names : List String)
    (value : String) (before : Json) (hne : head ≠ "") (hhead : '[' ∉ head.toList)
    (hnames : ∀ name ∈ names, name ≠ "" ∧ ']' ∉ name.toList)
    (hdepth : names.length + 1 ≤ BracketKey.maxNesting)
    (hbefore : node? (head :: names) (ofPairs pairs) = some before)
    (hcontainer : IsContainer before) :
    ∃ after,
      node? (head :: names)
          (ofPairs (pairs ++ [(BracketKey.written head (names ++ [""]), value)])) = some after ∧
        (Extended value before after ↔ ¬Full before) := by
  have hsegments := segments?_written_append hne hhead hnames hdepth
  refine ⟨assign value [.append] before, ?_, extended_assign_append_iff value hcontainer⟩
  rw [ofPairs_append_singleton]
  simp only [write, hsegments]
  rw [node?_assign_named, hbefore]
  rfl

/-- After `a[]=x` and `a[k]=y` have made a list and then an object of it, `a[]=z` adds to that. -/
theorem extended_iff_not_full_former_list :
    ∃ after,
      node? ["a"] (ofPairs ([("a[]", "x"), ("a[k]", "y")] ++ [("a[]", "z")])) = some after ∧
        (Extended "z" (.object [("0", .string "x"), ("k", .string "y")]) after ↔
          ¬Full (.object [("0", .string "x"), ("k", .string "y")])) :=
  extended_iff_not_full [("a[]", "x"), ("a[k]", "y")] "a" [] "z"
    (.object [("0", .string "x"), ("k", .string "y")]) (by decide) (by decide) (by simp) (by decide)
    (by cbv) trivial

/-- Where an object has the largest index, appending replaces the entry under it. -/
theorem not_extended_at_largest_index :
    node? ["a"] (ofPairs [("a[18446744073709551615]", "x")]) =
        some (.object [("18446744073709551615", .string "x")]) ∧
      node? ["a"] (ofPairs ([("a[18446744073709551615]", "x")] ++ [("a[]", "y")])) =
        some (.object [("18446744073709551615", .string "y")]) ∧
      ¬Extended "y" (.object [("18446744073709551615", .string "x")])
        (.object [("18446744073709551615", .string "y")]) := by
  refine ⟨by cbv, by cbv, ?_⟩
  rintro ⟨key, -, h⟩
  simp at h

end Params

end FieldRules
