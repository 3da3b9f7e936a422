import FieldRules.Path
import FieldRules.Proofs.Entries
import Mathlib

/-!
# Reading and writing at a path

`Path.set` walks down on its own, apart from `Path.get?`: it goes through a list only where the name
denotes a position of it, and makes an object of everything else that it cannot go through.  Still
the two are a lens (`Path.get?_set_lens`): what is written is read, writing what is there changes
nothing, and of two writes the second one counts.  The laws of a whole path follow from those of one
step, which writes with `Path.put` what `Path.child?` reads.
-/

set_option autoImplicit false

namespace FieldRules

namespace Entries

variable {α : Type}

/-- Writing what a key reads changes nothing. -/
theorem insert_of_get? {key : String} {value : α} {m : Entries α} (h : get? key m = some value) :
    insert key value m = m := by
  induction m with
  | nil => simp [get?] at h
  | cons p rest ih =>
    obtain ⟨k, v⟩ := p
    by_cases hk : k = key
    · simp only [get?, hk, if_true, Option.some.injEq] at h
      simp [insert, hk, h]
    · simp only [get?, hk, if_false] at h
      simp [insert, hk, ih h]

/-- Of two insertions under one key the second one counts. -/
theorem insert_insert (key : String) (value other : α) (m : Entries α) :
    insert key other (insert key value m) = insert key other m := by
  induction m with
  | nil => simp [insert]
  | cons p rest ih =>
    obtain ⟨k, v⟩ := p
    by_cases hk : k = key <;> simp [insert, hk, ih]

end Entries

namespace Path

/-! ## One step -/

/-- Puts a value one step below a node: at the position of a list that the name denotes, else under
the name as a key. -/
def put (name : String) (atEnd : Bool) (below node : Json) : Json :=
  match listSlot? name atEnd node with
  | some (items, i) => .array (items.take i ++ below :: items.drop (i + 1))
  | none => .object (Entries.insert name below (entriesOf node))

/-- Which position of a list a name may be written to. -/
theorem listSlot?_eq_some_iff (name : String) (atEnd : Bool) (node : Json) (items : List Json)
    (i : Nat) :
    listSlot? name atEnd node = some (items, i) ↔
      node = .array items ∧ Text.index? name = some i ∧
        (i < items.length ∨ atEnd = true ∧ i = items.length) := by
  cases node with
  | array others =>
    cases hindex : Text.index? name with
    | none => simp [listSlot?, hindex]
    | some j =>
      simp only [listSlot?, hindex, Json.array.injEq, Option.some.injEq]
      split
      · rename_i hj
        simp only [Option.some.injEq, Prod.mk.injEq]
        constructor
        · rintro ⟨rfl, rfl⟩
          exact ⟨rfl, rfl, hj⟩
        · rintro ⟨rfl, rfl, -⟩
          exact ⟨rfl, rfl⟩
      · rename_i hj
        simp only [reduceCtorEq, false_iff, not_and]
        rintro rfl rfl h
        exact hj h
  | null | bool _ | number _ | string _ | object _ => simp [listSlot?]

/-- A list that has no place for a name has no element there. -/
theorem child?_array_of_listSlot?_eq_none {name : String} {atEnd : Bool} {items : List Json}
    (h : listSlot? name atEnd (.array items) = none) : child? name (.array items) = none := by
  cases hindex : Text.index? name with
  | none => simp [child?, hindex]
  | some i =>
    have hi : ¬i < items.length := by
      intro hlt
      have hslot := (listSlot?_eq_some_iff name atEnd (.array items) items i).2
        ⟨rfl, hindex, Or.inl hlt⟩
      rw [h] at hslot
      cases hslot
    simpa [child?, hindex] using hi

/-- Writing through a name puts one step below a node what is written there. -/
theorem set_cons (value : Json) (name : String) (rest : Path) (node : Json) :
    set value (name :: rest) node =
      put name rest.isEmpty (set value rest ((child? name node).getD .emptyObject)) node := by
  unfold put
  cases hslot : listSlot? name rest.isEmpty node with
  | some slot =>
    obtain ⟨items, i⟩ := slot
    obtain ⟨rfl, hindex, -⟩ := (listSlot?_eq_some_iff _ _ _ _ _).1 hslot
    simp [set, hslot, child?, hindex]
  | none =>
    cases node with
    | array items =>
      have hchild := child?_array_of_listSlot?_eq_none hslot
      simp [set, hslot, hchild, entriesOf, Entries.get?]
    | null | bool _ | number _ | string _ | object _ =>
      simp [set, hslot, child?, entriesOf, Entries.get?]

/-- The elements of a list after one of its positions, or its end, has been written to. -/
theorem getElem?_take_cons_drop {items : List Json} {i : Nat} (hi : i ≤ items.length)
    (below : Json) (j : Nat) :
    (items.take i ++ below :: items.drop (i + 1))[j]? =
      if j = i then some below else items[j]? := by
  have hlength : (items.take i).length = i := List.length_take_of_le hi
  rcases Nat.lt_trichotomy j i with hj | rfl | hj
  · rw [List.getElem?_append_left (by omega), List.getElem?_take_of_lt hj, if_neg (by omega)]
  · rw [List.getElem?_append_right (by omega), hlength]
    simp
  · rw [List.getElem?_append_right (by omega), hlength, if_neg (by omega)]
    obtain ⟨k, rfl⟩ := Nat.exists_eq_add_of_lt hj
    have hk : i + k + 1 - i = k + 1 := by omega
    rw [hk, List.getElem?_cons_succ, List.getElem?_drop]
    congr 1
    omega

/-- What is put under a name is read there. -/
theorem child?_put (name : String) (atEnd : Bool) (below node : Json) :
    child? name (put name atEnd below node) = some below := by
  unfold put
  cases hslot : listSlot? name atEnd node with
  | some slot =>
    obtain ⟨items, i⟩ := slot
    obtain ⟨-, hindex, hi⟩ := (listSlot?_eq_some_iff _ _ _ _ _).1 hslot
    have hle : i ≤ items.length := by omega
    simp only [child?, hindex, Option.bind_some, getElem?_take_cons_drop hle, if_true]
  | none => simp [child?, Entries.get?_insert]

/-- Putting under a name what is there changes nothing. -/
theorem put_of_child? {name : String} {below node : Json} (h : child? name node = some below)
    (atEnd : Bool) : put name atEnd below node = node := by
  unfold put
  cases hslot : listSlot? name atEnd node with
  | some slot =>
    obtain ⟨items, i⟩ := slot
    obtain ⟨rfl, hindex, -⟩ := (listSlot?_eq_some_iff _ _ _ _ _).1 hslot
    simp only [child?, hindex, Option.bind_some] at h
    obtain ⟨hi, rfl⟩ := List.getElem?_eq_some_iff.1 h
    simp
  | none =>
    cases node with
    | array items =>
      rw [child?_array_of_listSlot?_eq_none hslot] at h
      cases h
    | object entries => simp [entriesOf, Entries.insert_of_get? h]
    | null | bool _ | number _ | string _ => cases h

/-- Of two values put under one name the second one counts. -/
theorem put_put (name : String) (atEnd : Bool) (below other node : Json) :
    put name atEnd other (put name atEnd below node) = put name atEnd other node := by
  cases hslot : listSlot? name atEnd node with
  | some slot =>
    obtain ⟨items, i⟩ := slot
    obtain ⟨-, hindex, hi⟩ := (listSlot?_eq_some_iff _ _ _ _ _).1 hslot
    have hle : i ≤ items.length := by omega
    have hlength : (items.take i).length = i := List.length_take_of_le hle
    -- After the first write the position is inside the list, also where it was its end.
    have hslot' : listSlot? name atEnd (.array (items.take i ++ below :: items.drop (i + 1))) =
        some (items.take i ++ below :: items.drop (i + 1), i) := by
      rw [listSlot?_eq_some_iff]
      refine ⟨rfl, hindex, Or.inl ?_⟩
      simp only [List.length_append, List.length_cons]
      omega
    have htake : (items.take i ++ below :: items.drop (i + 1)).take i = items.take i :=
      List.take_left' hlength
    have hdrop : (items.take i ++ below :: items.drop (i + 1)).drop (i + 1) =
        items.drop (i + 1) := by
      rw [← List.drop_drop, List.drop_left' hlength, List.drop_one, List.tail_cons]
    simp only [put, hslot, hslot', htake, hdrop]
  | none =>
    have hobject (entries : Entries Json) : listSlot? name atEnd (.object entries) = none := rfl
    simp only [put, hslot, hobject, entriesOf, Entries.insert_insert]

/-! ## Whole paths -/

/-- What is written at a path is read there. -/
theorem get?_set (path : Path) (value root : Json) :
    get? path (set value path root) = some value := by
  induction path generalizing root with
  | nil => rfl
  | cons name rest ih => rw [set_cons, get?, child?_put, Option.bind_some, ih]

/-- Writing at a path what is there changes nothing. -/
theorem set_of_get? {path : Path} {value root : Json} (h : get? path root = some value) :
    set value path root = root := by
  induction path generalizing root with
  | nil => exact (Option.some.inj h).symm
  | cons name rest ih =>
    rw [get?, Option.bind_eq_some_iff] at h
    obtain ⟨below, hchild, hbelow⟩ := h
    rw [set_cons, hchild, Option.getD_some, ih hbelow]
    exact put_of_child? hchild rest.isEmpty

/-- Of two writes at one path the second one counts. -/
theorem set_set (path : Path) (value other root : Json) :
    set other path (set value path root) = set other path root := by
  induction path generalizing root with
  | nil => rfl
  | cons name rest ih =>
    rw [set_cons value, set_cons other, child?_put, Option.getD_some, ih, put_put, ← set_cons]

/-- **Reading and writing at a path are a lens.**  What is written at a path is read there, writing
what is read changes nothing, and of two writes the second one counts; the order of entries is kept
too. -/
theorem get?_set_lens (root : Json) (path : String) (value other : Json) :
    get? (ofText path) (set value (ofText path) root) = some value ∧
      (get? (ofText path) root = some value → set value (ofText path) root = root) ∧
      set other (ofText path) (set value (ofText path) root) = set other (ofText path) root :=
  ⟨get?_set _ value root, set_of_get?, set_set _ value other root⟩

/-- A path through a list with a position that has a sign and a leading zero. -/
theorem get?_set_lens_through_list :
    get? (ofText "a.+01.b") (.object [("a", .array [.null, .object [("b", .bool true)]])]) =
        some (.bool true) ∧
      set (.bool true) (ofText "a.+01.b")
          (.object [("a", .array [.null, .object [("b", .bool true)]])]) =
        .object [("a", .array [.null, .object [("b", .bool true)]])] :=
  have hread : get? (ofText "a.+01.b")
      (.object [("a", .array [.null, .object [("b", .bool true)]])]) = some (.bool true) := by cbv
  ⟨hread, (get?_set_lens _ "a.+01.b" (.bool true) .null).2.1 hread⟩

end Path

end FieldRules
