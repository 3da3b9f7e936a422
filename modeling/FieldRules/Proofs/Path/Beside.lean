import FieldRules.Proofs.Path.Lens

/-!
# What a write leaves alone

Two paths that part at some node: one is written, the other one read.  Beside the name that is
written a node keeps what it has (`Path.child?_put_of_ne_array`, `Path.child?_put_array`), except
for a list without a place for that name, which gives way to an object and loses all its elements
(`Path.child?_put_array_of_not_isSlot`).  On the way to the node where they part the two paths go
through the same steps, so this decides what the other path reads (`Path.get?_set_beside`).
-/

set_option autoImplicit false

namespace FieldRules

namespace Path

/-- Whether a name, with `rest` below it, may be written to a position of a list: that of an
element, or the end of the list where the path ends too. -/
def IsSlot (items : List Json) (name : String) (rest : Path) (i : Nat) : Prop :=
  Text.index? name = some i ∧ (i < items.length ∨ rest = [] ∧ i = items.length)

/-- A position of a list may be written to exactly if it is a slot. -/
theorem listSlot?_array_eq_some_iff (items : List Json) (name : String) (rest : Path) (i : Nat) :
    listSlot? name rest.isEmpty (.array items) = some (items, i) ↔ IsSlot items name rest i := by
  simp [listSlot?_eq_some_iff, IsSlot]

/-! ## One step -/

/-- Outside of lists a write changes no other name. -/
theorem child?_put_of_ne_array {name other : String} (hne : other ≠ name) (atEnd : Bool)
    (below : Json) {node : Json} (h : ∀ items, node ≠ .array items) :
    child? other (put name atEnd below node) = child? other node := by
  cases node with
  | array items => exact absurd rfl (h items)
  | object entries => simp [put, listSlot?, entriesOf, child?, Entries.get?_insert, hne]
  | null | bool _ | number _ | string _ =>
    simp [put, listSlot?, entriesOf, child?, Entries.get?_insert, Entries.get?, hne]

/-- In a list with a place for the name a write changes no name of another position. -/
theorem child?_put_array {items : List Json} {name other : String} {rest : Path} {i : Nat}
    (h : IsSlot items name rest i) (hother : Text.index? other ≠ some i) (below : Json) :
    child? other (put name rest.isEmpty below (.array items)) = child? other (.array items) := by
  have hle : i ≤ items.length := by
    rcases h.2 with hlt | ⟨-, heq⟩ <;> omega
  simp only [put, (listSlot?_array_eq_some_iff items name rest i).2 h, child?]
  cases hindex : Text.index? other with
  | none => rfl
  | some j =>
    have hj : j ≠ i := by
      rintro rfl
      exact hother hindex
    rw [Option.bind_some, Option.bind_some, getElem?_take_cons_drop hle, if_neg hj]

/-- A list without a place for the name becomes an object that has that name alone. -/
theorem child?_put_array_of_not_isSlot {items : List Json} {name other : String} {rest : Path}
    (h : ∀ i, ¬IsSlot items name rest i) (hne : other ≠ name) (below : Json) :
    child? other (put name rest.isEmpty below (.array items)) = none := by
  have hslot : listSlot? name rest.isEmpty (.array items) = none := by
    rw [Option.eq_none_iff_forall_ne_some]
    rintro ⟨items', i⟩ hslot
    obtain ⟨hitems, -⟩ := (listSlot?_eq_some_iff _ _ _ _ _).1 hslot
    obtain rfl := Json.array.inj hitems
    exact h i ((listSlot?_array_eq_some_iff items name rest i).1 hslot)
  have hne' : ¬name = other := fun e => hne e.symm
  simp [put, hslot, entriesOf, child?, Entries.insert, Entries.get?, hne']

/-! ## Whole paths -/

/-- A path is followed step by step. -/
theorem get?_append (first second : Path) (root : Json) :
    get? (first ++ second) root = (get? first root).bind (get? second) := by
  induction first generalizing root with
  | nil => rfl
  | cons name rest ih =>
    rw [List.cons_append, get?, get?, Option.bind_assoc]
    congr 1
    funext node
    exact ih node

/-- A write below some names happens at the node that they lead to, or at an empty object where they
lead nowhere. -/
theorem get?_set_append (common path : Path) (value root : Json) :
    get? common (set value (common ++ path) root) =
      some (set value path ((get? common root).getD .emptyObject)) := by
  induction common generalizing root with
  | nil => rfl
  | cons name rest ih =>
    have hbelow : (get? rest ((child? name root).getD .emptyObject)).getD .emptyObject =
        ((child? name root).bind (get? rest)).getD .emptyObject := by
      cases child? name root with
      | some node => rfl
      | none => cases rest <;> rfl
    rw [List.cons_append, set_cons, get?, child?_put, Option.bind_some, ih, hbelow, get?]

/-- **What a write leaves alone.**  Take two paths that part after some common names.  If the common
names do not lead to a list, the other path reads what it read before.  If they lead to a list and
the next name written is accepted as a position of it, the other path reads what it read before
unless its next name denotes the same position.  If that name is not accepted, the other path reads
nothing. -/
theorem get?_set_beside (root value : Json) (path other : String) (common rest rest' : Path)
    (name name' : String) (hpath : ofText path = common ++ name :: rest)
    (hother : ofText other = common ++ name' :: rest') (hne : name' ≠ name) :
    ((∀ items, get? common root ≠ some (.array items)) →
        get? (ofText other) (set value (ofText path) root) = get? (ofText other) root) ∧
      ∀ items, get? common root = some (.array items) →
        (∀ i, IsSlot items name rest i → Text.index? name' ≠ some i →
            get? (ofText other) (set value (ofText path) root) = get? (ofText other) root) ∧
          ((∀ i, ¬IsSlot items name rest i) →
            get? (ofText other) (set value (ofText path) root) = none) := by
  have hafter : get? (ofText other) (set value (ofText path) root) =
      (child? name' (put name rest.isEmpty
        (set value rest ((child? name ((get? common root).getD .emptyObject)).getD .emptyObject))
        ((get? common root).getD .emptyObject))).bind (get? rest') := by
    rw [hother, hpath, get?_append, get?_set_append, Option.bind_some, get?, set_cons]
  have hbefore : get? (ofText other) root =
      (get? common root).bind fun node => (child? name' node).bind (get? rest') := by
    rw [hother, get?_append]
    rfl
  rw [hafter, hbefore]
  refine ⟨?_, ?_⟩
  · intro hlist
    cases hnode : get? common root with
    | some node =>
      have harray : ∀ items, node ≠ .array items := by
        rintro items rfl
        exact hlist items hnode
      rw [Option.getD_some, child?_put_of_ne_array hne _ _ harray, Option.bind_some]
    | none =>
      -- The names that are missing become objects, which have nothing beside the name written.
      have hempty : child? name' .emptyObject = none := rfl
      rw [Option.getD_none, child?_put_of_ne_array hne _ _ (by simp [Json.emptyObject]), hempty]
      rfl
  · intro items hnode
    rw [hnode, Option.getD_some, Option.bind_some]
    refine ⟨?_, ?_⟩
    · intro i hslot hindex
      rw [child?_put_array hslot hindex]
    · intro hslot
      rw [child?_put_array_of_not_isSlot hslot hne]
      rfl

/-- Writing below `a.5` of a list of two elements loses the first one, which `a.0` led to. -/
theorem get?_set_beside_replaced_list :
    get? (ofText "a.0") (.object [("a", .array [.bool true, .null])]) = some (.bool true) ∧
      get? (ofText "a.0")
        (set .null (ofText "a.5.b") (.object [("a", .array [.bool true, .null])])) = none := by
  have hread : get? ["a"] (.object [("a", .array [.bool true, .null])]) =
      some (.array [.bool true, .null]) := by cbv
  have hslot : ∀ i, ¬IsSlot [.bool true, .null] "5" ["b"] i := by
    rintro i ⟨hindex, hi⟩
    have hfive : Text.index? "5" = some 5 := by cbv
    rw [hfive, Option.some.injEq] at hindex
    subst hindex
    simp at hi
  refine ⟨by cbv, ?_⟩
  exact ((get?_set_beside (.object [("a", .array [.bool true, .null])]) .null "a.5.b" "a.0" ["a"]
    ["b"] [] "5" "0" (by cbv) (by cbv) (by decide)).2 _ hread).2 hslot

end Path

end FieldRules
