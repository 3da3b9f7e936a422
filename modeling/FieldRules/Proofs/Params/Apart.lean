import FieldRules.Proofs.Json.Same

/-!
# Names apart

Writing a pair changes only the entry that its key leads to.  So what pairs leave under a name does
not depend on a pair whose key leads elsewhere (`Params.child?_ofPairs_cons`), and what they make is
compared name by name (`Params.same_ofPairs_iff`).
-/

set_option autoImplicit false

namespace FieldRules

/-! ## Keys -/

namespace BracketKey

/-- Whether a key leads to the entry with the given name, or to what is below it. -/
def LeadsTo (key name : String) : Prop :=
  ∃ rest, segments? key = some (.named name :: rest)

/-- The name is the whole key, or the head of the key where there are names in brackets after it. -/
theorem LeadsTo.name_eq {key name : String} (h : LeadsTo key name) :
    name.toList =
      if key.toList.takeWhile (· != '[') = [] ∨ groups (key.toList.dropWhile (· != '[')) = [] then
        key.toList
      else key.toList.takeWhile (· != '[') := by
  obtain ⟨rest, h⟩ := h
  simp only [segments?, List.span_eq_takeWhile_dropWhile, List.isEmpty_iff] at h
  split at h
  · rename_i hwhole
    cases h
    rw [if_pos hwhole]
  · rename_i hhead
    split at h
    · cases h
    · cases h
      rw [if_neg hhead, String.toList_ofList]

/-- With a question mark before it a key leads to another entry. -/
theorem not_leadsTo_and_leadsTo (key name : String) :
    ¬(LeadsTo key name ∧ LeadsTo (String.ofList ('?' :: key.toList)) name) := by
  rintro ⟨hplain, hmarked⟩
  have hname := hplain.name_eq
  rw [hmarked.name_eq, String.toList_ofList, List.takeWhile_cons_of_pos (by decide),
    List.dropWhile_cons_of_pos (by decide)] at hname
  have hmark (cs : List Char) : '?' :: cs ≠ cs := List.cons_ne_self '?' cs
  by_cases hnames : groups (key.toList.dropWhile (· != '[')) = []
  · rw [if_pos (Or.inr hnames), if_pos (Or.inr hnames)] at hname
    exact hmark _ hname
  · rw [if_neg (not_or.2 ⟨List.cons_ne_nil _ _, hnames⟩)] at hname
    by_cases hhead : key.toList.takeWhile (· != '[') = []
    · -- the key begins with a bracket and is one name, and before the bracket there is the mark
      rw [if_pos (Or.inl hhead), hhead] at hname
      rw [← hname] at hhead
      exact absurd hhead (by decide)
    · rw [if_neg (not_or.2 ⟨hhead, hnames⟩)] at hname
      exact hmark _ hname

end BracketKey

/-! ## Writing pairs -/

namespace Params

/-- Writing a pair changes only the entry that its key leads to. -/
theorem child?_write_of_not_leadsTo {pair : String × String} {name : String}
    (h : ¬BracketKey.LeadsTo pair.1 name) (root : Json) :
    child? name (write root pair) = child? name root := by
  unfold write
  cases hsegments : BracketKey.segments? pair.1 with
  | none => rfl
  | some segments =>
    obtain ⟨first, rest, rfl, -⟩ := exists_of_segments? hsegments
    have hne : name ≠ first := by
      rintro rfl
      exact h ⟨rest, hsegments⟩
    exact (child?_assign pair.2 (.named first) rest root name).trans (if_neg hne)

/-- What is under a name after writing a pair depends on what was under the name, and on nothing
beside it. -/
theorem child?_write_congr {root root' : Json} {name : String}
    (h : child? name root = child? name root') (pair : String × String) :
    child? name (write root pair) = child? name (write root' pair) := by
  by_cases hleads : BracketKey.LeadsTo pair.1 name
  · obtain ⟨rest, hsegments⟩ := hleads
    rw [write, write, hsegments]
    show child? name (assign pair.2 (.named name :: rest) root) =
      child? name (assign pair.2 (.named name :: rest) root')
    rw [child?_assign, child?_assign, stepName, stepName, h]
  · rw [child?_write_of_not_leadsTo hleads, child?_write_of_not_leadsTo hleads, h]

/-- What pairs write under a name depends only on what stands there before. -/
theorem child?_foldl_write_congr (pairs : List (String × String)) {root root' : Json}
    {name : String} (h : child? name root = child? name root') :
    child? name (pairs.foldl write root) = child? name (pairs.foldl write root') := by
  induction pairs generalizing root root' with
  | nil => exact h
  | cons pair pairs ih => exact ih (child?_write_congr h pair)

/-- A first pair is not seen under the names that its key does not lead to. -/
theorem child?_ofPairs_cons {pair : String × String} {name : String}
    (h : ¬BracketKey.LeadsTo pair.1 name) (pairs : List (String × String)) :
    child? name (ofPairs (pair :: pairs)) = child? name (ofPairs pairs) := by
  apply child?_foldl_write_congr pairs
  exact child?_write_of_not_leadsTo h _

/-! ## Comparing what pairs make -/

/-- What pairs make is compared name by name. -/
theorem same_ofPairs_iff (pairs pairs' : List (String × String)) :
    (ofPairs pairs).same (ofPairs pairs') = true ↔
      ∀ name, Option.Rel (fun x y : Json => x.same y = true) (child? name (ofPairs pairs))
        (child? name (ofPairs pairs')) := by
  obtain ⟨xs, hxs, hkeys, -⟩ := filledBelow_ofPairs pairs
  obtain ⟨ys, hys, hkeys', -⟩ := filledBelow_ofPairs pairs'
  rw [hxs, hys]
  exact Json.same_object_iff hkeys hkeys'

/-- What pairs make under a name is the same as itself. -/
theorem same_child?_ofPairs_self (pairs : List (String × String)) (name : String) :
    Option.Rel (fun x y : Json => x.same y = true) (child? name (ofPairs pairs))
      (child? name (ofPairs pairs)) := by
  obtain ⟨entries, heq, -, hentries⟩ := filledBelow_ofPairs pairs
  rw [heq]
  cases hget : child? name (.object entries) with
  | none => exact .none
  | some v => exact .some (hentries _ (Entries.mem_of_get? hget)).same_self

/-- If no name tells both of two values from a third one, the two are the same exactly if both are
the same as the third one. -/
theorem same_ofPairs_iff_of_forall_or {first second third : List (String × String)}
    (h : ∀ name, child? name (ofPairs first) = child? name (ofPairs third) ∨
      child? name (ofPairs second) = child? name (ofPairs third)) :
    (ofPairs first).same (ofPairs second) = true ↔
      (ofPairs first).same (ofPairs third) = true ∧
        (ofPairs third).same (ofPairs second) = true := by
  rw [same_ofPairs_iff, same_ofPairs_iff, same_ofPairs_iff, ← forall_and]
  apply forall_congr'
  intro name
  have hself := same_child?_ofPairs_self third name
  rcases h name with heq | heq
  · rw [heq]
    exact (and_iff_right hself).symm
  · rw [heq]
    exact (and_iff_left hself).symm

end Params

end FieldRules
