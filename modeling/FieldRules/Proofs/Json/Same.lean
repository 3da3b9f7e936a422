import FieldRules.Proofs.Entries
import FieldRules.Proofs.Params.Filled
import Mathlib.Data.List.Perm.Subperm

/-!
# Equality up to order

Two objects with distinct keys are the same exactly if they have the same value under each key, or
none (`Json.same_object_iff`).
-/

set_option autoImplicit false

namespace FieldRules

namespace Json

/-- Entries have the same values among others if each key has the same value there. -/
theorem sameEntries_iff (xs ys : Entries Json) :
    sameEntries xs ys = true ↔
      ∀ p ∈ xs, ∃ y, Entries.get? p.1 ys = some y ∧ p.2.same y = true := by
  induction xs with
  | nil => simp [sameEntries]
  | cons p xs ih =>
    obtain ⟨k, x⟩ := p
    rw [sameEntries, Bool.and_eq_true, ih, List.forall_mem_cons]
    apply and_congr_left'
    cases Entries.get? k ys with
    | none => simp
    | some y => simp

/-- Objects are compared key by key. -/
theorem same_object_iff {xs ys : Entries Json} (hxs : (Entries.keys xs).Nodup)
    (hys : (Entries.keys ys).Nodup) :
    same (.object xs) (.object ys) = true ↔
      ∀ key, Option.Rel (fun x y : Json => x.same y = true) (Entries.get? key xs)
        (Entries.get? key ys) := by
  rw [same, Bool.and_eq_true, beq_iff_eq, sameEntries_iff]
  constructor
  · rintro ⟨hlength, hentries⟩ key
    cases hx : Entries.get? key xs with
    | some x =>
      obtain ⟨y, hy, hsame⟩ := hentries _ (Entries.mem_of_get? hx)
      rw [hy]
      exact .some hsame
    | none =>
      -- the keys of the one are among those of the other, and there are as many of both
      have hsubset : Entries.keys xs ⊆ Entries.keys ys := by
        intro k hk
        obtain ⟨p, hp, rfl⟩ := List.mem_map.1 hk
        obtain ⟨y, hy, -⟩ := hentries p hp
        exact List.mem_map.2 ⟨_, Entries.mem_of_get? hy, rfl⟩
      have hperm : (Entries.keys xs).Perm (Entries.keys ys) := by
        apply (hxs.subperm hsubset).perm_of_length_le
        simp [Entries.keys, hlength]
      have hnone : key ∉ Entries.keys ys := by
        rw [← hperm.mem_iff, ← Entries.get?_eq_none_iff]
        exact hx
      rw [(Entries.get?_eq_none_iff key ys).2 hnone]
      exact .none
  · intro hrel
    have hkeys (key : String) : key ∈ Entries.keys xs ↔ key ∈ Entries.keys ys := by
      have hkey := hrel key
      rw [← not_iff_not, ← Entries.get?_eq_none_iff, ← Entries.get?_eq_none_iff]
      generalize Entries.get? key xs = x, Entries.get? key ys = y at hkey
      cases hkey with
      | some h => simp
      | none => simp
    constructor
    · have hperm := (List.perm_ext_iff_of_nodup hxs hys).2 hkeys
      simpa [Entries.keys] using hperm.length_eq
    · intro p hp
      have hkey := hrel p.1
      rw [Entries.get?_of_mem hxs hp] at hkey
      generalize Entries.get? p.1 ys = found at hkey
      cases hkey with
      | some hsame => exact ⟨_, rfl, hsame⟩

/-- Items that are each the same as themselves are the same items. -/
theorem sameItems_self {items : List Json} (h : ∀ item ∈ items, item.same item = true) :
    sameItems items items = true := by
  induction items with
  | nil => rfl
  | cons item items ih =>
    obtain ⟨hitem, hitems⟩ := List.forall_mem_cons.1 h
    rw [sameItems, hitem, ih hitems]
    rfl

/-- An object of distinct keys is the same as itself if its values are. -/
theorem same_object_self {entries : Entries Json} (hkeys : (Entries.keys entries).Nodup)
    (hentries : ∀ p ∈ entries, p.2.same p.2 = true) :
    same (.object entries) (.object entries) = true := by
  rw [same_object_iff hkeys hkeys]
  intro key
  cases hget : Entries.get? key entries with
  | none => exact .none
  | some v => exact .some (hentries _ (Entries.mem_of_get? hget))

/-- A value that pairs fill, which has no numbers, is the same as itself. -/
theorem Filled.same_self {depth : Nat} {v : Json} (h : v.Filled depth) : v.same v = true := by
  induction h with
  | string depth s => exact beq_self_eq_true s
  | array hne hitems ih => exact sameItems_self ih
  | object hne hkeys hentries ih => exact same_object_self hkeys ih

end Json

end FieldRules
