import FieldRules.Text.Space
import FieldRules.Text.Split
import Mathlib.Data.List.TakeWhile

/-!
# Cutting texts

`Text.splitFirst?` cuts a text at the first element that satisfies a test
(`Text.splitFirst?_eq_some_iff`), `Text.splitOn` cuts it at every separator (`Text.splitOn_append`),
and `Text.trim` takes off what white space stands around a text (`Text.trim_padded`).
-/

set_option autoImplicit false

namespace FieldRules.Text

section Split

variable {α : Type} {p : α → Bool} {cs before after : List α}

/-- What does not satisfy the test stays before the cut. -/
theorem splitFirst?_append (h : ∀ x ∈ before, p x = false) (cs : List α) :
    splitFirst? p (before ++ cs) = (splitFirst? p cs).map fun pieces =>
      (before ++ pieces.1, pieces.2) := by
  induction before with
  | nil => simp
  | cons x before ih =>
    obtain ⟨hx, hbefore⟩ := List.forall_mem_cons.1 h
    rw [List.cons_append, splitFirst?, if_neg (by simp [hx]), ih hbefore, Option.map_map]
    rfl

/-- A text is cut at the one element that satisfies the test and that no such element precedes. -/
theorem splitFirst?_eq_some_iff : splitFirst? p cs = some (before, after) ↔
    ∃ c, p c = true ∧ (∀ x ∈ before, p x = false) ∧ cs = before ++ c :: after := by
  constructor
  · intro h
    induction cs generalizing before with
    | nil => cases h
    | cons c rest ih =>
      unfold splitFirst? at h
      split at h
      · rename_i hc
        obtain ⟨rfl, rfl⟩ := Prod.mk.inj (Option.some.inj h)
        exact ⟨c, hc, by simp, rfl⟩
      · rename_i hc
        obtain ⟨⟨before', after'⟩, hsplit, heq⟩ := Option.map_eq_some_iff.1 h
        obtain ⟨rfl, rfl⟩ := Prod.mk.inj heq
        obtain ⟨d, hd, hbefore, rfl⟩ := ih hsplit
        exact ⟨d, hd, List.forall_mem_cons.2 ⟨eq_false_of_ne_true hc, hbefore⟩, rfl⟩
  · rintro ⟨c, hc, hbefore, rfl⟩
    rw [splitFirst?_append hbefore, splitFirst?, if_pos hc, Option.map_some, List.append_nil]

end Split

section Pieces

variable {α : Type} [DecidableEq α] {separator : α}

/-- A cut leaves at least one piece. -/
theorem splitOn_ne_nil (cs : List α) : splitOn separator cs ≠ [] := by
  cases cs with
  | nil => simp [splitOn]
  | cons c rest =>
    unfold splitOn
    split
    · simp
    · split <;> simp

/-- What has no separator in it lengthens the first piece of what comes after it. -/
theorem splitOn_append_of_notMem {before cs piece : List α} {pieces : List (List α)}
    (h : separator ∉ before) (hcs : splitOn separator cs = piece :: pieces) :
    splitOn separator (before ++ cs) = (before ++ piece) :: pieces := by
  induction before with
  | nil => exact hcs
  | cons c before ih =>
    rw [List.mem_cons, not_or] at h
    rw [List.cons_append, splitOn, if_neg (Ne.symm h.1), ih h.2]
    rfl

/-- A text without the separator is one piece. -/
theorem splitOn_of_notMem {cs : List α} (h : separator ∉ cs) : splitOn separator cs = [cs] := by
  have hnil : splitOn separator ([] : List α) = [[]] := rfl
  simpa using splitOn_append_of_notMem h hnil

/-- At a separator a text is cut, whatever stands on both sides. -/
theorem splitOn_append (cs ds : List α) :
    splitOn separator (cs ++ separator :: ds) = splitOn separator cs ++ splitOn separator ds := by
  induction cs with
  | nil => simp [splitOn]
  | cons c cs ih =>
    rw [List.cons_append, splitOn, splitOn, ih]
    split
    · rfl
    · cases hcs : splitOn separator cs with
      | nil => exact absurd hcs (splitOn_ne_nil cs)
      | cons piece pieces => rfl

/-- No piece has the separator in it. -/
theorem notMem_of_mem_splitOn {cs piece : List α} (h : piece ∈ splitOn separator cs) :
    separator ∉ piece := by
  induction cs generalizing piece with
  | nil => simp_all [splitOn]
  | cons c cs ih =>
    unfold splitOn at h
    split at h
    · rcases List.mem_cons.1 h with rfl | hpiece
      · exact List.not_mem_nil
      · exact ih hpiece
    · rename_i hc
      cases hcs : splitOn separator cs with
      | nil => exact absurd hcs (splitOn_ne_nil cs)
      | cons first pieces =>
        simp only [hcs, List.mem_cons, forall_eq_or_imp] at h ih
        rcases h with rfl | hpiece
        · rw [List.mem_cons, not_or]
          exact ⟨Ne.symm hc, ih.1⟩
        · exact ih.2 _ hpiece

end Pieces

/-- Whether a text is the given characters with white space around them. -/
def IsPadded (cs : List Char) (s : String) : Prop :=
  ∃ before after : List Char, (∀ c ∈ before ++ after, isSpace c = true) ∧
    s.toList = before ++ cs ++ after

/-- A text is itself without white space around it. -/
theorem isPadded_toList (s : String) : IsPadded s.toList s := by
  refine ⟨[], [], by simp, ?_⟩
  rw [List.nil_append, List.append_nil]

/-- Dropping takes off a first part that is all dropped, where the rest is not. -/
theorem dropWhile_append_of_head? {p : Char → Bool} {before cs : List Char}
    (hbefore : ∀ c ∈ before, p c = true) (hhead : ∀ c ∈ cs.head?, p c = false) :
    (before ++ cs).dropWhile p = cs := by
  rw [List.dropWhile_append_of_pos hbefore]
  cases cs with
  | nil => rfl
  | cons c rest => rw [List.dropWhile_cons_of_neg (by simp [hhead c rfl])]

/-- Taking stops after a first part that is all taken, where the rest is not. -/
theorem takeWhile_append_of_head? {p : Char → Bool} {before cs : List Char}
    (hbefore : ∀ c ∈ before, p c = true) (hhead : ∀ c ∈ cs.head?, p c = false) :
    (before ++ cs).takeWhile p = before := by
  rw [List.takeWhile_append_of_pos hbefore]
  cases cs with
  | nil => exact List.append_nil _
  | cons c rest => rw [List.takeWhile_cons_of_neg (by simp [hhead c rfl]), List.append_nil]

/-- Trimming leaves a part of the text. -/
theorem trimBy_sublist (p : Char → Bool) (cs : List Char) : (trimBy p cs).Sublist cs := by
  unfold trimBy dropEndWhile
  apply List.Sublist.trans _ (List.dropWhile_sublist p)
  rw [← List.reverse_sublist, List.reverse_reverse]
  exact List.dropWhile_sublist p

/-- Dropping keeps all occurrences of what is not dropped. -/
theorem count_dropWhile {p : Char → Bool} {c : Char} (hc : p c = false) (cs : List Char) :
    (cs.dropWhile p).count c = cs.count c := by
  have htaken : c ∉ cs.takeWhile p := by
    intro hmem
    rw [List.mem_takeWhile_imp hmem] at hc
    cases hc
  have hsplit := congrArg (List.count c) (List.takeWhile_append_dropWhile (p := p) (l := cs))
  rwa [List.count_append, List.count_eq_zero.2 htaken, Nat.zero_add] at hsplit

/-- A character that is not taken off stays as often as it is there. -/
theorem count_trimBy {p : Char → Bool} {c : Char} (hc : p c = false) (cs : List Char) :
    (trimBy p cs).count c = cs.count c := by
  rw [trimBy, dropEndWhile, List.count_reverse, count_dropWhile hc, List.count_reverse,
    count_dropWhile hc]

/-- What satisfies the test is taken off both ends, up to characters that do not. -/
theorem trimBy_padded {p : Char → Bool} {before cs after : List Char}
    (hbefore : ∀ c ∈ before, p c = true) (hafter : ∀ c ∈ after, p c = true)
    (hhead : ∀ c ∈ cs.head?, p c = false) (hlast : ∀ c ∈ cs.getLast?, p c = false) :
    trimBy p (before ++ cs ++ after) = cs := by
  unfold trimBy dropEndWhile
  rw [List.append_assoc, List.dropWhile_append_of_pos hbefore, List.reverse_eq_iff]
  cases cs with
  | nil =>
    -- what is taken off the front may be all there is
    rw [List.nil_append, List.dropWhile_eq_nil_iff.2 hafter]
    rfl
  | cons c rest =>
    have hc : p c = false := hhead c rfl
    rw [List.cons_append, List.dropWhile_cons_of_neg (by simp [hc]), ← List.cons_append,
      List.reverse_append]
    apply dropWhile_append_of_head?
    · exact fun d hd => hafter d (List.mem_reverse.1 hd)
    · rwa [List.head?_reverse]

/-- What is padded and has no white space of its own is all that trimming leaves. -/
theorem trim_padded {cs : List Char} {s : String} (hcs : ∀ c ∈ cs, isSpace c = false)
    (h : IsPadded cs s) : trim s.toList = cs := by
  obtain ⟨before, after, hspace, heq⟩ := h
  obtain ⟨hbefore, hafter⟩ := List.forall_mem_append.1 hspace
  rw [heq]
  apply trimBy_padded hbefore hafter
  · exact fun c hc => hcs c (List.mem_of_mem_head? hc)
  · exact fun c hc => hcs c (List.mem_of_mem_getLast? hc)

end FieldRules.Text
