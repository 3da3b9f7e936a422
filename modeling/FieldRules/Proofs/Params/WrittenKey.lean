import FieldRules.Request.BracketKey
import Mathlib.Data.List.TakeDrop
import Mathlib.Data.List.TakeWhile

/-!
# Keys as they are written

`BracketKey.written` puts a head and names in brackets, and `BracketKey.segments?_written` reads
them back: an empty name appends, and any other name is itself.  A `WrittenKey` may have a tail
without brackets too, which is not read.  All keys are such a written key or have no pair of
brackets after a head, and are read accordingly (`WrittenKey.segments?_text_and_literal`).
-/

set_option autoImplicit false

namespace FieldRules

namespace BracketKey

/-- A name in brackets. -/
def bracketed (name : List Char) : List Char :=
  '[' :: name ++ [']']

/-- The key with the given head and then the names in brackets. -/
def written (head : String) (names : List String) : String :=
  String.ofList (head.toList ++ (names.map String.toList).flatMap bracketed)

/-! ## Names in brackets -/

/-- A name without a closing bracket ends at the closing bracket after it. -/
theorem closing?_append {name : List Char} (h : ']' ∉ name) (rest : List Char) :
    closing? (name ++ ']' :: rest) = some (name, groups rest) := by
  induction name with
  | nil => simp [closing?]
  | cons c name ih =>
    simp only [List.mem_cons, not_or] at h
    rw [List.cons_append, closing?, ih h.2]
    · rfl
    · exact fun e => h.1 e.symm

/-- Without a closing bracket nothing is closed. -/
theorem closing?_eq_none {cs : List Char} (h : ']' ∉ cs) : closing? cs = none := by
  induction cs with
  | nil => rw [closing?]
  | cons c cs ih =>
    rw [List.mem_cons, not_or] at h
    rw [closing?, ih h.2]
    · rfl
    · exact fun e => h.1 e.symm

/-- Names in brackets are read one after the other. -/
theorem groups_flatMap_bracketed {names : List (List Char)} (h : ∀ name ∈ names, ']' ∉ name)
    (rest : List Char) : groups (names.flatMap bracketed ++ rest) = names ++ groups rest := by
  induction names with
  | nil => rfl
  | cons name names ih =>
    have hname := closing?_append (h name (by simp)) (names.flatMap bracketed ++ rest)
    have hnames := ih fun other hother => h other (by simp [hother])
    simp [bracketed, groups, hname, hnames]

/-- Whether a text does not begin with a pair of brackets. -/
def IsTail (cs : List Char) : Prop :=
  cs.head? = some '[' → ']' ∉ cs

instance (cs : List Char) : Decidable (IsTail cs) :=
  inferInstanceAs (Decidable (_ → _))

/-- In a tail there are no pairs of brackets. -/
theorem groups_eq_nil {cs : List Char} (h : IsTail cs) : groups cs = [] := by
  cases cs with
  | nil => rw [groups]; simp
  | cons c rest =>
    by_cases hc : c = '['
    · subst hc
      have hrest : ']' ∉ rest := fun hmem => h rfl (List.mem_cons_of_mem _ hmem)
      rw [groups, closing?_eq_none hrest]
    · rw [groups]
      rintro rest' heq
      exact hc (List.cons.inj heq).1

/-- What is read of a text are the names in brackets that it begins with. -/
theorem exists_eq_flatMap_bracketed (cs : List Char) :
    ∃ (names : List (List Char)) (tail : List Char), cs = names.flatMap bracketed ++ tail ∧
      (∀ name ∈ names, ']' ∉ name) ∧ IsTail tail := by
  induction hlength : cs.length using Nat.strongRecOn generalizing cs with
  | _ n ih =>
    by_cases htail : IsTail cs
    · exact ⟨[], cs, rfl, by simp, htail⟩
    -- the first name ends at the first closing bracket
    obtain ⟨hhead, hclosing⟩ := Classical.not_imp.1 htail
    obtain ⟨rest, rfl⟩ : ∃ rest, cs = '[' :: rest := by
      cases cs with
      | nil => cases hhead
      | cons c rest => exact ⟨rest, by rw [Option.some.inj hhead]⟩
    rw [not_not, List.mem_cons] at hclosing
    obtain ⟨name, after, rfl, hname⟩ :=
      List.eq_append_cons_of_mem (hclosing.resolve_left (by decide))
    obtain ⟨names, tail, rfl, hnames, htail⟩ := ih after.length
      (by simp only [← hlength, List.length_cons, List.length_append]; omega) after rfl
    refine ⟨name :: names, tail, ?_, ?_, htail⟩
    · simp [bracketed]
    · exact List.forall_mem_cons.2 ⟨hname, hnames⟩

/-! ## Whole keys -/

/-- The head of a key ends before the first bracket. -/
theorem span_head {head : List Char} (h : '[' ∉ head) {rest : List Char}
    (hrest : ∀ c ∈ rest.head?, c = '[') : (head ++ rest).span (· != '[') = (head, rest) := by
  rw [List.span_eq_takeWhile_dropWhile]
  have hall : ∀ c ∈ head, (c != '[') = true := by
    intro c hc
    simp only [bne_iff_ne, ne_eq]
    rintro rfl
    exact h hc
  rw [List.takeWhile_append_of_pos hall, List.dropWhile_append_of_pos hall]
  cases rest with
  | nil => simp
  | cons c rest =>
    have hc : c = '[' := hrest c (by simp)
    simp [hc]

/-- A key that has names in brackets after its head is read as the head and the names, unless there
are too many. -/
theorem segments?_ofList {head tail : List Char} {names : List (List Char)} (hne : head ≠ [])
    (hhead : '[' ∉ head) (hnames : ∀ name ∈ names, ']' ∉ name) (hsome : names ≠ [])
    (htail : IsTail tail) :
    segments? (String.ofList (head ++ (names.flatMap bracketed ++ tail))) =
      if maxNesting < names.length then none
      else some (.named (String.ofList head) :: names.map segment) := by
  have hfirst : ∀ c ∈ (names.flatMap bracketed ++ tail).head?, c = '[' := by
    intro c hc
    cases names with
    | nil => exact absurd rfl hsome
    | cons name names => simpa [bracketed, eq_comm] using hc
  have hgroups : groups (names.flatMap bracketed ++ tail) = names := by
    rw [groups_flatMap_bracketed hnames, groups_eq_nil htail, List.append_nil]
  unfold segments?
  simp only [String.toList_ofList, span_head hhead hfirst, hgroups]
  simp [hne, hsome]

/-- A key that has names in brackets after its head is read as the head and the names. -/
theorem segments?_written {head : String} {names : List String} (hne : head ≠ "")
    (hhead : '[' ∉ head.toList) (hnames : ∀ name ∈ names, ']' ∉ name.toList) (hsome : names ≠ [])
    (hdepth : names.length ≤ maxNesting) :
    segments? (written head names) =
      some (.named head :: names.map fun name => segment name.toList) := by
  have hne' : head.toList ≠ [] := by simpa using hne
  have hsome' : names.map String.toList ≠ [] := by simpa using hsome
  have hclosing : ∀ name ∈ names.map String.toList, ']' ∉ name := by simpa using hnames
  have htail : IsTail [] := by simp [IsTail]
  have hread := segments?_ofList hne' hhead hclosing hsome' htail
  rw [List.append_nil, List.length_map, if_neg (by omega)] at hread
  rw [written, hread]
  simp [Function.comp_def]

/-- Whether a key has no pair of brackets after a head: there is no opening bracket, or it begins
with one, or there is no closing bracket after the first one. -/
def IsLiteral (key : String) : Prop :=
  '[' ∉ key.toList ∨ key.toList.head? = some '[' ∨ ']' ∉ key.toList.dropWhile (· != '[')

instance (key : String) : Decidable (IsLiteral key) :=
  inferInstanceAs (Decidable (_ ∨ _))

/-- A literal key is read as one name. -/
theorem segments?_of_isLiteral {key : String} (h : IsLiteral key) :
    segments? key = some [.named key] := by
  have hnone : (key.toList.takeWhile (· != '[')).isEmpty = true ∨
      (groups (key.toList.dropWhile (· != '['))).isEmpty = true := by
    rcases h with hnone | hfirst | hopen
    · right
      have hdrop : key.toList.dropWhile (· != '[') = [] := by
        rw [List.dropWhile_eq_nil_iff]
        rintro c hc
        exact bne_iff_ne.2 fun heq => hnone (heq ▸ hc)
      rw [hdrop, groups_eq_nil (by simp [IsTail]), List.isEmpty_nil]
    · left
      cases hkey : key.toList with
      | nil => rfl
      | cons c rest =>
        rw [hkey] at hfirst
        simp [Option.some.inj hfirst]
    · right
      rw [groups_eq_nil fun _ => hopen, List.isEmpty_nil]
  unfold segments?
  simp only [List.span_eq_takeWhile_dropWhile]
  exact if_pos hnone

end BracketKey

/-! ## Written keys -/

/-- What stands between the brackets of a segment. -/
def Segment.chars : Segment → List Char
  | .named name => name.toList
  | .append => []

/-- Whether a segment can be written in brackets: a name is not empty, and has no closing bracket,
at which it would end. -/
def Segment.IsBracketable : Segment → Prop
  | .named name => name ≠ "" ∧ ']' ∉ name.toList
  | .append => True

/-- A segment that may stand in brackets has no closing bracket in it. -/
theorem Segment.closing_notMem_chars {s : Segment} (h : s.IsBracketable) : ']' ∉ s.chars := by
  cases s with
  | named name => exact h.2
  | append => exact List.not_mem_nil

/-- A segment that may stand in brackets is read back from its characters. -/
theorem Segment.segment_chars {s : Segment} (h : s.IsBracketable) :
    BracketKey.segment s.chars = s := by
  cases s with
  | named name =>
    have hne : name.toList.isEmpty = false := by simpa using h.1
    simp [BracketKey.segment, chars, hne]
  | append => rfl

/-- What is read between brackets has the characters that stand there. -/
theorem Segment.chars_segment (name : List Char) : (BracketKey.segment name).chars = name := by
  unfold BracketKey.segment
  split
  · rename_i hempty
    exact (List.isEmpty_iff.1 hempty).symm
  · exact String.toList_ofList

/-- What is read between brackets may stand in them. -/
theorem Segment.isBracketable_segment {name : List Char} (h : ']' ∉ name) :
    (BracketKey.segment name).IsBracketable := by
  unfold BracketKey.segment
  split
  · trivial
  · rename_i hname
    exact ⟨by simpa using hname, by rwa [String.toList_ofList]⟩

/-- A key with segments in brackets after its head, and anything but a pair of brackets at the
end. -/
structure WrittenKey where
  head : String
  segments : List Segment
  tail : List Char
  head_ne_empty : head ≠ ""
  opening_notMem_head : '[' ∉ head.toList
  segments_ne_nil : segments ≠ []
  isBracketable : ∀ s ∈ segments, s.IsBracketable
  isTail : BracketKey.IsTail tail

namespace WrittenKey

open BracketKey (segments? bracketed IsLiteral)

def text (k : WrittenKey) : String :=
  String.ofList
    (k.head.toList ++ ((k.segments.map Segment.chars).flatMap bracketed ++ k.tail))

/-- A written key is read as its head and its segments, unless there are too many. -/
theorem segments?_text (k : WrittenKey) :
    segments? k.text =
      if BracketKey.maxNesting < k.segments.length then none
      else some (.named k.head :: k.segments) := by
  have hclosing : ∀ name ∈ k.segments.map Segment.chars, ']' ∉ name := by
    intro name hname
    obtain ⟨s, hs, rfl⟩ := List.mem_map.1 hname
    exact Segment.closing_notMem_chars (k.isBracketable s hs)
  have hback : (k.segments.map Segment.chars).map BracketKey.segment = k.segments := by
    rw [List.map_map]
    refine (List.map_congr_left fun s hs => ?_).trans (List.map_id _)
    exact Segment.segment_chars (k.isBracketable s hs)
  rw [text, BracketKey.segments?_ofList (by simpa using k.head_ne_empty) k.opening_notMem_head
    hclosing (by simpa using k.segments_ne_nil) k.isTail, hback, List.length_map,
    String.ofList_toList]

/-- A key with a pair of brackets after a head is a written one. -/
theorem exists_text_eq {key : String} (h : ¬IsLiteral key) : ∃ k : WrittenKey, k.text = key := by
  obtain ⟨hopening, hfirst, hclosing⟩ : '[' ∈ key.toList ∧ key.toList.head? ≠ some '[' ∧
      ']' ∈ key.toList.dropWhile (· != '[') := by simpa [IsLiteral] using h
  -- The head ends at the first opening bracket, the tail begins where no name in brackets does.
  obtain ⟨head, rest, hkey, hnotMem⟩ := List.eq_append_cons_of_mem hopening
  have hne : head ≠ [] := by
    rintro rfl
    exact hfirst (by rw [hkey]; rfl)
  have hdrop : (head ++ '[' :: rest).dropWhile (· != '[') = '[' :: rest := by
    have hfirst : ∀ c ∈ ('[' :: rest).head?, c = '[' := by simp
    have hspan := BracketKey.span_head hnotMem hfirst
    rw [List.span_eq_takeWhile_dropWhile] at hspan
    exact (Prod.mk.inj hspan).2
  rw [hkey, hdrop] at hclosing
  obtain ⟨names, tail, hnames, hnoClosing, htail⟩ :=
    BracketKey.exists_eq_flatMap_bracketed ('[' :: rest)
  have hsome : names ≠ [] := by
    rintro rfl
    rw [List.flatMap_nil, List.nil_append] at hnames
    rw [hnames] at hclosing
    exact htail (hnames ▸ rfl) hclosing
  have hchars : (names.map BracketKey.segment).map Segment.chars = names := by
    rw [List.map_map]
    exact (List.map_congr_left fun name _ => Segment.chars_segment name).trans (List.map_id _)
  refine ⟨⟨String.ofList head, names.map BracketKey.segment, tail, ?_, ?_, ?_, ?_, htail⟩, ?_⟩
  · simpa using hne
  · rwa [String.toList_ofList]
  · simpa using hsome
  · intro s hs
    obtain ⟨name, hname, rfl⟩ := List.mem_map.1 hs
    exact Segment.isBracketable_segment (hnoClosing name hname)
  · simp only [text, hchars, String.toList_ofList, ← hnames, ← hkey, String.ofList_toList]

/-- A written key is not read as one name. -/
theorem segments?_text_ne (k : WrittenKey) : segments? k.text ≠ some [.named k.text] := by
  rw [segments?_text]
  split
  · exact Option.some_ne_none _ ∘ Eq.symm
  · intro h
    exact k.segments_ne_nil (List.cons.inj (Option.some.inj h)).2

/-- The keys that are read as one name are those without a pair of brackets after a head. -/
theorem segments?_eq_singleton_iff (key : String) :
    segments? key = some [.named key] ↔ IsLiteral key := by
  refine ⟨?_, BracketKey.segments?_of_isLiteral⟩
  intro hread
  by_contra hliteral
  obtain ⟨k, rfl⟩ := exists_text_eq hliteral
  exact k.segments?_text_ne hread

/-- All other keys are written ones. -/
theorem not_isLiteral_iff (key : String) : ¬IsLiteral key ↔ ∃ k : WrittenKey, k.text = key := by
  refine ⟨exists_text_eq, ?_⟩
  rintro ⟨k, rfl⟩ hliteral
  exact k.segments?_text_ne (BracketKey.segments?_of_isLiteral hliteral)

/-- **Keys with brackets.**  A key of a head and segments in brackets is read as they are, whatever
the names of the segments and the tail after them, and not at all if there are more than 64
segments.  Any key that has no pair of brackets after a head is read as one name, the whole key.
All keys are one or the other, and none is both. -/
theorem segments?_text_and_literal :
    (∀ k : WrittenKey, segments? k.text =
      if 64 < k.segments.length then none else some (.named k.head :: k.segments)) ∧
      (∀ key : String, segments? key = some [.named key] ↔ IsLiteral key) ∧
      ∀ key : String, ¬IsLiteral key ↔ ∃ k : WrittenKey, k.text = key :=
  ⟨segments?_text, segments?_eq_singleton_iff, not_isLiteral_iff⟩

end WrittenKey

/-- A name may have an opening bracket in it, and what follows the last pair is not read. -/
example : BracketKey.segments? "a[b[c][]d[e]" = some [.named "a", .named "b[c", .append] := by
  cbv

end FieldRules
