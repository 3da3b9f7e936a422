import FieldRules.Proofs.Rules.CountBounds
import Mathlib.Algebra.BigOperators.Ring.List
import Mathlib.Algebra.Order.Group.Nat
import Mathlib.Algebra.Order.BigOperators.Group.List
import Mathlib.Algebra.Ring.Nat

/-!
# Lengths in several encodings

A text is no shorter in bytes than in UTF-16 code units, and no shorter in those than in scalar
values, since this holds of each of its characters.  So a text that keeps an upper bound keeps it
however more sparingly its characters are counted, and one that keeps a lower bound keeps it however
more lavishly (`Rules.text_pass_of_measure_le`, `Rules.text_pass_of_le_measure`).
-/

set_option autoImplicit false

namespace FieldRules

/-! ## Comparing lengths -/

namespace Encoding

/-- The length of a text is the sum of the widths of its characters. -/
theorem measure_eq_sum (e : Encoding) (s : String) : e.measure s = (s.toList.map e.width).sum :=
  List.sum_eq_foldr.symm

/-- The length of two texts after one another is the sum of their lengths. -/
theorem measure_append (e : Encoding) (s t : String) :
    e.measure (s ++ t) = e.measure s + e.measure t := by
  rw [measure_eq_sum, measure_eq_sum, measure_eq_sum, String.toList_append, List.map_append,
    List.sum_append]

/-- The length of a repeated character is a multiple of its width. -/
theorem measure_replicate (e : Encoding) (count : Nat) (c : Char) :
    e.measure (String.ofList (List.replicate count c)) = count * e.width c := by
  rw [measure_eq_sum, String.toList_ofList, List.map_replicate, List.sum_replicate_nat]

/-- Lengths compare as the widths of characters do. -/
theorem measure_le_mul {e e' : Encoding} {k : Nat} (h : ∀ c, e.width c ≤ k * e'.width c)
    (s : String) : e.measure s ≤ k * e'.measure s := by
  rw [measure_eq_sum, measure_eq_sum, ← List.sum_map_mul_left s.toList e'.width k]
  exact List.sum_le_sum fun c _ => h c

/-- Where each character is at most as wide, each text is at most as long. -/
theorem measure_le {e e' : Encoding} (h : ∀ c, e.width c ≤ e'.width c) (s : String) :
    e.measure s ≤ e'.measure s := by
  have hmul (c : Char) : e.width c ≤ 1 * e'.width c := by
    rw [Nat.one_mul]
    exact h c
  have hle := measure_le_mul hmul s
  rwa [Nat.one_mul] at hle

/-- A character that takes two code units takes four bytes, and any other at most three. -/
theorem width_cases (c : Char) :
    (utf16.width c = 1 ∧ 1 ≤ singleByte.width c ∧ singleByte.width c ≤ 3) ∨
      (utf16.width c = 2 ∧ singleByte.width c = 4) := by
  have hunits : utf16.width c = if c.toNat < 0x10000 then 1 else 2 := rfl
  have hbytes : singleByte.width c = c.utf8Size := rfl
  have hfour : c.utf8Size = 4 ↔ 0x10000 ≤ c.toNat :=
    Char.utf8Size_eq_four_iff.trans UInt32.lt_iff_toNat_lt
  have hpos := c.utf8Size_pos
  have hle := c.utf8Size_le_four
  rw [hunits, hbytes]
  split <;> omega

/-- How the lengths of a text in three encodings bound one another. -/
theorem measure_bounds (s : String) :
    (scalar.measure s ≤ utf16.measure s ∧ utf16.measure s ≤ 2 * scalar.measure s) ∧
      utf16.measure s ≤ singleByte.measure s ∧ singleByte.measure s ≤ 3 * utf16.measure s := by
  have hscalar (c : Char) : scalar.width c = 1 := rfl
  refine ⟨⟨measure_le ?_ s, measure_le_mul ?_ s⟩, measure_le ?_ s, measure_le_mul ?_ s⟩ <;>
  · intro c
    have hone := hscalar c
    have hcases := width_cases c
    omega

end Encoding

/-! ## Bounds in several encodings -/

namespace Rules

/-- A greatest count that is kept is kept by all smaller counts. -/
theorem atMost_of_le {count count' : Nat} (h : count ≤ count') {n : Int}
    (hmost : atMost count' n = true) : atMost count n = true := by
  rw [atMost_iff] at hmost ⊢
  omega

/-- A least count that is kept is kept by all greater counts. -/
theorem atLeast_of_le {count count' : Nat} (h : count' ≤ count) {n : Int}
    (hleast : atLeast count' n = true) : atLeast count n = true := by
  rw [atLeast_iff] at hleast ⊢
  omega

/-- Whether arguments ask of a text nothing but one bound on its length in one encoding. -/
structure AsksLength (e : Encoding) (key : String) (bound : Json) (args : Args) : Prop where
  encodingOf?_eq : encodingOf? args = some e
  setsOnly : args.SetsOnly textOptions key bound

section AsksLength

variable {e e' : Encoding} {key : String} {bound : Json} {a b : Args} {s : String}

/-- A text passes a bound on its length exactly if the bound is read and holds. -/
theorem AsksLength.text_eq_pass_iff (h : AsksLength e key bound a) {demand : Nat → Int → Bool}
    (hdemand : (key, demand) ∈ lengthBounds.demands) :
    text (some (.string s)) a = .pass ↔
      ∃ n, bound.integer? = some n ∧ demand (e.measure s) n = true := by
  rw [text_eq_of_setsOnly h.encodingOf?_eq hdemand h.setsOnly, ofVerdicts_ofRead_eq_pass_iff]

/-- A text that is not too long in one encoding is not so in one where it is no longer. -/
theorem text_pass_of_measure_le (hle : e'.measure s ≤ e.measure s)
    (ha : AsksLength e "max_length" bound a) (hb : AsksLength e' "max_length" bound b)
    (hpass : text (some (.string s)) a = .pass) : text (some (.string s)) b = .pass := by
  have hdemand : ("max_length", atMost) ∈ lengthBounds.demands := List.mem_cons_self
  obtain ⟨n, hn, hmost⟩ := (ha.text_eq_pass_iff hdemand).1 hpass
  exact (hb.text_eq_pass_iff hdemand).2 ⟨n, hn, atMost_of_le hle hmost⟩

/-- A text that is not too short in one encoding is not so in one where it is no shorter. -/
theorem text_pass_of_le_measure (hle : e.measure s ≤ e'.measure s)
    (ha : AsksLength e "min_length" bound a) (hb : AsksLength e' "min_length" bound b)
    (hpass : text (some (.string s)) a = .pass) : text (some (.string s)) b = .pass := by
  have hdemand : ("min_length", atLeast) ∈ lengthBounds.demands :=
    List.mem_cons_of_mem _ List.mem_cons_self
  obtain ⟨n, hn, hleast⟩ := (ha.text_eq_pass_iff hdemand).1 hpass
  exact (hb.text_eq_pass_iff hdemand).2 ⟨n, hn, atLeast_of_le hle hleast⟩

/-- A bound beside the label of an encoding. -/
theorem AsksLength.of_label {label : String} (hlabel : Encoding.ofLabel? label = some e)
    (hkey : key ∈ textOptions) (hbound : bound.isNull = false) :
    AsksLength e key bound (.options [("encoding", .string label), (key, bound)]) := by
  have hget (name : String) :
      (Args.options [("encoding", .string label), (key, bound)]).getSet? name =
        if name = "encoding" then some (.string label)
        else if name = key then some bound else none := by
    have hstring : (Json.string label).isNull = false := rfl
    simp only [Args.getSet?, Args.get?, Entries.get?, eq_comm (a := name)]
    split_ifs <;> simp [hbound, hstring]
  have hne {name : String} (hname : name ∈ textOptions) : name ≠ "encoding" := by
    rintro rfl
    revert hname
    decide
  refine ⟨?_, ⟨?_, ?_⟩⟩
  · -- An empty label would ask for the default.
    have hunknown : Encoding.ofLabel? "" = none := by decide
    have hnonempty : label.isEmpty = false := by
      rw [← Bool.not_eq_true, String.isEmpty_iff]
      rintro rfl
      cases hunknown.symm.trans hlabel
    simp only [encodingOf?, hget, if_true, hnonempty, Bool.false_eq_true, if_false, hlabel]
  · rw [hget, if_neg (hne hkey), if_pos rfl]
  · intro name hname hother
    rw [hget, if_neg (hne hname), if_neg hother]

/-- **Lengths in several encodings.**  Lengths add up, and a text has at least as many UTF-16 code
units as scalar values, at most twice as many, and at least as many bytes as code units, at most
three times as many.  So an upper bound that is kept in bytes is kept in code units and then in
scalar values, and a lower bound the other way. -/
theorem measure_and_text_mono :
    (∀ (e : Encoding) (s t : String), e.measure (s ++ t) = e.measure s + e.measure t) ∧
      (∀ s : String,
        (Encoding.scalar.measure s ≤ Encoding.utf16.measure s ∧
            Encoding.utf16.measure s ≤ 2 * Encoding.scalar.measure s) ∧
          Encoding.utf16.measure s ≤ Encoding.singleByte.measure s ∧
            Encoding.singleByte.measure s ≤ 3 * Encoding.utf16.measure s) ∧
      ∀ (s : String) (bound : Json) (bytes units scalars : Args),
        (AsksLength .singleByte "max_length" bound bytes →
            AsksLength .utf16 "max_length" bound units →
            AsksLength .scalar "max_length" bound scalars →
          (text (some (.string s)) bytes = .pass → text (some (.string s)) units = .pass) ∧
            (text (some (.string s)) units = .pass → text (some (.string s)) scalars = .pass)) ∧
        (AsksLength .singleByte "min_length" bound bytes →
            AsksLength .utf16 "min_length" bound units →
            AsksLength .scalar "min_length" bound scalars →
          (text (some (.string s)) scalars = .pass → text (some (.string s)) units = .pass) ∧
            (text (some (.string s)) units = .pass → text (some (.string s)) bytes = .pass)) := by
  refine ⟨Encoding.measure_append, Encoding.measure_bounds, ?_⟩
  intro s bound bytes units scalars
  obtain ⟨⟨hscalars, -⟩, hunits, -⟩ := Encoding.measure_bounds s
  constructor
  · intro hbytes hutf16 hscalar
    exact ⟨text_pass_of_measure_le hunits hbytes hutf16,
      text_pass_of_measure_le hscalars hutf16 hscalar⟩
  · intro hbytes hutf16 hscalar
    exact ⟨text_pass_of_le_measure hscalars hscalar hutf16,
      text_pass_of_le_measure hunits hutf16 hbytes⟩

/-- A text of two characters, three code units and six bytes, at least three of which are asked
for. -/
theorem measure_and_text_mono_clef :
    let bound : Json := .number (.int { val := 3 })
    let args (label : String) : Args :=
      .options [("encoding", .string label), ("min_length", bound)]
    AsksLength .singleByte "min_length" bound (args "latin1") ∧
      AsksLength .utf16 "min_length" bound (args "UTF-16") ∧
      AsksLength .scalar "min_length" bound (args "utf8") ∧
      text (some (.string "é𝄞")) (args "utf8") = .fail ∧
      text (some (.string "é𝄞")) (args "UTF-16") = .pass ∧
      text (some (.string "é𝄞")) (args "latin1") = .pass := by
  intro bound args
  have hasks {e : Encoding} {label : String} (hlabel : Encoding.ofLabel? label = some e) :
      AsksLength e "min_length" bound (args label) :=
    .of_label hlabel (by decide) rfl
  have hbytes : AsksLength .singleByte "min_length" bound (args "latin1") := hasks (by decide)
  have hunits : AsksLength .utf16 "min_length" bound (args "UTF-16") := hasks (by decide)
  have hscalars : AsksLength .scalar "min_length" bound (args "utf8") := hasks (by decide)
  have hfail : text (some (.string "é𝄞")) (args "utf8") = .fail := by decide +kernel
  have hpass : text (some (.string "é𝄞")) (args "UTF-16") = .pass := by decide +kernel
  obtain ⟨-, -, hmono⟩ := measure_and_text_mono
  obtain ⟨-, hleast⟩ := hmono "é𝄞" bound (args "latin1") (args "UTF-16") (args "utf8")
  exact ⟨hbytes, hunits, hscalars, hfail, hpass, (hleast hbytes hunits hscalars).2 hpass⟩

end AsksLength

end Rules

end FieldRules
