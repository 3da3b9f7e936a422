import FieldRules.Proofs.Rules.Options
import FieldRules.Proofs.Rules.Precedence

/-!
# A single bound

A length and a number of elements are bounded by three options, each of which says something of a
count (`Rules.BoundNames.demands`).  An option that is the only one set decides alone
(`Rules.text_eq_of_setsOnly`, `Rules.array_eq_of_setsOnly`, `Rules.numeric_eq_of_setsOnly`).
-/

set_option autoImplicit false

namespace FieldRules

/-- Whether arguments set one of some options only, to the given value. -/
structure Args.SetsOnly (options : List String) (key : String) (raw : Json) (args : Args) :
    Prop where
  getSet?_eq : args.getSet? key = some raw
  getSet?_eq_none {name : String} (hname : name ∈ options) (hne : name ≠ key) :
    args.getSet? name = none

namespace Args.SetsOnly

variable {options : List String} {key : String} {raw : Json} {args : Args}

/-- Of the options listed, only the one that is set is checked. -/
theorem verdict_eq (h : SetsOnly options key raw args) (name : String) (hname : name ∈ options)
    {α : Type} (read : Json → Option α) (holds : α → Bool) :
    args.verdict name read holds =
      if name = key then .ofRead (read raw) holds else .satisfied := by
  split
  · rename_i heq
    subst heq
    exact verdict_eq_ofRead h.getSet?_eq read holds
  · rename_i hne
    exact verdict_of_getSet?_eq_none (h.getSet?_eq_none hname hne) read holds

/-- Setting an option where there is none. -/
theorem set_empty (hkey : Text.IsName key) (hoptions : ∀ name ∈ options, Text.IsName name)
    (hraw : raw.isNull = false) : SetsOnly options key raw (empty.set key raw) where
  getSet?_eq := getSet?_set_self hkey empty hraw
  getSet?_eq_none {name} hname hne := by
    rw [getSet?_set_of_ne (hoptions name hname) hne]
    rfl

end Args.SetsOnly

namespace Rules

/-! ## What bounds demand -/

/-- Whether a count keeps the greatest one that is allowed; one that is not positive is none. -/
def atMost (count : Nat) (n : Int) : Bool :=
  decide (n ≤ 0) || decide ((count : Int) ≤ n)

/-- Whether a count keeps the least one that is allowed. -/
def atLeast (count : Nat) (n : Int) : Bool :=
  decide (n ≤ 0) || decide (n ≤ (count : Int))

/-- Whether a count is the only one that is allowed. -/
def exactly (count : Nat) (n : Int) : Bool :=
  decide (n ≤ 0) || decide ((count : Int) = n)

/-- A greatest count that is not positive allows every count. -/
theorem atMost_iff {count : Nat} {n : Int} :
    atMost count n = true ↔ n ≤ 0 ∨ (count : Int) ≤ n := by
  rw [atMost, Bool.or_eq_true, decide_eq_true_iff, decide_eq_true_iff]

/-- Every count keeps a least one that is not positive. -/
theorem atLeast_iff {count : Nat} {n : Int} : atLeast count n = true ↔ n ≤ (count : Int) := by
  rw [atLeast, Bool.or_eq_true, decide_eq_true_iff, decide_eq_true_iff]
  omega

/-- An exact count that is not positive allows every count. -/
theorem exactly_iff {count : Nat} {n : Int} :
    exactly count n = true ↔ n ≤ 0 ∨ (count : Int) = n := by
  rw [exactly, Bool.or_eq_true, decide_eq_true_iff, decide_eq_true_iff]

/-- The bounds by name, with what they demand of a count. -/
def BoundNames.demands (names : BoundNames) : List (String × (Nat → Int → Bool)) :=
  [(names.most, atMost), (names.least, atLeast), (names.exact, exactly)]

/-- A bound is a greatest count, a least one or the only one. -/
theorem BoundNames.demand_cases {names : BoundNames} {bound : String × (Nat → Int → Bool)}
    (h : bound ∈ names.demands) :
    bound.2 = atMost ∨ bound.2 = atLeast ∨ bound.2 = exactly := by
  simp only [demands, List.mem_cons, List.not_mem_nil, or_false] at h
  rcases h with rfl | rfl | rfl <;> simp

/-- The bounds are checked as they demand, one after the other. -/
theorem BoundNames.group_eq (names : BoundNames) (args : Args) (count : Nat) :
    names.group args count =
      names.demands.map fun bound => args.verdict bound.1 Json.integer? (bound.2 count) :=
  rfl

/-! ## One bound alone -/

section OfRead

variable {α : Type}

/-- A bound that cannot be read leaves the rule undecided. -/
theorem ofVerdicts_ofRead_none (holds : α → Bool) :
    Outcome.ofVerdicts [.ofRead none holds] = .indeterminate :=
  rfl

/-- A bound that is read decides by what it demands. -/
theorem ofVerdicts_ofRead_some (x : α) (holds : α → Bool) :
    Outcome.ofVerdicts [.ofRead (some x) holds] = .ofBool (holds x) := by
  rw [Verdict.ofRead_some]
  cases holds x <;> rfl

/-- One bound is passed exactly if it is read and holds. -/
theorem ofVerdicts_ofRead_eq_pass_iff {read : Option α} {holds : α → Bool} :
    Outcome.ofVerdicts [.ofRead read holds] = .pass ↔ ∃ x, read = some x ∧ holds x = true := by
  cases read with
  | none => simp [ofVerdicts_ofRead_none]
  | some x => simp [ofVerdicts_ofRead_some]

end OfRead

/-- The options of the rule `string`, but for the encoding. -/
def textOptions : List String :=
  ["max_length", "min_length", "length", "matches"]

def arrayOptions : List String :=
  ["has", "empty", "max_count", "min_count", "count"]

def numericOptions : List String :=
  ["max", "min", "decimals"]

variable {args : Args} {key : String} {raw : Json} {demand : Nat → Int → Bool}

/-- A bound that is the only thing asked of a text decides. -/
theorem text_eq_of_setsOnly {encoding : Encoding} (hencoding : encodingOf? args = some encoding)
    (hdemand : (key, demand) ∈ lengthBounds.demands) (h : args.SetsOnly textOptions key raw)
    (s : String) :
    text (some (.string s)) args =
      .ofVerdicts [.ofRead raw.integer? (demand (encoding.measure s))] := by
  have hmost := h.verdict_eq "max_length" (by decide) Json.integer?
  have hleast := h.verdict_eq "min_length" (by decide) Json.integer?
  have hexact := h.verdict_eq "length" (by decide) Json.integer?
  have hmatches := h.verdict_eq "matches" (by decide) pattern?
  rw [(OptionCall.text hencoding).outcome_eq]
  simp only [BoundNames.group_eq, BoundNames.demands, lengthBounds, List.map_cons, List.map_nil,
    List.mem_cons, Prod.mk.injEq, List.not_mem_nil, or_false, hmost, hleast, hexact, hmatches]
    at hdemand ⊢
  rcases hdemand with ⟨rfl, rfl⟩ | ⟨rfl, rfl⟩ | ⟨rfl, rfl⟩ <;>
    simp only [String.reduceEq, if_true, if_false] <;>
    cases Verdict.ofRead _ _ <;> rfl

/-- A bound that is the only thing asked of a list or an object decides. -/
theorem array_eq_of_setsOnly {v : Json} {count : Nat} (hcount : elementCount? v = some count)
    (hdemand : (key, demand) ∈ countBounds.demands) (h : args.SetsOnly arrayOptions key raw) :
    array (some v) args = .ofVerdicts [.ofRead raw.integer? (demand count)] := by
  have hhas := h.verdict_eq "has" (by decide) listItems?
  have hempty := h.verdict_eq "empty" (by decide) some
  have hmost := h.verdict_eq "max_count" (by decide) Json.integer?
  have hleast := h.verdict_eq "min_count" (by decide) Json.integer?
  have hexact := h.verdict_eq "count" (by decide) Json.integer?
  rw [(OptionCall.array hcount).outcome_eq]
  simp only [BoundNames.group_eq, BoundNames.demands, countBounds, List.map_cons, List.map_nil,
    List.mem_cons, Prod.mk.injEq, List.not_mem_nil, or_false, hhas, hempty, hmost, hleast, hexact]
    at hdemand ⊢
  rcases hdemand with ⟨rfl, rfl⟩ | ⟨rfl, rfl⟩ | ⟨rfl, rfl⟩ <;>
    simp only [String.reduceEq, if_true, if_false] <;>
    cases Verdict.ofRead _ _ <;> rfl

/-- The digits that are asked for decide if nothing else is asked of a number. -/
theorem numeric_eq_of_setsOnly {v : Json} {x : Binary64} (hx : v.number? = some x)
    (h : args.SetsOnly numericOptions "decimals" raw) :
    numeric (some v) args =
      .ofVerdicts [.ofRead raw.integer? fun d => decide (d ≤ (fractionDigits v : Int))] := by
  have hmax := h.verdict_eq "max" (by decide) Json.number?
  have hmin := h.verdict_eq "min" (by decide) Json.number?
  have hdecimals := h.verdict_eq "decimals" (by decide) Json.integer?
  rw [(OptionCall.numeric hx).outcome_eq]
  simp only [hmax, hmin, hdecimals, String.reduceEq, if_true, if_false]
  cases Verdict.ofRead _ _ <;> rfl

end Rules

end FieldRules
