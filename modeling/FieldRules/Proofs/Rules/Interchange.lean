import FieldRules.Proofs.Number.Written
import FieldRules.Proofs.Rules.Choice
import FieldRules.Proofs.Rules.Options

/-!
# Integers as numbers and as texts

To the rules `numeric` and `in` an integer and its text are the same, as a value and as a bound:
both are rounded to the same number (`WordInt.textNumber?_eq`), and neither has digits after a point
(`Rules.numeric_eq_of_isPadded`).
-/

set_option autoImplicit false

namespace FieldRules

/-- Numbers are never too large to be compared. -/
theorem Number.exists_toBinary64?_eq (n : Number) : ∃ x : Binary64, n.toBinary64? = some x := by
  cases n with
  | int n =>
    obtain ⟨x, hx, -⟩ := Binary64.exists_ofInt?_eq n.natAbs_lt
    exact ⟨x, hx⟩
  | float x => exact ⟨x, rfl⟩

/-- What is read alike is compared alike with numbers. -/
theorem Json.looseSame_number_congr {n : Number} {s : String}
    (h : (string s).number? = (number n).number?) (choice : Number) :
    (string s).looseSame (.number choice) = (number n).looseSame (.number choice) := by
  obtain ⟨x, hx⟩ := n.exists_toBinary64?_eq
  obtain ⟨y, hy⟩ := choice.exists_toBinary64?_eq
  have hnumber : (number n).number? = some x := hx
  have hchoice : (number choice).number? = some y := hy
  rw [looseSame_of_number?_eq rfl (h.trans hnumber) hchoice,
    looseSame_of_number?_eq rfl hnumber hchoice]

namespace Rules

section Padded

variable {n : WordInt} {s : String}

/-- A numeral in white space is rounded like the integer. -/
theorem number?_eq_of_isPadded (h : Text.IsPadded (toString n.val).toList s) :
    (Json.string s).number? = (Json.number (.int n)).number? := by
  rw [Json.number?, Json.number?, Number.toBinary64?]
  exact WordInt.textNumber?_eq h

/-- The rule `numeric` says the same of a value in either form. -/
theorem numeric_string_eq (h : Text.IsPadded (toString n.val).toList s) (args : Args) :
    numeric (some (.string s)) args = numeric (some (.number (.int n))) args := by
  have hdigits : fractionDigits (.number (.int n)) = 0 := rfl
  simp only [numeric, number?_eq_of_isPadded h, WordInt.fractionDigits_eq_zero h, hdigits]

/-- The rule `numeric` says the same with a bound in either form. -/
theorem numeric_set_eq (h : Text.IsPadded (toString n.val).toList s) {key : String}
    (hkey : key ∈ ["max", "min"]) (value : Option Json) (args : Args) :
    numeric value (args.set key (.string s)) = numeric value (args.set key (.number (.int n))) := by
  -- only one option changes, and what is read from it does not
  have hverdict (name : String) (hname : Text.IsName name) (holds : Binary64 → Bool) :
      (args.set key (.string s)).verdict name Json.number? holds =
        (args.set key (.number (.int n))).verdict name Json.number? holds := by
    rw [Args.verdict_set hname rfl, Args.verdict_set hname rfl, number?_eq_of_isPadded h]
  have hdecimals (holds : Int → Bool) :
      (args.set key (.string s)).verdict "decimals" Json.integer? holds =
        (args.set key (.number (.int n))).verdict "decimals" Json.integer? holds := by
    have hne : "decimals" ≠ key := by
      rcases List.mem_pair.1 hkey with rfl | rfl <;> decide
    exact Args.verdict_set_congr_of_ne (by decide) hne rfl rfl Json.integer? holds
  have hmax : Text.IsName "max" := by decide
  have hmin : Text.IsName "min" := by decide
  simp only [numeric, hverdict "max" hmax, hverdict "min" hmin, hdecimals]

/-- The rule `in` says the same of a value in either form, the choices being numbers. -/
theorem oneOf_string_eq (h : Text.IsPadded (toString n.val).toList s) {args : Args}
    (hargs : ∀ choice ∈ args.values, ∃ m : Number, choice = .number m) :
    oneOf (some (.string s)) args = oneOf (some (.number (.int n))) args := by
  unfold oneOf
  rw [Outcome.ofBool_inj, Bool.eq_iff_iff, List.any_eq_true, List.any_eq_true]
  refine exists_congr fun choice => and_congr_right fun hmem => ?_
  obtain ⟨m, rfl⟩ := hargs choice hmem
  rw [Json.looseSame_number_congr (number?_eq_of_isPadded h)]

end Padded

/-- **Integers as texts.**  An integer and its text, white space around it, are the same to
`numeric` as a value and as a bound, and to `in` as a value among numbers.  This holds of all
integers that a word can hold, though both forms lose digits of the greater ones: they lose the
same. -/
theorem numeric_eq_of_isPadded {v bound : WordInt} {s t : String}
    (hs : Text.IsPadded (toString v.val).toList s)
    (ht : Text.IsPadded (toString bound.val).toList t) :
    (∀ args, numeric (some (.string s)) args = numeric (some (.number (.int v))) args) ∧
      (∀ (value : Option Json) (args : Args), ∀ key ∈ ["max", "min"],
        numeric value (args.set key (.string t)) =
          numeric value (args.set key (.number (.int bound)))) ∧
      ∀ args : Args, (∀ choice ∈ args.values, ∃ n : Number, choice = .number n) →
        oneOf (some (.string s)) args = oneOf (some (.number (.int v))) args := by
  refine ⟨numeric_string_eq hs, ?_, ?_⟩
  · intro value args key hkey
    exact numeric_set_eq ht hkey value args
  · intro args hargs
    exact oneOf_string_eq hs hargs

/-- The integer above `2 ^ 53` is rounded down to it in both forms. -/
theorem numeric_eq_of_isPadded_above :
    let v : WordInt := { val := 9007199254740993 }
    let below : WordInt := { val := 9007199254740992 }
    let choices : Args := .list [.number (.int below)]
    Text.IsPadded (toString v.val).toList " 9007199254740993\t" ∧
      Text.IsPadded (toString below.val).toList "9007199254740992" ∧
      (∀ choice ∈ choices.values, ∃ n : Number, choice = .number n) ∧
      numeric (some (.string " 9007199254740993\t")) (.options [("max", .number (.int below))]) =
        .pass ∧
      oneOf (some (.string " 9007199254740993\t")) choices = .pass := by
  intro v below choices
  have hv : Text.IsPadded (toString v.val).toList " 9007199254740993\t" :=
    ⟨[' '], ['\t'], by simp [Text.isSpace], by decide⟩
  have hbelow : Text.IsPadded (toString below.val).toList "9007199254740992" :=
    Text.isPadded_toList "9007199254740992"
  have hchoices : ∀ choice ∈ choices.values, ∃ n : Number, choice = .number n := by
    intro choice hmem
    exact ⟨.int below, List.mem_singleton.1 hmem⟩
  obtain ⟨hvalue, -, hchoice⟩ := numeric_eq_of_isPadded hv hbelow
  refine ⟨hv, hbelow, hchoices, ?_, ?_⟩
  · rw [hvalue]
    decide +kernel
  · rw [hchoice choices hchoices]
    decide +kernel

end Rules

end FieldRules
