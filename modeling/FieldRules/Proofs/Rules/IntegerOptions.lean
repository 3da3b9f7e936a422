import FieldRules.Proofs.Number.Integral
import FieldRules.Proofs.Rules.Decimals
import FieldRules.Proofs.Rules.Lengths

/-!
# Options that are integers

Seven options of the rules `string`, `array` and `numeric` are integers that a count is compared
with (`Rules.integerOptions`).  An integer is read exactly if it is given as a number, and rounded
if it is given as a text.  So the two forms part at the ends of the signed word, where the text is
read as no integer at all (`Rules.IntegerOption.outcome_string_iff`).
-/

set_option autoImplicit false

namespace FieldRules.Rules

/-- An option that a rule reads as an integer and compares a count with. -/
structure IntegerOption where
  rule : Rule
  name : String
  /-- What the rule counts in a value. -/
  count : Option Json → Args → Nat
  /-- Whether a count is as the option demands. -/
  demand : Nat → Int → Bool

/-- What the rule says if the option is set. -/
def IntegerOption.outcome (o : IntegerOption) (value : Option Json) (args : Args) (raw : Json) :
    Outcome :=
  o.rule value (args.set o.name raw)

/-- The length of a text as the arguments ask for it to be counted. -/
def textLength : Option Json → Args → Nat
  | some (.string s), args => (encodingOf? args).elim 0 fun encoding => encoding.measure s
  | _, _ => 0

def lengthOption (bound : String × (Nat → Int → Bool)) : IntegerOption where
  rule := text
  name := bound.1
  count := textLength
  demand := bound.2

def countOption (bound : String × (Nat → Int → Bool)) : IntegerOption where
  rule := array
  name := bound.1
  count := fun value _ => (value.bind elementCount?).getD 0
  demand := bound.2

def decimalsOption : IntegerOption where
  rule := numeric
  name := "decimals"
  count := fun value _ => (value.map fractionDigits).getD 0
  demand := atLeast

/-- The options that are integers: the bounds on a length and on a number of elements, and the least
number of digits after the point. -/
def integerOptions : List IntegerOption :=
  lengthBounds.demands.map lengthOption ++ countBounds.demands.map countOption ++ [decimalsOption]

/-- The integer options are the bounds on lengths and counts, and `decimals`. -/
theorem mem_integerOptions {o : IntegerOption} :
    o ∈ integerOptions ↔
      (∃ bound ∈ lengthBounds.demands, lengthOption bound = o) ∨
        (∃ bound ∈ countBounds.demands, countOption bound = o) ∨ o = decimalsOption := by
  rw [integerOptions, List.mem_append, List.mem_append, List.mem_map, List.mem_map,
    List.mem_singleton, or_assoc]

example : integerOptions.map (·.name) =
    ["max_length", "min_length", "length", "max_count", "min_count", "count", "decimals"] := rfl

/-- What a least count demands, in one comparison. -/
theorem atLeast_eq (count : Nat) : atLeast count = fun n => decide (n ≤ (count : Int)) := by
  funext n
  rw [Bool.eq_iff_iff, atLeast_iff, decide_eq_true_iff]

/-! ## What is asked decides -/

section Congr

variable {raw raw' : Json} {key : String} {demand : Nat → Int → Bool}

/-- Bounds change with what the one that is set says of a count. -/
theorem BoundNames.group_set_congr {names : BoundNames}
    (hnames : ∀ bound ∈ names.demands, Text.IsName bound.1)
    (hnodup : (names.demands.map Prod.fst).Nodup) (hdemand : (key, demand) ∈ names.demands)
    (hraw : raw.isNull = false) (hraw' : raw'.isNull = false) {count : Nat}
    (h : Verdict.ofRead raw.integer? (demand count) = .ofRead raw'.integer? (demand count))
    (args : Args) :
    names.group (args.set key raw) count = names.group (args.set key raw') count := by
  rw [group_eq, group_eq]
  refine List.map_congr_left fun bound hbound => ?_
  rw [Args.verdict_set (hnames bound hbound) hraw, Args.verdict_set (hnames bound hbound) hraw']
  split
  · rename_i heq
    have hbound : bound = (key, demand) := List.inj_on_of_nodup_map hnodup hbound hdemand heq
    rw [hbound]
    exact h
  · rfl

/-- Setting another option leaves the encoding as it is. -/
theorem encodingOf?_set (hne : "encoding" ≠ key) (args : Args) :
    encodingOf? (args.set key raw) = encodingOf? args := by
  unfold encodingOf?
  rw [Args.getSet?_set_of_ne (by decide) hne]

variable (hraw : raw.isNull = false) (hraw' : raw'.isNull = false) {value : Option Json}
  {args : Args}
include hraw hraw'

/-- The rule `string` depends on a bound only through its verdict. -/
theorem text_set_congr (hdemand : (key, demand) ∈ lengthBounds.demands)
    (h : Verdict.ofRead raw.integer? (demand (textLength value args)) =
      .ofRead raw'.integer? (demand (textLength value args))) :
    text value (args.set key raw) = text value (args.set key raw') := by
  have hnames : ∀ bound ∈ lengthBounds.demands, Text.IsName bound.1 := by decide
  have hothers : ∀ bound ∈ lengthBounds.demands, "encoding" ≠ bound.1 ∧ "matches" ≠ bound.1 := by
    decide
  obtain ⟨hencodingKey, hmatchesKey⟩ := hothers _ hdemand
  rcases value with - | v
  · rfl
  cases v with
  | string s =>
    have hset (raw : Json) : encodingOf? (args.set key raw) = encodingOf? args :=
      encodingOf?_set hencodingKey args
    cases hencoding : encodingOf? args with
    | none => simp only [text, hset, hencoding]
    | some encoding =>
      rw [textLength, hencoding, Option.elim_some] at h
      rw [(OptionCall.text ((hset raw).trans hencoding)).outcome_eq,
        (OptionCall.text ((hset raw').trans hencoding)).outcome_eq,
        BoundNames.group_set_congr hnames (by decide) hdemand hraw hraw' h,
        Args.verdict_set_congr_of_ne (by decide) hmatchesKey hraw hraw']
  | _ => rfl

/-- The rule `array` depends on a bound only through its verdict. -/
theorem array_set_congr (hdemand : (key, demand) ∈ countBounds.demands)
    (h : Verdict.ofRead raw.integer? (demand ((value.bind elementCount?).getD 0)) =
      .ofRead raw'.integer? (demand ((value.bind elementCount?).getD 0))) :
    array value (args.set key raw) = array value (args.set key raw') := by
  have hnames : ∀ bound ∈ countBounds.demands, Text.IsName bound.1 := by decide
  have hothers : ∀ bound ∈ countBounds.demands, "has" ≠ bound.1 ∧ "empty" ≠ bound.1 := by decide
  obtain ⟨hhasKey, hemptyKey⟩ := hothers _ hdemand
  rcases value with - | v
  · rfl
  cases hcount : elementCount? v with
  | none => simp only [array, hcount]
  | some count =>
    rw [Option.bind_some, hcount, Option.getD_some] at h
    rw [(OptionCall.array hcount).outcome_eq, (OptionCall.array hcount).outcome_eq,
      BoundNames.group_set_congr hnames (by decide) hdemand hraw hraw' h,
      Args.verdict_set_congr_of_ne (by decide) hhasKey hraw hraw',
      Args.verdict_set_congr_of_ne (by decide) hemptyKey hraw hraw']

/-- The rule `numeric` depends on `decimals` only through its verdict. -/
theorem numeric_set_congr
    (h : Verdict.ofRead raw.integer? (atLeast ((value.map fractionDigits).getD 0)) =
      .ofRead raw'.integer? (atLeast ((value.map fractionDigits).getD 0))) :
    numeric value (args.set "decimals" raw) = numeric value (args.set "decimals" raw') := by
  have hmax : Text.IsName "max" := by decide
  have hmin : Text.IsName "min" := by decide
  have hdecimals : Text.IsName "decimals" := by decide
  rcases value with - | v
  · rfl
  cases hx : v.number? with
  | none => simp only [numeric, hx]
  | some x =>
    rw [Option.map_some, Option.getD_some, atLeast_eq] at h
    rw [(OptionCall.numeric hx).outcome_eq, (OptionCall.numeric hx).outcome_eq,
      Args.verdict_set_congr_of_ne hmax (by decide) hraw hraw',
      Args.verdict_set_congr_of_ne hmin (by decide) hraw hraw',
      Args.verdict_set hdecimals hraw, Args.verdict_set hdecimals hraw', if_pos rfl, if_pos rfl, h]

/-- What an option says of the count is all that a rule makes of it. -/
theorem IntegerOption.outcome_congr {o : IntegerOption} (ho : o ∈ integerOptions)
    (h : Verdict.ofRead raw.integer? (o.demand (o.count value args)) =
      .ofRead raw'.integer? (o.demand (o.count value args))) :
    o.outcome value args raw = o.outcome value args raw' := by
  rcases mem_integerOptions.1 ho with ⟨bound, hbound, rfl⟩ | ⟨bound, hbound, rfl⟩ | rfl
  · exact text_set_congr hraw hraw' hbound h
  · exact array_set_congr hraw hraw' hbound h
  · exact numeric_set_congr hraw hraw' h

end Congr

/-! ## Every count occurs -/

namespace IntegerOption

variable {o : IntegerOption}

/-- For each count there is a value of which an option asks nothing but what it demands of that
count. -/
theorem exists_outcome_eq (ho : o ∈ integerOptions) (count : Nat) :
    ∃ v : Json, ∀ raw : Json, raw.isNull = false →
      o.outcome (some v) .empty raw = .ofVerdicts [.ofRead raw.integer? (o.demand count)] := by
  have hlengths : ∀ bound ∈ lengthBounds.demands, Text.IsName bound.1 ∧ "encoding" ≠ bound.1 := by
    decide
  have hcounts : ∀ bound ∈ countBounds.demands, Text.IsName bound.1 := by decide
  -- Letters in a row have any length, nulls in a list any count, and zeros any number of digits.
  rcases mem_integerOptions.1 ho with ⟨bound, hbound, rfl⟩ | ⟨bound, hbound, rfl⟩ | rfl
  · refine ⟨.string (String.ofList (List.replicate count 'a')), fun raw hraw => ?_⟩
    obtain ⟨hname, hencoding⟩ := hlengths bound hbound
    have hset : (Args.empty.set bound.1 raw).SetsOnly textOptions bound.1 raw :=
      .set_empty hname (by decide) hraw
    have htext := text_eq_of_setsOnly (encodingOf?_set hencoding .empty) hbound hset
      (String.ofList (List.replicate count 'a'))
    have hwidth : Encoding.scalar.width 'a' = 1 := rfl
    rwa [Encoding.measure_replicate, hwidth, Nat.mul_one] at htext
  · refine ⟨.array (List.replicate count .null), fun raw hraw => ?_⟩
    have hset : (Args.empty.set bound.1 raw).SetsOnly arrayOptions bound.1 raw :=
      .set_empty (hcounts bound hbound) (by decide) hraw
    have hcount : elementCount? (.array (List.replicate count .null)) = some count := by
      rw [elementCount?, List.length_replicate]
    exact array_eq_of_setsOnly hcount hbound hset
  · obtain ⟨s, hs, hdigits⟩ := exists_fractionDigits_eq count
    obtain ⟨x, hx⟩ := Option.isSome_iff_exists.1 hs
    refine ⟨.string s, fun raw hraw => ?_⟩
    have hset : (Args.empty.set "decimals" raw).SetsOnly numericOptions "decimals" raw :=
      .set_empty (by decide) (by decide) hraw
    have hread : Json.number? (.string s) = some x := hx
    have hnumeric := numeric_eq_of_setsOnly hread hset
    rwa [hdigits, ← atLeast_eq] at hnumeric

/-! ## What rounding an option changes -/

/-- An integer option is a greatest count, a least one or the only one. -/
theorem demand_cases (ho : o ∈ integerOptions) :
    o.demand = atMost ∨ o.demand = atLeast ∨ o.demand = exactly := by
  rcases mem_integerOptions.1 ho with ⟨bound, hbound, rfl⟩ | ⟨bound, hbound, rfl⟩ | rfl
  · exact BoundNames.demand_cases hbound
  · exact BoundNames.demand_cases hbound
  · exact .inr (.inl rfl)

/-- An integer option that is not positive demands nothing. -/
theorem demand_of_nonpos (ho : o ∈ integerOptions) {n : ℤ} (hn : n ≤ 0) (count : Nat) :
    o.demand count n = true := by
  rcases demand_cases ho with h | h | h <;> rw [h]
  · exact atMost_iff.2 (.inl hn)
  · exact atLeast_iff.2 (by omega)
  · exact exactly_iff.2 (.inl hn)

/-- Different demands that are positive are told apart by some count. -/
theorem exists_demand_ne (ho : o ∈ integerOptions) {n m : ℤ} (hn : 0 < n) (hm : 0 < m)
    (hne : n ≠ m) : ∃ count : Nat, o.demand count n ≠ o.demand count m := by
  rcases demand_cases ho with h | h | h <;> rw [h]
  · refine ⟨(max n m).toNat, ?_⟩
    rw [ne_eq, Bool.eq_iff_iff, atMost_iff, atMost_iff]
    omega
  · refine ⟨(min n m).toNat, ?_⟩
    rw [ne_eq, Bool.eq_iff_iff, atLeast_iff, atLeast_iff]
    omega
  · refine ⟨n.toNat, ?_⟩
    rw [ne_eq, Bool.eq_iff_iff, exactly_iff, exactly_iff]
    omega

/-- A count that is not too large does not tell an option from what it is rounded to. -/
theorem demand_of_roundsTo (ho : o ∈ integerOptions) {n m : ℤ} (h : Binary64.RoundsTo n m)
    {count : Nat} (hcount : count < 2 ^ 53) : o.demand count n = o.demand count m := by
  rcases h.cases with rfl | ⟨hn, hm⟩ | ⟨hn, hm⟩
  · rfl
  · rcases demand_cases ho with h | h | h <;> rw [h, Bool.eq_iff_iff]
    · rw [atMost_iff, atMost_iff]
      omega
    · rw [atLeast_iff, atLeast_iff]
      omega
    · rw [exactly_iff, exactly_iff]
      omega
  · rw [demand_of_nonpos ho (by omega), demand_of_nonpos ho (by omega)]

/-! ## Options as texts -/

section Padded

variable {n : WordInt} {s : String} (ho : o ∈ integerOptions)
  (hs : Text.IsPadded (toString n.val).toList s) (value : Option Json) (args : Args)
include ho hs

/-- The text of an integer is as good as the integer that it is rounded to. -/
theorem outcome_string_of_roundsTo (hn : n.val.natAbs < 2 ^ 63 - 512) {m : WordInt}
    (h : Binary64.RoundsTo n.val m.val) :
    o.outcome value args (.string s) = o.outcome value args (.number (.int m)) := by
  have hm := h.natAbs_lt_iff.2 hn
  refine outcome_congr rfl rfl ho ?_
  rw [WordInt.integer?_string_eq hs h, if_pos hn, integer?_int (by omega)]

/-- The text of an integer is as good as the integer if they demand the same of the count. -/
theorem outcome_string_of_demand_eq (hn : n.val.natAbs < 2 ^ 63 - 512)
    (h : ∀ m, Binary64.RoundsTo n.val m →
      o.demand (o.count value args) m = o.demand (o.count value args) n.val) :
    o.outcome value args (.string s) = o.outcome value args (.number (.int n)) := by
  obtain ⟨m, hm⟩ := n.exists_roundsTo
  refine outcome_congr rfl rfl ho ?_
  rw [WordInt.integer?_string_eq hs hm, if_pos hn, integer?_int (by omega),
    Verdict.ofRead_some, Verdict.ofRead_some, h m hm]

/-- The text of an integer that is rounded to `2 ^ 63` or more is as good as none. -/
theorem outcome_string_of_le (hn : 2 ^ 63 - 512 ≤ n.val.natAbs) {raw : Json}
    (hraw : raw.isNull = false) (hread : raw.integer? = none) :
    o.outcome value args (.string s) = o.outcome value args raw := by
  obtain ⟨m, hm⟩ := n.exists_roundsTo
  refine outcome_congr rfl hraw ho ?_
  rw [WordInt.integer?_string_eq hs hm, if_neg hn.not_gt, hread]

end Padded

/-- The two forms differ somewhere if the integer is rounded: on a count between it and the integer
that its text is read as. -/
theorem of_outcome_string_eq (ho : o ∈ integerOptions) {n : WordInt} (hn : n.val < 2 ^ 63)
    {s : String} (hs : Text.IsPadded (toString n.val).toList s)
    (h : ∀ value args, o.outcome value args (.string s) = o.outcome value args (.number (.int n))) :
    n.val.natAbs < 2 ^ 63 - 512 ∧ (n.val ≤ 0 ∨ Binary64.RoundsTo n.val n.val) := by
  obtain ⟨m, hm⟩ := n.exists_roundsTo
  -- A value for each count lets the outcomes show what is demanded.
  have hcount (count : Nat) :
      Outcome.ofVerdicts [.ofRead (Json.string s).integer? (o.demand count)] =
        .ofBool (o.demand count n.val) := by
    obtain ⟨v, hv⟩ := exists_outcome_eq ho count
    rw [← hv (.string s) rfl, h, hv _ rfl, integer?_int hn, ofVerdicts_ofRead_some]
  rw [WordInt.integer?_string_eq hs hm] at hcount
  have hlt : n.val.natAbs < 2 ^ 63 - 512 := by
    by_contra hge
    have hzero := hcount 0
    rw [if_neg hge, ofVerdicts_ofRead_none] at hzero
    cases hdemand : o.demand 0 n.val <;> rw [hdemand] at hzero <;> cases hzero
  refine ⟨hlt, ?_⟩
  by_contra hnot
  rw [not_or, not_le] at hnot
  obtain ⟨hpos, hrounded⟩ := hnot
  have hmpos : 0 < m := (Binary64.RoundsTo.of_natAbs_lt (n := 1) (by decide)).mono hm hpos
  have hne : m ≠ n.val := by
    rintro rfl
    exact hrounded hm
  obtain ⟨count, hdiffers⟩ := exists_demand_ne ho hmpos hpos hne
  have hsame := hcount count
  rw [if_pos hlt, ofVerdicts_ofRead_some, Outcome.ofBool_inj] at hsame
  exact hdiffers hsame

/-- **Options as texts.**  A rule takes the text of an integer for the integer that it is rounded
to, and no count below `2 ^ 53` tells that one from the integer itself.  But an integer that is
rounded to `2 ^ 63` or more, or to `-2 ^ 63` or less, is read as none.  So a text and its integer
have the same outcome everywhere exactly if the integer stays away from those ends and is not
positive or not rounded. -/
theorem outcome_string_iff (ho : o ∈ integerOptions) {n : WordInt} (hn : n.val < 2 ^ 63)
    {s : String} (hs : Text.IsPadded (toString n.val).toList s) :
    ((∀ value args, o.outcome value args (.string s) = o.outcome value args (.number (.int n))) ↔
        n.val.natAbs < 2 ^ 63 - 512 ∧ (n.val ≤ 0 ∨ Binary64.RoundsTo n.val n.val)) ∧
      (n.val.natAbs < 2 ^ 63 - 512 → ∃ m : WordInt, Binary64.RoundsTo n.val m.val ∧
        ∀ value args,
          o.outcome value args (.string s) = o.outcome value args (.number (.int m)) ∧
            (o.count value args < 2 ^ 53 →
              o.outcome value args (.string s) = o.outcome value args (.number (.int n)))) ∧
      (2 ^ 63 - 512 ≤ n.val.natAbs → ∀ value args raw, raw.isNull = false → raw.integer? = none →
        o.outcome value args (.string s) = o.outcome value args raw) := by
  refine ⟨⟨of_outcome_string_eq ho hn hs, ?_⟩, ?_, ?_⟩
  · rintro ⟨hlt, hnonpos | hexact⟩ value args
    · refine outcome_string_of_demand_eq ho hs value args hlt fun m hm => ?_
      have hm : m ≤ 0 := hm.mono (.of_natAbs_lt (n := 0) (by decide)) hnonpos
      rw [demand_of_nonpos ho hm, demand_of_nonpos ho hnonpos]
    · exact outcome_string_of_roundsTo ho hs value args hlt hexact
  · intro hlt
    obtain ⟨m, hm⟩ := n.exists_roundsTo
    obtain ⟨m, rfl⟩ := WordInt.exists_val_eq (hm.natAbs_lt_iff.2 hlt)
    refine ⟨m, hm, fun value args => ⟨?_, ?_⟩⟩
    · exact outcome_string_of_roundsTo ho hs value args hlt hm
    · intro hcount
      refine outcome_string_of_demand_eq ho hs value args hlt fun m hm => ?_
      exact (demand_of_roundsTo ho hm hcount).symm
  · intro hle value args raw hraw hread
    exact outcome_string_of_le ho hs value args hle hraw hread

/-- A bound above `2 ^ 53` that is rounded, and a short text that does not tell. -/
theorem outcome_string_iff_above :
    let o : IntegerOption := lengthOption ("max_length", atMost)
    let n : WordInt := { val := 9007199254740993 }
    o ∈ integerOptions ∧ n.val < 2 ^ 63 ∧
      Text.IsPadded (toString n.val).toList "9007199254740993" ∧
      o.outcome (some (.string "abc")) .empty (.string "9007199254740993") = .pass ∧
      ¬∀ value args, o.outcome value args (.string "9007199254740993") =
        o.outcome value args (.number (.int n)) := by
  intro o n
  have ho : o ∈ integerOptions := List.mem_cons_self
  have hn : n.val < 2 ^ 63 := by decide
  have hs : Text.IsPadded (toString n.val).toList "9007199254740993" :=
    Text.isPadded_toList "9007199254740993"
  have hrounded : Binary64.RoundsTo n.val 9007199254740992 := .of_ofInt? (by decide +kernel)
  obtain ⟨hiff, hsmall, -⟩ := outcome_string_iff ho hn hs
  refine ⟨ho, hn, hs, ?_, ?_⟩
  · obtain ⟨m, -, hm⟩ := hsmall (by decide)
    rw [(hm (some (.string "abc")) .empty).2 (by decide)]
    decide +kernel
  · rw [hiff]
    rintro ⟨-, hnonpos | hexact⟩
    · exact absurd hnonpos (by decide)
    · exact absurd (hexact.unique hrounded) (by decide)

/-- The greatest bound that a signed word holds is none as a text. -/
theorem text_eq_indeterminate_of_greatest :
    toString (9223372036854775807 : ℤ) = "9223372036854775807" ∧
      text (some (.string "abc"))
          (.options [("max_length", .number (.int { val := 9223372036854775807 }))]) = .pass ∧
      text (some (.string "abc"))
          (.options [("max_length", .string "9223372036854775807")]) = .indeterminate := by
  refine ⟨rfl, ?_, ?_⟩
  · decide +kernel
  · decide +kernel

end IntegerOption

end FieldRules.Rules
