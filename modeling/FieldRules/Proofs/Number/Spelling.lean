import FieldRules.Proofs.Number.Denoted
import FieldRules.Proofs.Number.Overflow
import FieldRules.Proofs.Text.Cutting
import FieldRules.Rules.Numeric

/-!
# The spellings of numbers

A `Spelling` is a number as a text may write it: an optional sign, digits with an optional point
among them, and an optional exponent.  A text without white space around it is read as a number
exactly if it is such a spelling (`NumericText.ofTrimmed?_eq_some_iff`), and it is too large exactly
from `Binary64.limit` on (`NumericText.isSome_value?_iff`).  Counting the digits after the point
cuts the text anew, and finds those of the spelling (`Spelling.writtenFraction_chars`).
-/

set_option autoImplicit false

namespace FieldRules

/-! ## The grammar -/

/-- What may stand before digits. -/
inductive Sign where
  | none
  | plus
  | minus

/-- Digits, at least one, with an optional point among them. -/
structure WrittenDigits where
  whole : List Char
  /-- The digits after the point, if there is a point. -/
  fraction : Option (List Char)
  isDigit_whole : ∀ c ∈ whole, c.isDigit = true
  isDigit_fraction : ∀ c ∈ fraction.getD [], c.isDigit = true
  hasDigit : ¬(whole = [] ∧ fraction.getD [] = [])

/-- A power of ten, after the letter that begins it. -/
structure WrittenExponent where
  letter : Char
  sign : Sign
  digits : List Char
  isLetter : letter = 'e' ∨ letter = 'E'
  isNumeral : Text.isNumeral digits = true

/-- A number as it is written. -/
structure Spelling where
  sign : Sign
  digits : WrittenDigits
  exponent : Option WrittenExponent

def Sign.chars : Sign → List Char
  | .none => []
  | .plus => ['+']
  | .minus => ['-']

def Sign.isMinus : Sign → Bool
  | .minus => true
  | _ => false

def WrittenDigits.chars (x : WrittenDigits) : List Char :=
  x.whole ++ (x.fraction.map ('.' :: ·)).getD []

def WrittenExponent.chars (x : WrittenExponent) : List Char :=
  x.letter :: (x.sign.chars ++ x.digits)

def WrittenExponent.value (x : WrittenExponent) : ℤ :=
  if x.sign.isMinus then -(Text.numeralValue x.digits : ℤ) else Text.numeralValue x.digits

/-- The digits after the point; without a point there are none. -/
def Spelling.fraction (w : Spelling) : List Char :=
  w.digits.fraction.getD []

def Spelling.chars (w : Spelling) : List Char :=
  w.sign.chars ++ (w.digits.chars ++ (w.exponent.map WrittenExponent.chars).getD [])

/-- The parts that are read from a spelling. -/
def Spelling.parts (w : Spelling) : NumericText :=
  ⟨w.sign.isMinus, w.digits.whole, w.fraction, (w.exponent.map WrittenExponent.value).getD 0⟩

/-- The number that a spelling denotes. -/
def Spelling.denoted (w : Spelling) : ℚ :=
  w.parts.denoted

namespace WrittenDigits

/-- Written digits are digits and at most a point. -/
theorem isDigit_or_eq_of_mem {x : WrittenDigits} {c : Char} (h : c ∈ x.chars) :
    c.isDigit = true ∨ c = '.' := by
  unfold chars at h
  rcases List.mem_append.1 h with hwhole | hfraction
  · exact Or.inl (x.isDigit_whole c hwhole)
  · have hdigits := x.isDigit_fraction
    cases hx : x.fraction with
    | none =>
      rw [hx] at hfraction
      cases hfraction
    | some ds =>
      rw [hx] at hfraction hdigits
      rcases List.mem_cons.1 hfraction with hpoint | hmem
      · exact Or.inr hpoint
      · exact Or.inl (hdigits c hmem)

/-- Written digits have no letter of an exponent. -/
theorem ne_letter_of_mem {x : WrittenDigits} {c : Char} (h : c ∈ x.chars) : c ≠ 'e' ∧ c ≠ 'E' := by
  rcases isDigit_or_eq_of_mem h with hdigit | rfl
  · constructor <;> rintro rfl <;> cases hdigit
  · decide

/-- Written digits are not empty. -/
theorem chars_ne_nil (x : WrittenDigits) : x.chars ≠ [] := by
  intro hnil
  obtain ⟨hwhole, hfraction⟩ := List.append_eq_nil_iff.1 hnil
  apply x.hasDigit
  cases hx : x.fraction with
  | none => exact ⟨hwhole, rfl⟩
  | some ds =>
    rw [hx] at hfraction
    cases hfraction

end WrittenDigits

/-- A sign is a plus or a minus. -/
theorem Sign.eq_of_mem_chars {sign : Sign} {c : Char} (h : c ∈ sign.chars) : c = '+' ∨ c = '-' := by
  cases sign <;> simp [chars] at h <;> simp [h]

/-- The digits of an exponent are digits. -/
theorem WrittenExponent.isDigit_of_mem (x : WrittenExponent) {c : Char} (h : c ∈ x.digits) :
    c.isDigit = true := by
  have hnumeral := x.isNumeral
  unfold Text.isNumeral at hnumeral
  rw [Bool.and_eq_true, List.all_eq_true] at hnumeral
  exact hnumeral.2 c h

namespace NumericText

/-! ## Signs -/

/-- A text without a sign at its head stays whole. -/
theorem splitSign_of_head? {cs : List Char} (h : ∀ c ∈ cs.head?, c ≠ '+' ∧ c ≠ '-') :
    splitSign cs = (false, cs) := by
  unfold splitSign
  split
  · exact absurd rfl (h '-' rfl).2
  · exact absurd rfl (h '+' rfl).1
  · rfl

/-- A sign is split off. -/
theorem splitSign_chars (sign : Sign) {cs : List Char} (h : ∀ c ∈ cs.head?, c ≠ '+' ∧ c ≠ '-') :
    splitSign (sign.chars ++ cs) = (sign.isMinus, cs) := by
  cases sign with
  | none => exact splitSign_of_head? h
  | plus => rfl
  | minus => rfl

/-- Every text is a sign and what remains. -/
theorem exists_sign (cs : List Char) :
    ∃ sign : Sign, sign.chars ++ (splitSign cs).2 = cs ∧ sign.isMinus = (splitSign cs).1 := by
  unfold splitSign
  split
  · exact ⟨.minus, rfl, rfl⟩
  · exact ⟨.plus, rfl, rfl⟩
  · exact ⟨.none, rfl, rfl⟩

/-- A digit is no sign. -/
theorem ne_sign_of_isDigit {c : Char} (h : c.isDigit = true) : c ≠ '+' ∧ c ≠ '-' := by
  constructor <;> rintro rfl <;> cases h

/-! ## Exponents -/

/-- A written exponent is read as its value. -/
theorem exponent?_chars (x : WrittenExponent) :
    exponent? (x.sign.chars ++ x.digits) = some x.value := by
  have hhead : ∀ c ∈ x.digits.head?, c ≠ '+' ∧ c ≠ '-' := fun c hc =>
    ne_sign_of_isDigit (x.isDigit_of_mem (List.mem_of_mem_head? hc))
  unfold exponent?
  rw [splitSign_chars x.sign hhead]
  dsimp only
  rw [if_pos x.isNumeral]
  rfl

/-- What is read as an exponent is a written one. -/
theorem exists_writtenExponent {letter : Char} (hletter : letter = 'e' ∨ letter = 'E')
    {cs : List Char} {n : ℤ} (h : exponent? cs = some n) :
    ∃ x : WrittenExponent, x.chars = letter :: cs ∧ x.value = n := by
  obtain ⟨sign, hcs, hminus⟩ := exists_sign cs
  unfold exponent? at h
  dsimp only at h
  rw [Option.ite_none_right_eq_some] at h
  obtain ⟨hnumeral, hn⟩ := h
  refine ⟨⟨letter, sign, (splitSign cs).2, hletter, hnumeral⟩, ?_, ?_⟩
  · unfold WrittenExponent.chars
    rw [hcs]
  · unfold WrittenExponent.value
    rw [hminus]
    exact Option.some.inj hn

/-! ## Digits -/

/-- Cutting digits at the point. -/
theorem splitFirst?_point_chars (x : WrittenDigits) :
    Text.splitFirst? (· == '.') x.chars = x.fraction.map fun ds => (x.whole, ds) := by
  have hwhole : ∀ c ∈ x.whole, (c == '.') = false := by
    intro c hc
    rw [beq_eq_false_iff_ne]
    rintro rfl
    cases x.isDigit_whole _ hc
  unfold WrittenDigits.chars
  rw [Text.splitFirst?_append hwhole]
  cases x.fraction with
  | none => rfl
  | some ds => simp [Text.splitFirst?]

/-- Written digits are read as those before the point and those after it. -/
theorem digits?_chars (x : WrittenDigits) :
    digits? x.chars = some (x.whole, x.fraction.getD []) := by
  have hcut : (Text.splitFirst? (· == '.') x.chars).getD (x.chars, []) =
      (x.whole, x.fraction.getD []) := by
    rw [splitFirst?_point_chars]
    unfold WrittenDigits.chars
    cases x.fraction with
    | none => simp
    | some ds => rfl
  unfold digits?
  rw [hcut]
  dsimp only
  apply if_pos
  rw [List.all_eq_true, List.all_eq_true, List.isEmpty_iff, List.isEmpty_iff]
  exact ⟨x.isDigit_whole, x.isDigit_fraction, x.hasDigit⟩

/-- What is read as digits is written digits. -/
theorem exists_writtenDigits {cs whole fraction : List Char}
    (h : digits? cs = some (whole, fraction)) :
    ∃ x : WrittenDigits, x.chars = cs ∧ x.whole = whole ∧ x.fraction.getD [] = fraction := by
  unfold digits? at h
  dsimp only at h
  rw [Option.ite_none_right_eq_some, List.all_eq_true, List.all_eq_true, List.isEmpty_iff,
    List.isEmpty_iff, Option.some.injEq, Prod.mk.injEq] at h
  obtain ⟨⟨hwhole, hfraction, hany⟩, rfl, rfl⟩ := h
  cases hcut : Text.splitFirst? (· == '.') cs with
  | none =>
    rw [hcut] at hwhole hany
    exact ⟨⟨cs, none, hwhole, by simp, hany⟩, by simp [WrittenDigits.chars], rfl, rfl⟩
  | some pieces =>
    obtain ⟨before, after⟩ := pieces
    rw [hcut] at hwhole hfraction hany
    obtain ⟨point, hpoint, -, rfl⟩ := Text.splitFirst?_eq_some_iff.1 hcut
    obtain rfl := beq_iff_eq.1 hpoint
    exact ⟨⟨before, some after, hwhole, hfraction, hany⟩, rfl, rfl, rfl⟩

/-! ## Numbers -/

/-- Cutting a number at its exponent. -/
theorem splitFirst?_letter_chars (w : Spelling) :
    Text.splitFirst? (fun c => c == 'e' || c == 'E')
        (w.digits.chars ++ (w.exponent.map WrittenExponent.chars).getD []) =
      w.exponent.map fun x => (w.digits.chars, x.sign.chars ++ x.digits) := by
  have hdigits : ∀ c ∈ w.digits.chars, (c == 'e' || c == 'E') = false := by
    intro c hc
    obtain ⟨he, hE⟩ := WrittenDigits.ne_letter_of_mem hc
    simp [he, hE]
  rw [Text.splitFirst?_append hdigits]
  cases w.exponent with
  | none => rfl
  | some x => rcases x.isLetter with he | he <;> simp [WrittenExponent.chars, Text.splitFirst?, he]

/-- A spelling is its sign, and then a digit or the point. -/
theorem splitSign_spelling (w : Spelling) :
    splitSign w.chars =
      (w.sign.isMinus, w.digits.chars ++ (w.exponent.map WrittenExponent.chars).getD []) := by
  apply splitSign_chars
  intro c hc
  rw [List.head?_append_of_ne_nil _ w.digits.chars_ne_nil] at hc
  rcases WrittenDigits.isDigit_or_eq_of_mem (List.mem_of_mem_head? hc) with hdigit | rfl
  · exact ne_sign_of_isDigit hdigit
  · decide

/-- A spelling is read as its parts. -/
theorem ofTrimmed?_chars (w : Spelling) : ofTrimmed? w.chars = some w.parts := by
  unfold ofTrimmed?
  rw [splitSign_spelling]
  dsimp only
  rw [splitFirst?_letter_chars]
  unfold Spelling.parts Spelling.fraction
  cases w.exponent with
  | none =>
    dsimp only [Option.map_none, Option.getD_none]
    rw [List.append_nil, digits?_chars]
    rfl
  | some x =>
    dsimp only [Option.map_some]
    rw [digits?_chars, exponent?_chars]
    rfl

/-- What is read as a number is a spelling of it. -/
theorem exists_spelling {cs : List Char} {t : NumericText} (h : ofTrimmed? cs = some t) :
    ∃ w : Spelling, w.chars = cs ∧ w.parts = t := by
  obtain ⟨sign, hcs, hminus⟩ := exists_sign cs
  unfold ofTrimmed? at h
  dsimp only at h
  -- What stands after the sign is cut at the letter of an exponent, if it has one.
  cases hcut : Text.splitFirst? (fun c => c == 'e' || c == 'E') (splitSign cs).2 with
  | none =>
    rw [hcut] at h
    obtain ⟨⟨whole, fraction⟩, hread, ht⟩ := Option.bind_eq_some_iff.1 h
    obtain ⟨digits, hchars, rfl, rfl⟩ := exists_writtenDigits hread
    refine ⟨⟨sign, digits, none⟩, ?_, ?_⟩
    · simp [Spelling.chars, hchars, hcs]
    · unfold Spelling.parts
      rw [hminus]
      exact Option.some.inj ht
  | some pieces =>
    obtain ⟨before, after⟩ := pieces
    rw [hcut] at h
    obtain ⟨⟨whole, fraction⟩, hread, ht⟩ := Option.bind_eq_some_iff.1 h
    obtain ⟨n, hn, ht⟩ := Option.bind_eq_some_iff.1 ht
    obtain ⟨letter, hletter, -, hbody⟩ := Text.splitFirst?_eq_some_iff.1 hcut
    rw [Bool.or_eq_true, beq_iff_eq, beq_iff_eq] at hletter
    obtain ⟨digits, hchars, rfl, rfl⟩ := exists_writtenDigits hread
    obtain ⟨x, hx, hvalue⟩ := exists_writtenExponent hletter hn
    refine ⟨⟨sign, digits, some x⟩, ?_, ?_⟩
    · rw [hbody] at hcs
      simp [Spelling.chars, hchars, hx, hcs]
    · unfold Spelling.parts
      rw [hminus, Option.map_some, Option.getD_some, hvalue]
      exact Option.some.inj ht

/-- **Numbers as texts.**  A text without white space around it is read as a number exactly if it is
a spelling of it. -/
theorem ofTrimmed?_eq_some_iff {cs : List Char} {t : NumericText} :
    ofTrimmed? cs = some t ↔ ∃ w : Spelling, w.chars = cs ∧ w.parts = t := by
  constructor
  · exact exists_spelling
  · rintro ⟨w, rfl, rfl⟩
    exact ofTrimmed?_chars w

/-- A numeric text has a value exactly if what it denotes is below the limit. -/
theorem isSome_value?_iff (t : NumericText) :
    t.value?.isSome = true ↔ |t.denoted| < Binary64.limit := by
  unfold value?
  rw [denoted_eq, Binary64.abs_signed _ t.decimal.value_nonneg]
  exact Binary64.isSome_ofDecimal?_iff t.negative t.decimal

end NumericText

namespace Spelling

/-- What a spelling is made of. -/
theorem isDigit_or_mem_of_mem {w : Spelling} {c : Char} (h : c ∈ w.chars) :
    c.isDigit = true ∨ c ∈ ['+', '-', '.', 'e', 'E'] := by
  have hsign {sign : Sign} (hc : c ∈ sign.chars) : c ∈ ['+', '-', '.', 'e', 'E'] := by
    rcases Sign.eq_of_mem_chars hc with rfl | rfl <;> decide
  unfold chars at h
  rcases List.mem_append.1 h with hmem | hmem
  · exact Or.inr (hsign hmem)
  rcases List.mem_append.1 hmem with hmem | hmem
  · rcases WrittenDigits.isDigit_or_eq_of_mem hmem with hdigit | rfl
    · exact Or.inl hdigit
    · exact Or.inr (by simp)
  · cases hx : w.exponent with
    | none =>
      rw [hx] at hmem
      cases hmem
    | some x =>
      rw [hx] at hmem
      rcases List.mem_cons.1 hmem with rfl | hmem
      · rcases x.isLetter with he | he <;> simp [he]
      rcases List.mem_append.1 hmem with hmem | hmem
      · exact Or.inr (hsign hmem)
      · exact Or.inl (x.isDigit_of_mem hmem)

/-- A spelling has no white space in it. -/
theorem isSpace_eq_false_of_mem {w : Spelling} {c : Char} (h : c ∈ w.chars) :
    Text.isSpace c = false := by
  rcases isDigit_or_mem_of_mem h with hdigit | hmem
  · have hrange : 48 ≤ c.toNat ∧ c.toNat ≤ 57 := by
      simpa [Char.isDigit, UInt32.le_iff_toNat_le] using hdigit
    unfold Text.isSpace
    simp
    omega
  · have hspace : ∀ c ∈ ['+', '-', '.', 'e', 'E'], Text.isSpace c = false := by simp [Text.isSpace]
    exact hspace c hmem

/-- Counting the digits after the point finds those of the spelling. -/
theorem writtenFraction_chars (w : Spelling) : Rules.writtenFraction w.chars = w.fraction := by
  have hfront : ∀ c ∈ w.sign.chars ++ w.digits.chars, (c != 'e' && c != 'E') = true := by
    intro c hc
    rcases List.mem_append.1 hc with hsign | hdigits
    · rcases Sign.eq_of_mem_chars hsign with rfl | rfl <;> rfl
    · obtain ⟨he, hE⟩ := WrittenDigits.ne_letter_of_mem hdigits
      simp [he, hE]
  have hletter : w.chars.takeWhile (fun c => c != 'e' && c != 'E') =
      w.sign.chars ++ w.digits.chars := by
    unfold chars
    rw [← List.append_assoc, List.takeWhile_append_of_pos hfront]
    cases w.exponent with
    | none => simp
    | some x =>
      rcases x.isLetter with he | he <;> simp [WrittenExponent.chars, he]
  have hsign : ∀ c ∈ w.sign.chars, (c == '.') = false := by
    intro c hc
    rcases Sign.eq_of_mem_chars hc with rfl | rfl <;> rfl
  unfold Rules.writtenFraction fraction
  dsimp only
  rw [hletter, Text.splitFirst?_append hsign, NumericText.splitFirst?_point_chars]
  cases w.digits.fraction <;> rfl

section Trimmed

variable {w : Spelling} {s : String}

/-- A text that is a spelling with white space around it is read as the spelling is. -/
theorem textNumber?_eq (h : w.chars = Text.trim s.toList) :
    Json.textNumber? s = w.parts.value? := by
  unfold Json.textNumber? NumericText.ofText?
  rw [← h, NumericText.ofTrimmed?_chars]
  rfl

/-- The digits after the point are counted as they are written. -/
theorem fractionDigits_eq (h : w.chars = Text.trim s.toList) :
    Rules.fractionDigits (.string s) = w.fraction.length := by
  rw [Rules.fractionDigits, ← h, writtenFraction_chars]

/-- A text that is read as a number is a spelling with white space around it. -/
theorem exists_of_isSome_textNumber? (h : (Json.textNumber? s).isSome = true) :
    ∃ w : Spelling, w.chars = Text.trim s.toList := by
  unfold Json.textNumber? NumericText.ofText? at h
  cases hread : NumericText.ofTrimmed? (Text.trim s.toList) with
  | none =>
    rw [hread] at h
    cases h
  | some t =>
    obtain ⟨w, hw, -⟩ := NumericText.exists_spelling hread
    exact ⟨w, hw⟩

end Trimmed

end Spelling

end FieldRules
