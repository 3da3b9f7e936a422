import FieldRules.Proofs.Number.Spelling
import FieldRules.Proofs.Positions

/-!
# Numbers in the general notation of floating point

In the general notation a text may be a number, or a word for infinity or for what is no number.
`FloatText.ofChars?` reads it from left to right, while `NumericText.ofTrimmed?` cuts it at the
first letter of an exponent and at the first point.  The two find the same numbers
(`FloatText.ofChars?_eq_number_iff`).  So a text is read as a number exactly if it is a spelling of
one in the range, and as the number nearest to it (`Json.textNumber?_iff_spelling`).
-/

set_option autoImplicit false

namespace FieldRules

/-- What a text of the general notation is. -/
inductive FloatText where
  | number (t : NumericText)
  | infinity (negative : Bool)
  | notANumber

namespace FloatText

/-- The digits after the point, if a point comes next, behind those before it, and what is left. -/
def scanFraction (whole : List Char) : List Char → (List Char × List Char) × List Char
  | '.' :: rest => ((whole, rest.takeWhile Char.isDigit), rest.dropWhile Char.isDigit)
  | rest => ((whole, []), rest)

/-- The digits at the head of a text, before the point and after it, and what is left. -/
def scanDigits (cs : List Char) : (List Char × List Char) × List Char :=
  scanFraction (cs.takeWhile Char.isDigit) (cs.dropWhile Char.isDigit)

/-- Reads the exponent after the digits; nothing is the exponent zero. -/
def scanExponent? : List Char → Option Int
  | [] => some 0
  | c :: rest => if c = 'e' ∨ c = 'E' then NumericText.exponent? rest else none

/-- Reads a text of the general notation, its words in either case. -/
def ofChars? (cs : List Char) : Option FloatText :=
  let (negative, body) := NumericText.splitSign cs
  let word := String.ofList (body.map Char.toLower)
  if word = "nan" then some .notANumber
  else if word = "inf" ∨ word = "infinity" then some (.infinity negative)
  else
    let ((whole, fraction), rest) := scanDigits body
    if whole.isEmpty ∧ fraction.isEmpty then none
    else (scanExponent? rest).map fun exponent => .number ⟨negative, whole, fraction, exponent⟩

/-- The number nearest to the one that is written, none if it is too large. -/
def value? : FloatText → Option Binary64
  | .number t => t.value?
  | .infinity _ => none
  | .notANumber => none

/-! ## Digits -/

/-- Digits are scanned up to the first other character, and a fraction follows. -/
theorem scanDigits_append {whole rest : List Char} (hwhole : ∀ c ∈ whole, c.isDigit = true)
    (hrest : ∀ c ∈ rest.head?, c.isDigit = false) :
    scanDigits (whole ++ rest) = scanFraction whole rest := by
  rw [scanDigits, Text.takeWhile_append_of_head? hwhole hrest,
    Text.dropWhile_append_of_head? hwhole hrest]

/-- Written digits are scanned up to what cannot continue them. -/
theorem scanDigits_chars (x : WrittenDigits) {rest : List Char}
    (hrest : ∀ c ∈ rest.head?, c.isDigit = false ∧ c ≠ '.') :
    scanDigits (x.chars ++ rest) = ((x.whole, x.fraction.getD []), rest) := by
  have hdigit : ∀ c ∈ rest.head?, c.isDigit = false := fun c hc => (hrest c hc).1
  have hfraction := x.isDigit_fraction
  unfold WrittenDigits.chars
  rw [List.append_assoc]
  cases hx : x.fraction with
  | none =>
    rw [Option.map_none, Option.getD_none, List.nil_append,
      scanDigits_append x.isDigit_whole hdigit]
    unfold scanFraction
    split
    · exact absurd rfl (hrest '.' rfl).2
    · rfl
  | some ds =>
    have hds : ∀ c ∈ ds, c.isDigit = true := by simpa [hx] using hfraction
    rw [Option.map_some, Option.getD_some, List.cons_append,
      scanDigits_append x.isDigit_whole (by simp), scanFraction,
      Text.takeWhile_append_of_head? hds hdigit, Text.dropWhile_append_of_head? hds hdigit]
    rfl

/-- What is scanned as digits is written digits. -/
theorem exists_chars_eq_of_scanDigits {cs whole fraction rest : List Char}
    (h : scanDigits cs = ((whole, fraction), rest)) (hany : ¬(whole = [] ∧ fraction = [])) :
    ∃ x : WrittenDigits,
      x.chars ++ rest = cs ∧ x.whole = whole ∧ x.fraction.getD [] = fraction := by
  have hsplit : cs.takeWhile Char.isDigit ++ cs.dropWhile Char.isDigit = cs :=
    List.takeWhile_append_dropWhile
  have hdigits (cs : List Char) : ∀ c ∈ cs.takeWhile Char.isDigit, c.isDigit = true :=
    fun c hc => List.mem_takeWhile_imp hc
  unfold scanDigits scanFraction at h
  split at h
  · rename_i after hdrop
    obtain ⟨⟨rfl, rfl⟩, rfl⟩ : (_ ∧ _) ∧ _ := by simpa only [Prod.mk.injEq] using h
    refine ⟨⟨_, some (after.takeWhile Char.isDigit), hdigits cs, hdigits after, hany⟩, ?_, rfl, rfl⟩
    rw [hdrop] at hsplit
    simp [WrittenDigits.chars, List.takeWhile_append_dropWhile, hsplit]
  · obtain ⟨⟨rfl, rfl⟩, rfl⟩ : (_ ∧ _) ∧ _ := by simpa only [Prod.mk.injEq] using h
    refine ⟨⟨_, none, hdigits cs, by simp, hany⟩, ?_, rfl, rfl⟩
    simp [WrittenDigits.chars, hsplit]

/-! ## Exponents -/

/-- An exponent does not continue the digits before it. -/
theorem head?_exponent_chars (x : Option WrittenExponent) :
    ∀ c ∈ ((x.map WrittenExponent.chars).getD []).head?, c.isDigit = false ∧ c ≠ '.' := by
  cases x with
  | none => simp
  | some x =>
    intro c hc
    obtain rfl := Option.some.inj hc
    rcases x.isLetter with he | he <;> rw [he] <;> decide

/-- A written exponent is scanned as its value, and a missing one as zero. -/
theorem scanExponent?_chars (x : Option WrittenExponent) :
    scanExponent? ((x.map WrittenExponent.chars).getD []) =
      some ((x.map WrittenExponent.value).getD 0) := by
  cases x with
  | none => rfl
  | some x =>
    rw [Option.map_some, Option.getD_some, WrittenExponent.chars, scanExponent?, if_pos x.isLetter,
      NumericText.exponent?_chars]
    rfl

/-- What is scanned as an exponent is a written one, or none. -/
theorem exists_chars_eq_of_scanExponent? {cs : List Char} {n : ℤ} (h : scanExponent? cs = some n) :
    ∃ x : Option WrittenExponent, (x.map WrittenExponent.chars).getD [] = cs ∧
      (x.map WrittenExponent.value).getD 0 = n := by
  cases cs with
  | nil => exact ⟨none, rfl, Option.some.inj h⟩
  | cons c rest =>
    rw [scanExponent?, Option.ite_none_right_eq_some] at h
    obtain ⟨x, hx, hn⟩ := NumericText.exists_writtenExponent h.1 h.2
    exact ⟨some x, hx, hn⟩

/-! ## Numbers -/

/-- Digits and the point are in lower case. -/
theorem toLower_of_isDigit {c : Char} (h : c.isDigit = true ∨ c = '.') : c.toLower = c := by
  rcases h with hdigit | rfl
  · have hdigits : ∀ d < 10, d.digitChar.toLower = d.digitChar := by decide
    obtain ⟨d, hd, rfl⟩ := Text.exists_digitChar_eq hdigit
    exact hdigits d hd
  · decide

/-- No word begins as written digits do. -/
theorem ofList_map_toLower_ne (x : WrittenDigits) (rest : List Char) {d : Char} {ds : List Char}
    (hdigit : d.isDigit = false) (hpoint : d ≠ '.') :
    String.ofList ((x.chars ++ rest).map Char.toLower) ≠ String.ofList (d :: ds) := by
  obtain ⟨c, cs, hcs⟩ := List.exists_cons_of_ne_nil x.chars_ne_nil
  have hc : c.isDigit = true ∨ c = '.' :=
    WrittenDigits.isDigit_or_eq_of_mem (hcs ▸ List.mem_cons_self)
  rw [hcs]
  intro h
  have hhead : c.toLower = d := (List.cons.inj (String.ofList_injective h)).1
  rw [toLower_of_isDigit hc] at hhead
  subst hhead
  rcases hc with hc | hc
  · exact Bool.noConfusion (hc.symm.trans hdigit)
  · exact hpoint hc

/-- A spelling is read as the number that it spells. -/
theorem ofChars?_chars (w : Spelling) : ofChars? w.chars = some (.number w.parts) := by
  have hword {d : Char} {ds : List Char} (hdigit : d.isDigit = false) (hpoint : d ≠ '.') :
      String.ofList ((w.digits.chars ++
        (w.exponent.map WrittenExponent.chars).getD []).map Char.toLower) ≠
          String.ofList (d :: ds) :=
    ofList_map_toLower_ne _ _ hdigit hpoint
  have hany : ¬(w.digits.whole.isEmpty = true ∧ (w.digits.fraction.getD []).isEmpty = true) := by
    rw [List.isEmpty_iff, List.isEmpty_iff]
    exact w.digits.hasDigit
  unfold ofChars?
  rw [NumericText.splitSign_spelling]
  dsimp only
  rw [if_neg (hword (by decide) (by decide)),
    if_neg (not_or.2 ⟨hword (by decide) (by decide), hword (by decide) (by decide)⟩),
    scanDigits_chars w.digits (head?_exponent_chars w.exponent)]
  dsimp only
  rw [if_neg hany, scanExponent?_chars]
  rfl

/-- What is read as a number in the general notation is read as the same number where it is cut at
the letter and at the point. -/
theorem ofChars?_eq_number_iff {cs : List Char} {t : NumericText} :
    ofChars? cs = some (.number t) ↔ NumericText.ofTrimmed? cs = some t := by
  rw [NumericText.ofTrimmed?_eq_some_iff]
  constructor
  · intro h
    obtain ⟨sign, hcs, hminus⟩ := NumericText.exists_sign cs
    unfold ofChars? at h
    rcases hscan : scanDigits (NumericText.splitSign cs).2 with ⟨⟨whole, fraction⟩, rest⟩
    simp only [hscan] at h
    split_ifs at h with hnan hinf hany
    · cases h
    · cases h
    obtain ⟨exponent, hexponent, ht⟩ := Option.map_eq_some_iff.1 h
    rw [List.isEmpty_iff, List.isEmpty_iff] at hany
    obtain ⟨digits, hdigits, hwhole, hfraction⟩ := exists_chars_eq_of_scanDigits hscan hany
    obtain ⟨x, hx, rfl⟩ := exists_chars_eq_of_scanExponent? hexponent
    refine ⟨⟨sign, digits, x⟩, ?_, ?_⟩
    · unfold Spelling.chars
      rw [hx, hdigits, hcs]
    · unfold Spelling.parts Spelling.fraction
      rw [hminus, hwhole, hfraction]
      injection ht
  · rintro ⟨w, rfl, rfl⟩
    exact ofChars?_chars w

end FloatText

namespace Spelling

/-! ## Signs -/

/-- What may stand next to each other: only a digit or the point follows a sign. -/
def MayPrecede (a b : Char) : Prop :=
  a = '+' ∨ a = '-' → b.isDigit = true ∨ b = '.'

/-- Characters that are no signs may precede anything. -/
theorem isChain_append_of_ne_sign {cs rest : List Char} (hcs : ∀ c ∈ cs, c ≠ '+' ∧ c ≠ '-')
    (hrest : rest.IsChain MayPrecede) : (cs ++ rest).IsChain MayPrecede := by
  induction cs with
  | nil => exact hrest
  | cons c cs ih =>
    have hnext : ∀ b ∈ (cs ++ rest).head?, MayPrecede c b := fun _ _ hsign =>
      (not_or.2 (hcs c List.mem_cons_self) hsign).elim
    exact List.isChain_cons.2 ⟨hnext, ih fun a ha => hcs a (List.mem_cons_of_mem c ha)⟩

/-- A sign may precede what begins with a digit or the point. -/
theorem isChain_sign_append (sign : Sign) {cs : List Char}
    (hhead : ∀ c ∈ cs.head?, c.isDigit = true ∨ c = '.') (hcs : cs.IsChain MayPrecede) :
    (sign.chars ++ cs).IsChain MayPrecede := by
  cases sign with
  | none => exact hcs
  | plus => exact List.isChain_cons.2 ⟨fun c hc _ => hhead c hc, hcs⟩
  | minus => exact List.isChain_cons.2 ⟨fun c hc _ => hhead c hc, hcs⟩

/-- In an exponent only digits follow a sign. -/
theorem isChain_exponent (x : WrittenExponent) : x.chars.IsChain MayPrecede := by
  have hdigits : x.digits.IsChain MayPrecede := by
    rw [← List.append_nil x.digits]
    exact isChain_append_of_ne_sign
      (fun c hc => NumericText.ne_sign_of_isDigit (x.isDigit_of_mem hc)) List.IsChain.nil
  have hletter : ∀ c ∈ [x.letter], c ≠ '+' ∧ c ≠ '-' := by
    intro c hc
    obtain rfl := List.mem_singleton.1 hc
    rcases x.isLetter with he | he <;> rw [he] <;> decide
  exact isChain_append_of_ne_sign hletter (isChain_sign_append x.sign
    (fun c hc => Or.inl (x.isDigit_of_mem (List.mem_of_mem_head? hc))) hdigits)

/-- In a spelling only a digit or the point follows a sign. -/
theorem isChain_chars (w : Spelling) : w.chars.IsChain MayPrecede := by
  have hexponent : ((w.exponent.map WrittenExponent.chars).getD []).IsChain MayPrecede := by
    cases w.exponent with
    | none => exact List.IsChain.nil
    | some x => exact isChain_exponent x
  have hdigits : ∀ c ∈ w.digits.chars, c ≠ '+' ∧ c ≠ '-' := by
    intro c hc
    rcases WrittenDigits.isDigit_or_eq_of_mem hc with hdigit | rfl
    · exact NumericText.ne_sign_of_isDigit hdigit
    · decide
  refine isChain_sign_append w.sign ?_ (isChain_append_of_ne_sign hdigits hexponent)
  intro c hc
  rw [List.head?_append_of_ne_nil _ w.digits.chars_ne_nil] at hc
  exact WrittenDigits.isDigit_or_eq_of_mem (List.mem_of_mem_head? hc)

/-- A spelling is read as the number of its sign that is nearest to what it denotes, unless that is
out of range. -/
theorem value?_parts_eq_some_iff {w : Spelling} {x : Binary64} :
    w.parts.value? = some x ↔
      Binary64.IsInRange w.denoted ∧ x.IsNearest w.denoted ∧ x.negative = w.sign.isMinus := by
  have hnearest {y : Binary64} (hy : w.parts.value? = some y) :
      y.IsNearest w.denoted ∧ y.negative = w.sign.isMinus := by
    unfold denoted
    rw [NumericText.denoted_eq]
    exact Binary64.isNearest_of_ofDecimal?_eq_some hy
  have hrange : Binary64.IsInRange w.denoted ↔ w.parts.value?.isSome = true := by
    rw [Binary64.isInRange_iff, NumericText.isSome_value?_iff]
    rfl
  rw [hrange]
  constructor
  · intro hx
    exact ⟨Option.isSome_of_eq_some hx, hnearest hx⟩
  · rintro ⟨hsome, hx, hnegative⟩
    obtain ⟨y, hy⟩ := Option.isSome_iff_exists.1 hsome
    obtain ⟨hynearest, hysign⟩ := hnearest hy
    rw [hy, hx.eq hynearest (hnegative.trans hysign.symm)]

end Spelling

namespace Json

/-- A text is read as a number exactly if it is the spelling of a rational in range, with white
space around it, and the number is the nearest one with the sign of the spelling. -/
theorem textNumber?_eq_some_iff {s : String} {x : Binary64} :
    textNumber? s = some x ↔
      ∃ w : Spelling, w.chars = Text.trim s.toList ∧ Binary64.IsInRange w.denoted ∧
        x.IsNearest w.denoted ∧ x.negative = w.sign.isMinus := by
  constructor
  · intro h
    obtain ⟨w, hw⟩ := Spelling.exists_of_isSome_textNumber? (Option.isSome_of_eq_some h)
    rw [Spelling.textNumber?_eq hw] at h
    exact ⟨w, hw, Spelling.value?_parts_eq_some_iff.1 h⟩
  · rintro ⟨w, hw, hx⟩
    rw [Spelling.textNumber?_eq hw]
    exact Spelling.value?_parts_eq_some_iff.2 hx

/-- A text is read as some number exactly if it is the spelling of a rational in range, with white
space around it. -/
theorem isSome_textNumber?_iff {s : String} :
    (textNumber? s).isSome = true ↔
      ∃ w : Spelling, w.chars = Text.trim s.toList ∧ Binary64.IsInRange w.denoted := by
  constructor
  · intro h
    obtain ⟨x, hx⟩ := Option.isSome_iff_exists.1 h
    obtain ⟨w, hw, hrange, -⟩ := textNumber?_eq_some_iff.1 hx
    exact ⟨w, hw, hrange⟩
  · rintro ⟨w, hw, hrange⟩
    rw [Binary64.isInRange_iff] at hrange
    rw [Spelling.textNumber?_eq hw]
    exact (NumericText.isSome_value?_iff w.parts).2 hrange

/-- A text is read in the general notation once it is known to be a number. -/
theorem textNumber?_eq_ofChars? (s : String) :
    textNumber? s =
      if (NumericText.ofText? s).isSome then
        (FloatText.ofChars? (Text.trim s.toList)).bind FloatText.value?
      else none := by
  unfold textNumber?
  cases ht : NumericText.ofText? s with
  | none => rfl
  | some t =>
    rw [if_pos Option.isSome_some, FloatText.ofChars?_eq_number_iff.2 ht]
    rfl

/-- **Numbers in texts.**  A text is read as a number exactly if without the white space around it
it is the spelling of one in the range, and then as the number nearest to what is spelled, which has
its sign.  Reading a text of the general notation once it is known to be a number comes to the same,
as every spelling is read there as a number.  Signs in a spelling stand alone, and besides them
there are only digits, the point and the letter. -/
theorem textNumber?_iff_spelling (s : String) :
    ((textNumber? s).isSome = true ↔
      ∃ w : Spelling, w.chars = Text.trim s.toList ∧ Binary64.IsInRange w.denoted) ∧
    (∀ x, textNumber? s = some x ↔
      ∃ w : Spelling, w.chars = Text.trim s.toList ∧ Binary64.IsInRange w.denoted ∧
        x.IsNearest w.denoted ∧ x.negative = w.sign.isMinus) ∧
    (textNumber? s =
      if (NumericText.ofText? s).isSome then
        (FloatText.ofChars? (Text.trim s.toList)).bind FloatText.value?
      else none) ∧
    ∀ w : Spelling, FloatText.ofChars? w.chars = some (.number w.parts) ∧
      w.chars.IsChain Spelling.MayPrecede ∧
      ∀ c ∈ w.chars, c.isDigit = true ∨ c ∈ ['+', '-', '.', 'e', 'E'] := by
  refine ⟨isSome_textNumber?_iff, fun x => textNumber?_eq_some_iff, textNumber?_eq_ofChars? s, ?_⟩
  intro w
  exact ⟨FloatText.ofChars?_chars w, w.isChain_chars, fun c hc => Spelling.isDigit_or_mem_of_mem hc⟩

/-- Words of the general notation are no numbers here, and a spelling may leave out the digits on
one side of the point. -/
example : textNumber? "inf" = none ∧
    (textNumber? "\t+.5e0 ").map Binary64.units = some (2 ^ 1073) := by
  decide +kernel

end Json

end FieldRules
