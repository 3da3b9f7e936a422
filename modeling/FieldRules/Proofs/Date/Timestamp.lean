import FieldRules.Proofs.Date.FixedWidth
import FieldRules.Proofs.Pattern.Digits
import FieldRules.Rules.Date

/-!
# Timestamps

The default template of the rule `date` is that of the date and time of ISO 8601 with an offset.
The texts that fit it are those of the timestamps (`Date.Format.isMatch_iso8601_iff`), whose days
are those of the calendar, by the lengths of the months (`Calendar.HasDay`).
-/

set_option autoImplicit false

namespace FieldRules

/-! ## Days of the calendar -/

namespace Calendar

/-- Whether a month of a year has a day: the months have 31 or 30 days, February has 28 and in leap
years one more. -/
inductive HasDay (year : Nat) : (month day : Nat) → Prop where
  | long {month day : Nat} (hmonth : month ∈ [1, 3, 5, 7, 8, 10, 12]) (hpos : 1 ≤ day)
      (hle : day ≤ 31) : HasDay year month day
  | short {month day : Nat} (hmonth : month ∈ [4, 6, 9, 11]) (hpos : 1 ≤ day)
      (hle : day ≤ 30) : HasDay year month day
  | february {day : Nat} (hpos : 1 ≤ day) (hle : day ≤ 28) : HasDay year 2 day
  | leapDay (hleap : 4 ∣ year ∧ ¬ 100 ∣ year ∨ 400 ∣ year) : HasDay year 2 29

/-- The leap years are those divisible by 4 and not by 100, or by 400. -/
theorem isLeapYear_iff (year : Nat) :
    isLeapYear year = true ↔ 4 ∣ year ∧ ¬ 100 ∣ year ∨ 400 ∣ year := by
  simp [isLeapYear, Nat.dvd_iff_mod_eq_zero]

/-- The long months have 31 days. -/
theorem daysInMonth_of_long (year : Nat) {month : Nat} (h : month ∈ [1, 3, 5, 7, 8, 10, 12]) :
    daysInMonth year month = 31 := by
  have hdays : ∀ month ∈ [1, 3, 5, 7, 8, 10, 12], daysInMonth year month = 31 := by
    simp [daysInMonth]
  exact hdays month h

/-- The short months have 30 days. -/
theorem daysInMonth_of_short (year : Nat) {month : Nat} (h : month ∈ [4, 6, 9, 11]) :
    daysInMonth year month = 30 := by
  have hdays : ∀ month ∈ [4, 6, 9, 11], daysInMonth year month = 30 := by simp [daysInMonth]
  exact hdays month h

/-- A month is long, short, February, or none. -/
theorem month_cases (year month : Nat) :
    month ∈ [1, 3, 5, 7, 8, 10, 12] ∨ month ∈ [4, 6, 9, 11] ∨ month = 2 ∨
      daysInMonth year month = 0 := by
  unfold daysInMonth
  split <;> simp

/-- The days that are accepted are those of the calendar. -/
theorem isDay_iff_hasDay (year month day : Nat) :
    isDay year month day = true ↔ HasDay year month day := by
  rw [isDay, decide_eq_true_eq]
  constructor
  · rintro ⟨hpos, hle⟩
    obtain hlong | hshort | rfl | hnone := month_cases year month
    · exact .long hlong hpos (daysInMonth_of_long year hlong ▸ hle)
    · exact .short hshort hpos (daysInMonth_of_short year hshort ▸ hle)
    · by_cases hfebruary : day ≤ 28
      · exact .february hpos hfebruary
      · rw [daysInMonth] at hle
        split at hle
        · rename_i hleap
          obtain rfl : day = 29 := by omega
          exact .leapDay ((isLeapYear_iff year).1 hleap)
        · omega
    · omega
  · intro h
    cases h with
    | long hmonth hpos hle => exact ⟨hpos, by rwa [daysInMonth_of_long year hmonth]⟩
    | short hmonth hpos hle => exact ⟨hpos, by rwa [daysInMonth_of_short year hmonth]⟩
    | february hpos hle =>
      refine ⟨hpos, ?_⟩
      rw [daysInMonth]
      split <;> omega
    | leapDay hleap =>
      rw [daysInMonth, if_pos ((isLeapYear_iff year).2 hleap)]
      decide

/-- The numbers of months and days have two digits. -/
theorem HasDay.bounds {year month day : Nat} (h : HasDay year month day) :
    (1 ≤ month ∧ month ≤ 12) ∧ 1 ≤ day ∧ day ≤ 31 := by
  cases h with
  | long hmonth hpos hle =>
    have hmonths : ∀ month ∈ [1, 3, 5, 7, 8, 10, 12], 1 ≤ month ∧ month ≤ 12 := by decide
    exact ⟨hmonths month hmonth, hpos, hle⟩
  | short hmonth hpos hle =>
    have hmonths : ∀ month ∈ [4, 6, 9, 11], 1 ≤ month ∧ month ≤ 12 := by decide
    exact ⟨hmonths month hmonth, by omega⟩
  | february hpos hle => omega
  | leapDay hleap => omega

end Calendar

namespace Date

open Pattern (CharSet TextRegex)
open Text (padded)

/-! ## Timestamps -/

/-- A day of the calendar and a time of the day, with an offset east or west of less than a day. -/
structure Timestamp where
  year : Nat
  month : Nat
  day : Nat
  hour : Nat
  minute : Nat
  second : Nat
  west : Bool
  offsetHour : Nat
  offsetMinute : Nat
  year_lt : year < 10000
  hasDay : Calendar.HasDay year month day
  hour_lt : hour < 24
  minute_lt : minute < 60
  second_lt : second < 60
  offsetHour_lt : offsetHour < 24
  offsetMinute_lt : offsetMinute < 60

namespace Timestamp

/-- The sign of the offset, the hours and the minutes. -/
def offsetText (west : Bool) (hour minute : Nat) : List Char :=
  (if west then '-' else '+') :: padded 2 hour ++ ':' :: padded 2 minute

/-- A timestamp as text: `YYYY-MM-DDThh:mm:ss` and then `+hh:mm` or `-hh:mm`. -/
def text (t : Timestamp) : List Char :=
  padded 4 t.year ++ '-' :: padded 2 t.month ++ '-' :: padded 2 t.day ++
    'T' :: padded 2 t.hour ++ ':' :: padded 2 t.minute ++ ':' :: padded 2 t.second ++
    offsetText t.west t.offsetHour t.offsetMinute

/-- The pieces of the text, one for each item of the template. -/
def pieces (t : Timestamp) : List (List Char) :=
  [padded 4 t.year, ['-'], padded 2 t.month, ['-'], padded 2 t.day, ['T'], padded 2 t.hour, [':'],
    padded 2 t.minute, [':'], padded 2 t.second, offsetText t.west t.offsetHour t.offsetMinute]

/-- The pieces of a timestamp are its text. -/
theorem flatten_pieces (t : Timestamp) : t.pieces.flatten = t.text := by
  simp [pieces, text]

end Timestamp

namespace Template

/-! ## Items -/

/-- The items of the template of ISO 8601. -/
theorem items_iso8601 : items iso8601 =
    [itemOf 'Y', .literal '-', itemOf 'm', .literal '-', itemOf 'd', .literal 'T', itemOf 'H',
      .literal ':', itemOf 'i', .literal ':', itemOf 's', itemOf 'P'] := by
  decide

/-- The texts that fit the item of a letter whose fragment stands for numbers. -/
theorem fits_itemOf_iff {r : TextRegex} {width : Nat} {p : Nat → Prop}
    (h : TextRegex.Writes r width p) {c : Char} {t : Token} (hc : token? c = some t)
    (hr : t.regex = r) (w : List Char) :
    (itemOf c).Fits w ↔ ∃ n, p n ∧ w = padded width n := by
  subst hr
  rw [itemOf, hc]
  exact (Token.isWord_iff (isSound_of_token? hc)).trans (h w)

/-- A year is four digits. -/
theorem fits_year (w : List Char) : (itemOf 'Y').Fits w ↔ ∃ n < 10000, w = padded 4 n :=
  fits_itemOf_iff (TextRegex.writes_repeated CharSet.holdsDigits_any 4 true) rfl rfl w

/-- A month is two digits, of a number from 1 to 12. -/
theorem fits_month (w : List Char) :
    (itemOf 'm').Fits w ↔ ∃ n, (1 ≤ n ∧ n ≤ 12) ∧ w = padded 2 n := by
  have hfromOne := CharSet.holdsDigits_range 1 9 (by decide) (by decide)
  have hupToTwo := CharSet.holdsDigits_range 0 2 (by decide) (by decide)
  have hlow := TextRegex.writes_pair (CharSet.holdsDigits_single 0 (by decide)) hfromOne
  have hhigh := TextRegex.writes_pair (CharSet.holdsDigits_single 1 (by decide)) hupToTwo
  exact fits_itemOf_iff ((hlow.alt hhigh).congr fun n => by omega) rfl rfl w

/-- A day is two digits, of a number from 1 to 31. -/
theorem fits_day (w : List Char) :
    (itemOf 'd').Fits w ↔ ∃ n, (1 ≤ n ∧ n ≤ 31) ∧ w = padded 2 n := by
  have hfromOne := CharSet.holdsDigits_range 1 9 (by decide) (by decide)
  have honeOrTwo := CharSet.holdsDigits_next 1 (by decide)
  have hzeroOrOne := CharSet.holdsDigits_next 0 (by decide)
  have hlow := TextRegex.writes_pair (CharSet.holdsDigits_single 0 (by decide)) hfromOne
  have hmiddle := TextRegex.writes_pair honeOrTwo CharSet.holdsDigits_any
  have hhigh := TextRegex.writes_pair (CharSet.holdsDigits_single 3 (by decide)) hzeroOrOne
  exact fits_itemOf_iff ((hlow.alt (hmiddle.alt hhigh)).congr fun n => by omega) rfl rfl w

/-- The pattern of an hour. -/
def hourFragment : TextRegex :=
  .altAll .empty
    [.seqAll [.step (.unions [.single '0', .single '1']), .step (.range '0' '9')],
      .seqAll [.step (.single '2'), .step (.range '0' '3')]]

/-- The pattern of a minute or a second. -/
def minuteFragment : TextRegex :=
  .seqAll [.step (.range '0' '5'), .step (.range '0' '9')]

/-- The fragment of an hour writes the numbers below 24 with two digits. -/
theorem writes_hour : TextRegex.Writes hourFragment 2 (· < 24) := by
  have hupToThree := CharSet.holdsDigits_range 0 3 (by decide) (by decide)
  have hzeroOrOne := CharSet.holdsDigits_next 0 (by decide)
  have hlow := TextRegex.writes_pair hzeroOrOne CharSet.holdsDigits_any
  have hhigh := TextRegex.writes_pair (CharSet.holdsDigits_single 2 (by decide)) hupToThree
  exact (hlow.alt hhigh).congr fun n => by omega

/-- The fragment of a minute or a second writes the numbers below 60 with two digits. -/
theorem writes_minute : TextRegex.Writes minuteFragment 2 (· < 60) := by
  have hupToFive := CharSet.holdsDigits_range 0 5 (by decide) (by decide)
  exact (TextRegex.writes_pair hupToFive CharSet.holdsDigits_any).congr fun n => by omega

/-- The texts that fit the offset have a sign, an hour and a minute. -/
theorem fits_offset (w : List Char) :
    (itemOf 'P').Fits w ↔
      ∃ west hour minute, (hour < 24 ∧ minute < 60) ∧
        w = Timestamp.offsetText west hour minute := by
  have hfits : (itemOf 'P').Fits w ↔
      TextRegex.HasWord (.seqAll [.step (.unions [.single '+', .single '-']), hourFragment,
        .step (.single ':'), .step (.range '0' '5'), .step (.range '0' '9')]) w :=
    Token.isWord_iff (isSound_of_token? (c := 'P') rfl)
  have hsign (c : Char) : CharSet.contains (.unions [.single '+', .single '-']) c = true ↔
      c = '+' ∨ c = '-' := by
    rw [← CharSet.contains_single_iff, ← CharSet.contains_single_iff, ← Bool.or_eq_true]
    rfl
  rw [hfits]
  constructor
  · rintro ⟨_, _, rfl, ⟨c, rfl, hc⟩, _, _, rfl, hhour, _, _, rfl, ⟨d, rfl, hd⟩, hminute⟩
    obtain ⟨h, hh, rfl⟩ := (writes_hour _).1 hhour
    obtain ⟨m, hm, rfl⟩ := (writes_minute _).1 hminute
    obtain rfl := (CharSet.contains_single_iff ':' d).1 hd
    obtain rfl | rfl := (hsign c).1 hc
    · exact ⟨false, h, m, ⟨hh, hm⟩, rfl⟩
    · exact ⟨true, h, m, ⟨hh, hm⟩, rfl⟩
  · rintro ⟨west, h, m, ⟨hh, hm⟩, rfl⟩
    have hc : (if west then '-' else '+') = '+' ∨ (if west then '-' else '+') = '-' := by
      cases west <;> simp
    exact ⟨[_], _, rfl, ⟨_, rfl, (hsign _).2 hc⟩, _, _, rfl, (writes_hour _).2 ⟨h, hh, rfl⟩,
      [':'], _, rfl, ⟨_, rfl, (CharSet.contains_single_iff _ _).2 rfl⟩,
      (writes_minute _).2 ⟨m, hm, rfl⟩⟩

/-! ## Splits -/

/-- The first pieces of a split are a date exactly if the calendar has the day that they write. -/
theorem isDate_iso8601_iff {year month day : Nat} (hyear : year < 10000) (hmonth : month ≤ 12)
    (hday : day ≤ 31) (dash dash' : List Char) (rest : List (List Char)) :
    IsDate (items iso8601)
        (padded 4 year :: dash :: padded 2 month :: dash' :: padded 2 day :: rest) ↔
      Calendar.HasDay year month day := by
  set pieces := padded 4 year :: dash :: padded 2 month :: dash' :: padded 2 day :: rest
  have hpieceYear : firstPiece? .year (items iso8601) pieces = some (padded 4 year) := by
    rw [items_iso8601]
    rfl
  have hpieceMonth : firstPiece? .month (items iso8601) pieces = some (padded 2 month) := by
    rw [items_iso8601]
    rfl
  have hpieceDay : firstPiece? .day (items iso8601) pieces = some (padded 2 day) := by
    rw [items_iso8601]
    rfl
  have hnumberYear : Template.year (items iso8601) pieces = year := by
    rw [Template.year, hpieceYear]
    exact Text.numeralValue_padded hyear
  rw [isDate_iff_of_firstPiece? hpieceDay hpieceMonth, hnumberYear,
    Text.numeralValue_padded (by omega), Text.numeralValue_padded (by omega),
    Calendar.isDay_iff_hasDay]

/-- The pieces of a text that are a date are those of a timestamp. -/
theorem isSplit_isDate_iso8601_iff (text : List Char) (pieces : List (List Char)) :
    IsSplit (items iso8601) text pieces ∧ IsDate (items iso8601) pieces ↔
      ∃ t : Timestamp, pieces = t.pieces ∧ text = t.text := by
  constructor
  · rintro ⟨⟨hfits, rfl⟩, hdate⟩
    rw [items_iso8601] at hfits
    -- The pieces are one for each of the letters and marks of the template, from the year on.
    obtain _ | ⟨fitsYear, _ | ⟨hdash, _ | ⟨fitsMonth, _ | ⟨hdash', _ | ⟨fitsDay, _ | ⟨hletter, _ |
      ⟨fitsHour, _ | ⟨hcolon, _ | ⟨fitsMinute, _ | ⟨hcolon', _ | ⟨fitsSecond, _ | ⟨fitsOffset, _ |
        _⟩⟩⟩⟩⟩⟩⟩⟩⟩⟩⟩⟩ := hfits
    obtain ⟨year, hyear, rfl⟩ := (fits_year _).1 fitsYear
    obtain ⟨month, hmonth, rfl⟩ := (fits_month _).1 fitsMonth
    obtain ⟨day, hday, rfl⟩ := (fits_day _).1 fitsDay
    obtain ⟨hour, hhour, rfl⟩ := (fits_itemOf_iff writes_hour rfl rfl _).1 fitsHour
    obtain ⟨minute, hminute, rfl⟩ := (fits_itemOf_iff writes_minute rfl rfl _).1 fitsMinute
    obtain ⟨second, hsecond, rfl⟩ := (fits_itemOf_iff writes_minute rfl rfl _).1 fitsSecond
    obtain ⟨west, offsetHour, offsetMinute, ⟨hoffsetHour, hoffsetMinute⟩, rfl⟩ :=
      (fits_offset _).1 fitsOffset
    rw [hdash, hdash', hletter, hcolon, hcolon'] at hdate ⊢
    rw [isDate_iso8601_iff hyear hmonth.2 hday.2] at hdate
    let t : Timestamp := ⟨year, month, day, hour, minute, second, west, offsetHour, offsetMinute,
      hyear, hdate, hhour, hminute, hsecond, hoffsetHour, hoffsetMinute⟩
    exact ⟨t, rfl, t.flatten_pieces⟩
  · rintro ⟨t, rfl, rfl⟩
    obtain ⟨hmonth, hday⟩ := t.hasDay.bounds
    refine ⟨⟨?_, t.flatten_pieces⟩, ?_⟩
    · rw [items_iso8601, Timestamp.pieces]
      simp only [List.forall₂_cons, List.forall₂_nil_left_iff, and_true]
      exact ⟨(fits_year _).2 ⟨_, t.year_lt, rfl⟩, rfl, (fits_month _).2 ⟨_, hmonth, rfl⟩, rfl,
        (fits_day _).2 ⟨_, hday, rfl⟩, rfl,
        (fits_itemOf_iff writes_hour rfl rfl _).2 ⟨_, t.hour_lt, rfl⟩, rfl,
        (fits_itemOf_iff writes_minute rfl rfl _).2 ⟨_, t.minute_lt, rfl⟩, rfl,
        (fits_itemOf_iff writes_minute rfl rfl _).2 ⟨_, t.second_lt, rfl⟩,
        (fits_offset _).2 ⟨_, _, _, ⟨t.offsetHour_lt, t.offsetMinute_lt⟩, rfl⟩⟩
    · exact (isDate_iso8601_iff t.year_lt hmonth.2 hday.2 _ _ _).2 t.hasDay

/-- All texts that fit an item of the template have the same length. -/
theorem width?_isSome_of_mem_items_iso8601 :
    ∀ item ∈ items iso8601, item.width?.isSome := by
  rw [items_iso8601]
  decide +kernel

end Template

namespace Format

/-- The template takes little room. -/
theorem exists_compile_iso8601 : ∃ f, compile Template.iso8601 = .ok f := by
  have hregex : Template.regex Template.iso8601 = TextRegex.anchored (.seqAll
      [.capture (some "year") (.repeated 4 (some 4) true (.step (.range '0' '9'))),
      .step (.single '-'),
      .capture (some "month") (.altAll .empty
        [.seqAll [.step (.single '0'), .step (.range '1' '9')],
          .seqAll [.step (.single '1'), .step (.range '0' '2')]]),
      .step (.single '-'),
      .capture (some "day") (.altAll .empty
        [.seqAll [.step (.single '0'), .step (.range '1' '9')],
          .seqAll [.step (.unions [.single '1', .single '2']), .step (.range '0' '9')],
          .seqAll [.step (.single '3'), .step (.unions [.single '0', .single '1'])]]),
      .step (.single 'T'), Template.hourFragment, .step (.single ':'), Template.minuteFragment,
      .step (.single ':'), Template.minuteFragment,
      .seqAll [.step (.unions [.single '+', .single '-']), Template.hourFragment,
        .step (.single ':'), .step (.range '0' '5'), .step (.range '0' '9')]]) := rfl
  have hfits : TextRegex.fits (Template.regex Template.iso8601) = true := by
    rw [hregex]
    cbv
  rw [compile_eq, if_pos hfits]
  exact ⟨_, rfl⟩

/-- The texts that fit the template are those of the timestamps. -/
theorem isMatch_iso8601_iff {f : Format} (h : compile Template.iso8601 = .ok f) (s : String) :
    f.isMatch s = true ↔ ∃ t : Timestamp, s.toList = t.text := by
  rw [isMatch_iff_isSplit h Template.width?_isSome_of_mem_items_iso8601]
  constructor
  · rintro ⟨pieces, hpieces⟩
    obtain ⟨t, -, htext⟩ := (Template.isSplit_isDate_iso8601_iff _ _).1 hpieces
    exact ⟨t, htext⟩
  · rintro ⟨t, htext⟩
    exact ⟨t.pieces, (Template.isSplit_isDate_iso8601_iff _ _).2 ⟨t, rfl, htext⟩⟩

end Format

end Date

/-! ## The rule -/

namespace Rules

open Date (Timestamp)

/-- Without a template that is a text the default one is taken. -/
theorem templateOf_eq_defaultFormat {args : Args}
    (h : ∀ template, args.get? "format" ≠ some (.string template)) :
    templateOf args = defaultFormat := by
  rw [templateOf]
  split
  · rename_i template htemplate
    exact absurd (Option.filter_eq_some_iff.1 htemplate).1 (h template)
  · rfl

/-- Without a template the rule passes the texts of timestamps and fails all others. -/
theorem date_iff_timestamp (s : String) {args : Args}
    (h : ∀ template, args.get? "format" ≠ some (.string template)) :
    (date (some (.string s)) args = .pass ↔ ∃ t : Timestamp, s.toList = t.text) ∧
      (date (some (.string s)) args = .fail ↔ ¬∃ t : Timestamp, s.toList = t.text) := by
  obtain ⟨f, hf⟩ := Date.Format.exists_compile_iso8601
  have hdate : date (some (.string s)) args = .ofBool (f.isMatch s) := by
    rw [date, templateOf_eq_defaultFormat h, defaultFormat, hf]
  rw [hdate, ← Date.Format.isMatch_iso8601_iff hf s]
  cases f.isMatch s <;> simp [Outcome.ofBool]

/-- A missing template is taken for the default one, which the leap day of a leap year fits. -/
theorem date_iff_timestamp_leap_day :
    date (some (.string "2024-02-29T10:00:00-05:30")) (.options [("format", .null)]) = .pass := by
  have hnull (template : String) :
      (Args.options [("format", .null)]).get? "format" ≠ some (.string template) := by
    rintro ⟨⟩
  let t : Timestamp := ⟨2024, 2, 29, 10, 0, 0, true, 5, 30, by decide, .leapDay (by decide),
    by decide, by decide, by decide, by decide, by decide⟩
  exact (date_iff_timestamp "2024-02-29T10:00:00-05:30" hnull).1.2 ⟨t, by decide⟩

end Rules

end FieldRules
