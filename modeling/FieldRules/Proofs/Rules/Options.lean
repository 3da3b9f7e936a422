import FieldRules.Proofs.Positions
import FieldRules.Rules.Builtin

/-!
# The options that rules read

A built-in rule other than `in` reads its arguments by the names of options, and no such name is a
list position.  So what these rules say depends only on the options of that kind
(`Rules.eq_of_sameOptions`), and a list of arguments is to them as good as no arguments
(`Args.sameOptions_list_empty`).
-/

set_option autoImplicit false

namespace FieldRules

/-- Whether a text can be the name of an option: it denotes no list position, and is no numeral. -/
def Text.IsName (key : String) : Prop :=
  index? key = none ∧ isNumeral key.toList = false

instance (key : String) : Decidable (Text.IsName key) :=
  inferInstanceAs (Decidable (_ ∧ _))

/-- No position of a list is a name. -/
theorem Json.get?_indexed_of_isName {key : String} (h : Text.IsName key) (items : List Json) :
    Entries.get? key (indexed items) = none := by
  rw [Entries.get?_eq_none_iff, keys_indexed, List.mem_map]
  rintro ⟨n, -, rfl⟩
  have hnumeral := Text.isNumeral_numeral n
  rw [h.2] at hnumeral
  cases hnumeral

/-- What an option says once it has been read, or could not be. -/
def Verdict.ofRead {α : Type} (read : Option α) (holds : α → Bool) : Verdict :=
  match read with
  | none => .malformed
  | some x => if holds x then .satisfied else .violated

/-- An option that is read is satisfied or violated. -/
theorem Verdict.ofRead_some {α : Type} (x : α) (holds : α → Bool) :
    ofRead (some x) holds = if holds x then .satisfied else .violated :=
  rfl

namespace Args

/-- Whether two arguments have the same options under all names. -/
def SameOptions (a b : Args) : Prop :=
  ∀ key, Text.IsName key → a.get? key = b.get? key

/-- A list of arguments has no option with a name. -/
theorem get?_list_of_isName {key : String} (h : Text.IsName key) (items : List Json) :
    (list items).get? key = none := by
  rw [get?, h.1]
  rfl

/-- A list has no options under names. -/
theorem sameOptions_list_empty (items : List Json) : SameOptions (.list items) .empty :=
  fun _ hkey => get?_list_of_isName hkey items

/-- Taking arguments as options keeps those with a name. -/
theorem get?_toOptions_of_isName {key : String} (h : Text.IsName key) (args : Args) :
    Entries.get? key args.toOptions = args.get? key := by
  cases args with
  | options entries => rfl
  | list items => rw [get?_list_of_isName h, toOptions, Json.get?_indexed_of_isName h]

/-- Setting an option leaves all others as they are. -/
theorem get?_set_of_isName {key : String} (h : Text.IsName key) (args : Args) (name : String)
    (value : Json) :
    (args.set name value).get? key = if key = name then some value else args.get? key := by
  rw [Args.set, get?, Entries.get?_insert, get?_toOptions_of_isName h]

/-- An option that is set is there. -/
theorem getSet?_set_self {name : String} (h : Text.IsName name) (args : Args) {value : Json}
    (hvalue : value.isNull = false) : (args.set name value).getSet? name = some value := by
  unfold getSet?
  rw [get?_set_of_isName h, if_pos rfl, Option.filter_some_pos (by simp [hvalue])]

/-- Setting an option leaves the others as they are. -/
theorem getSet?_set_of_ne {key name : String} (h : Text.IsName key) (hne : key ≠ name)
    (args : Args) (value : Json) : (args.set name value).getSet? key = args.getSet? key := by
  unfold getSet?
  rw [get?_set_of_isName h, if_neg hne]

section Verdict

variable {α : Type} {args : Args} {key : String}

/-- An option that is missing or null asks nothing. -/
theorem verdict_of_getSet?_eq_none (h : args.getSet? key = none) (read : Json → Option α)
    (holds : α → Bool) : args.verdict key read holds = .satisfied := by
  rw [verdict, h]

/-- An option that is there asks what is read from it. -/
theorem verdict_eq_ofRead {raw : Json} (h : args.getSet? key = some raw) (read : Json → Option α)
    (holds : α → Bool) : args.verdict key read holds = .ofRead (read raw) holds := by
  rw [verdict, h]
  rfl

/-- An option that can be read asks what it says. -/
theorem verdict_of_getSet?_eq_some {raw : Json} (h : args.getSet? key = some raw)
    {read : Json → Option α} {x : α} (hread : read raw = some x) (holds : α → Bool) :
    args.verdict key read holds = if holds x then .satisfied else .violated := by
  rw [verdict_eq_ofRead h, hread, Verdict.ofRead_some]

/-- Setting an option changes what it says itself. -/
theorem verdict_set (hkey : Text.IsName key) {raw : Json} (hraw : raw.isNull = false)
    (name : String) (read : Json → Option α) (holds : α → Bool) :
    (args.set name raw).verdict key read holds =
      if key = name then .ofRead (read raw) holds else args.verdict key read holds := by
  split
  · rename_i heq
    subst heq
    exact verdict_eq_ofRead (getSet?_set_self hkey args hraw) read holds
  · rename_i hne
    unfold verdict
    rw [getSet?_set_of_ne hkey hne]

/-- What is set does not change what the other options say. -/
theorem verdict_set_congr_of_ne (hkey : Text.IsName key) {name : String} (hne : key ≠ name)
    {raw raw' : Json} (hraw : raw.isNull = false) (hraw' : raw'.isNull = false)
    (read : Json → Option α) (holds : α → Bool) :
    (args.set name raw).verdict key read holds = (args.set name raw').verdict key read holds := by
  rw [verdict_set hkey hraw, verdict_set hkey hraw', if_neg hne, if_neg hne]

end Verdict

namespace SameOptions

variable {a b : Args}

/-- Arguments with the same options keep them as both get one more. -/
theorem set (h : SameOptions a b) (name : String) (value : Json) :
    SameOptions (a.set name value) (b.set name value) := by
  intro key hkey
  rw [get?_set_of_isName hkey, get?_set_of_isName hkey, h key hkey]

/-- Arguments with the same options have the same values of them. -/
theorem getSet? (h : SameOptions a b) {key : String} (hkey : Text.IsName key) :
    a.getSet? key = b.getSet? key := by
  unfold Args.getSet?
  rw [h key hkey]

/-- Arguments with the same options have the same verdicts. -/
theorem verdict {α : Type} (h : SameOptions a b) {key : String} (hkey : Text.IsName key)
    (read : Json → Option α) (holds : α → Bool) :
    a.verdict key read holds = b.verdict key read holds := by
  unfold Args.verdict
  rw [h.getSet? hkey]

end SameOptions

end Args

namespace Rules

/-- Whether the names of three bounds are names of options. -/
def BoundNames.AreNames (names : BoundNames) : Prop :=
  Text.IsName names.most ∧ Text.IsName names.least ∧ Text.IsName names.exact

variable {a b : Args}

/-- The bounds depend on the options of the arguments only. -/
theorem BoundNames.verdicts_congr {names : BoundNames} (hnames : names.AreNames)
    (h : a.SameOptions b) (count : Nat) : names.verdicts a count = names.verdicts b count := by
  obtain ⟨hmost, hleast, hexact⟩ := hnames
  have hreadable : [names.most, names.least, names.exact].all (readable a) =
      [names.most, names.least, names.exact].all (readable b) := by
    simp [readable, h.verdict hmost, h.verdict hleast, h.verdict hexact]
  simp only [BoundNames.verdicts, hreadable, h.verdict hmost, h.verdict hleast, h.verdict hexact]

/-- The rule `numeric` depends on the options only. -/
theorem numeric_congr (h : a.SameOptions b) (value : Option Json) :
    numeric value a = numeric value b := by
  have hmax : Text.IsName "max" := by decide
  have hmin : Text.IsName "min" := by decide
  have hdecimals : Text.IsName "decimals" := by decide
  simp only [numeric, h.verdict hmax, h.verdict hmin, h.verdict hdecimals]

/-- The rule `number` depends on the options only. -/
theorem number_congr (h : a.SameOptions b) (value : Option Json) :
    number value a = number value b := by
  unfold number
  split
  · exact numeric_congr h _
  · rfl

/-- The rule `integer` depends on the options only. -/
theorem integer_congr (h : a.SameOptions b) (value : Option Json) :
    integer value a = integer value b := by
  unfold integer
  split
  · exact numeric_congr (h.set "decimals" _) _
  · rfl

/-- The rule `string` depends on the options only. -/
theorem text_congr (h : a.SameOptions b) (value : Option Json) : text value a = text value b := by
  have hbounds : lengthBounds.AreNames := ⟨by decide, by decide, by decide⟩
  have hencoding : Text.IsName "encoding" := by decide
  have hmatches : Text.IsName "matches" := by decide
  simp only [text, encodingOf?, h.getSet? hencoding, h.verdict hmatches,
    BoundNames.verdicts_congr hbounds h]

/-- The rule `array` depends on the options only. -/
theorem array_congr (h : a.SameOptions b) (value : Option Json) :
    array value a = array value b := by
  have hbounds : countBounds.AreNames := ⟨by decide, by decide, by decide⟩
  have hhas : Text.IsName "has" := by decide
  have hempty : Text.IsName "empty" := by decide
  simp only [array, h.verdict hhas, h.verdict hempty, BoundNames.verdicts_congr hbounds h]

/-- The rule `ip` depends on the options only. -/
theorem ip_congr (h : a.SameOptions b) (value : Option Json) : ip value a = ip value b := by
  have hipv6 : Text.IsName "ipv6" := by decide
  simp only [ip, h.getSet? hipv6]

/-- The rule `date` depends on the options only. -/
theorem date_congr (h : a.SameOptions b) (value : Option Json) : date value a = date value b := by
  have hformat : Text.IsName "format" := by decide
  simp only [date, templateOf, h.getSet? hformat]

/-- **What built-in rules read.**  What a built-in rule other than `in` says of a value depends only
on the options of its arguments. -/
theorem eq_of_sameOptions {name : String} {rule : Rule} (hrule : builtin? name = some rule)
    (hname : name ≠ "in") (h : a.SameOptions b) (value : Option Json) :
    rule value a = rule value b := by
  have hmem : (name, rule) ∈ builtins := Entries.mem_of_get? hrule
  simp only [builtins, List.mem_cons, Prod.mk.injEq, List.not_mem_nil, or_false] at hmem
  rcases hmem with ⟨-, rfl⟩ | ⟨-, rfl⟩ | ⟨-, rfl⟩ | ⟨-, rfl⟩ | ⟨-, rfl⟩ | ⟨rfl, -⟩ | ⟨-, rfl⟩ |
    ⟨-, rfl⟩ | ⟨-, rfl⟩ | ⟨-, rfl⟩
  · exact integer_congr h value
  · exact number_congr h value
  · exact numeric_congr h value
  · exact text_congr h value
  · exact array_congr h value
  · exact absurd rfl hname
  · rfl
  · rfl
  · exact ip_congr h value
  · exact date_congr h value

end Rules

end FieldRules
