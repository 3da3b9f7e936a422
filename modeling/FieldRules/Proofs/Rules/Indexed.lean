import FieldRules.Proofs.Params.Interleaving
import FieldRules.Proofs.Rules.Options
import FieldRules.Proofs.Text.Cutting
import FieldRules.Request.Basic

/-!
# Lists and their entries

A list and the object that has its elements under their positions are different values, but the rule
`array` says the same of both, and so do paths that lead through an element
(`Rules.array_and_get?_indexed`).  Only where a key is written with a zero or a plus sign before the
numeral do they differ: then it denotes a position of the list and is no key of the object.
-/

set_option autoImplicit false

namespace FieldRules

/-! ## Keys that are no texts -/

namespace Number

/-- A fraction in positional notation has a point. -/
theorem point_mem_positional (digits : List Char) (places : Int) :
    '.' ∈ positional digits places := by
  unfold positional
  split <;> simp

/-- A number in scientific notation has the letter of its exponent. -/
theorem letter_mem_scientific (digits : List Char) (exponent : Int) :
    'e' ∈ scientific digits exponent := by
  unfold scientific
  split <;> simp

/-- The text of a floating-point number denotes no position: it has a point or an exponent. -/
theorem index?_renderFloat (x : Binary64) : Text.index? (renderFloat x) = none := by
  have hmem : '.' ∈ (renderFloat x).toList ∨ 'e' ∈ (renderFloat x).toList := by
    simp only [renderFloat, String.toList_ofList]
    split
    · split
      · exact Or.inl (List.mem_cons_of_mem _ (point_mem_positional _ _))
      · exact Or.inr (List.mem_cons_of_mem _ (letter_mem_scientific _ _))
    · split
      · exact Or.inl (point_mem_positional _ _)
      · exact Or.inr (letter_mem_scientific _ _)
  rcases hmem with hpoint | hletter
  · exact Text.index?_eq_none_of_mem hpoint (by decide) (by decide)
  · exact Text.index?_eq_none_of_mem hletter (by decide) (by decide)

/-- A number whose text is a position is written as a plain numeral. -/
theorem eq_numeral_of_index?_render {x : Number} {n : Nat}
    (h : Text.index? x.render = some n) : x.render = Text.numeral n := by
  cases x with
  | int x =>
    obtain ⟨val, hge, hlt⟩ := x
    cases val with
    | ofNat m =>
      have hnumeral : Text.index? (Text.numeral m) = some n := h
      rw [Text.eq_of_index?_numeral hnumeral]
      rfl
    | negSucc m =>
      have hminus : '-' ∈ ("-" ++ Text.numeral (m + 1)).toList := by simp
      have hnone : Text.index? ("-" ++ Text.numeral (m + 1)) = none :=
        Text.index?_eq_none_of_mem hminus (by decide) (by decide)
      exact absurd (hnone.symm.trans h) (by simp)
  | float x => exact absurd ((index?_renderFloat x).symm.trans h) (by simp)

end Number

namespace Rules

/-- A key of another kind than a text is the numeral of the position that it denotes. -/
theorem eq_numeral_of_keyText? {key : Json} {text : String} (htext : keyText? key = some text)
    (hkey : ∀ s, key = .string s → ¬Text.IsPrefixedNumeral s) {n : Nat}
    (h : Text.index? text = some n) : text = Text.numeral n := by
  cases key with
  | string s =>
    obtain rfl := Option.some.inj htext
    exact Text.eq_numeral_of_index? h (hkey s rfl)
  | number x =>
    obtain rfl := Option.some.inj htext
    exact Number.eq_numeral_of_index?_render h
  | bool b =>
    cases b with
    | false =>
      obtain rfl := Option.some.inj htext
      show Text.numeral 0 = Text.numeral n
      rw [Text.eq_of_index?_numeral (show Text.index? (Text.numeral 0) = some n from h)]
    | true =>
      obtain rfl := Option.some.inj htext
      show Text.numeral 1 = Text.numeral n
      rw [Text.eq_of_index?_numeral (show Text.index? (Text.numeral 1) = some n from h)]
  | null | array _ | object _ => cases htext

/-! ## The rule -/

section Array

variable {items : List Json}

/-- A list and the object of its positions have the same keys that are plain. -/
theorem holdsKey_indexed (hlength : items.length ≤ Text.wordBound) {key : Json}
    (hkey : ∀ s, key = .string s → ¬Text.IsPrefixedNumeral s) :
    holdsKey (.array items) key = holdsKey (.object (Json.indexed items)) key := by
  unfold holdsKey
  cases htext : keyText? key with
  | none => rfl
  | some text =>
    have hget : Entries.get? text (Json.indexed items) =
        (Text.index? text).bind (items[·]?) :=
      Json.get?_indexed_eq_bind (fun _ => eq_numeral_of_keyText? htext hkey) hlength
    simp only [element?, hget]

example : holdsKey (.array [.null, .bool true]) (.string "01") = true ∧
    holdsKey (.object (Json.indexed [.null, .bool true])) (.string "01") = false := by decide

/-- Whether none of the keys asked for is a numeral with a zero or a plus sign before it. -/
def AsksPlainKeys (args : Args) : Prop :=
  ∀ keys, args.getSet? "has" = some (.array keys) →
    ∀ s, Json.string s ∈ keys → ¬Text.IsPrefixedNumeral s

/-- The option for keys says the same of a list and of the object of its positions. -/
theorem verdict_has_indexed (hlength : items.length ≤ Text.wordBound) {args : Args}
    (hargs : AsksPlainKeys args) :
    args.verdict "has" listItems? (fun keys => keys.any (holdsKey (.array items))) =
      args.verdict "has" listItems?
        fun keys => keys.any (holdsKey (.object (Json.indexed items))) := by
  unfold Args.verdict
  cases hhas : args.getSet? "has" with
  | none => rfl
  | some raw =>
    cases raw with
    | array keys =>
      have hany : keys.any (holdsKey (.array items)) =
          keys.any (holdsKey (.object (Json.indexed items))) := by
        rw [Bool.eq_iff_iff, List.any_eq_true, List.any_eq_true]
        apply exists_congr
        intro key
        apply and_congr_right
        intro hmem
        rw [holdsKey_indexed hlength]
        rintro s rfl
        exact hargs keys hhas s hmem
      simp only [listItems?, hany]
    | null | bool _ | number _ | string _ | object _ => rfl

/-- The rule for arrays says the same of a list and of the object of its positions. -/
theorem array_indexed (hlength : items.length ≤ Text.wordBound) {args : Args}
    (hargs : AsksPlainKeys args) :
    array (some (.array items)) args = array (some (.object (Json.indexed items))) args := by
  simp only [array, elementCount?, Json.length_indexed, verdict_has_indexed hlength hargs]

end Array

end Rules

/-! ## Paths through an element -/

namespace Path

/-- The first segment of a dotted path is what stands before the first dot. -/
theorem ofText_append {name : String} (h : '.' ∉ name.toList) (path : String) :
    ofText (name ++ "." ++ path) = name :: ofText path := by
  have htext : (name ++ "." ++ path).toList = name.toList ++ '.' :: path.toList := by simp
  rw [ofText, htext, Text.splitOn_append, Text.splitOn_of_notMem h]
  simp [ofText]

/-- A path without dots is one segment. -/
theorem ofText_of_notMem {name : String} (h : '.' ∉ name.toList) : ofText name = [name] := by
  rw [ofText, Text.splitOn_of_notMem h]
  simp

/-- The paths to and through an element. -/
def throughElement (n : Nat) (below : String) : List String :=
  [Text.numeral n, Text.numeral n ++ "." ++ below]

/-- A path through an element begins with its position. -/
theorem exists_ofText_throughElement {n : Nat} {below path : String}
    (h : path ∈ throughElement n below) : ∃ rest, ofText path = Text.numeral n :: rest := by
  have hpoint : '.' ∉ (Text.numeral n).toList := by
    intro hmem
    exact absurd (Text.isDigit_of_mem_numeral hmem) (by decide)
  rcases List.mem_pair.1 h with rfl | rfl
  · exact ⟨[], ofText_of_notMem hpoint⟩
  · exact ⟨ofText below, ofText_append hpoint below⟩

/-- A path through a position leads to the same in a list and in the object of its positions. -/
theorem get?_indexed {items : List Json} (hlength : items.length ≤ Text.wordBound) (n : Nat)
    (rest : Path) :
    get? (Text.numeral n :: rest) (.array items) =
      get? (Text.numeral n :: rest) (.object (Json.indexed items)) := by
  have hkey (m : Nat) (h : Text.index? (Text.numeral n) = some m) :
      Text.numeral n = Text.numeral m := by
    rw [Text.eq_of_index?_numeral h]
  simp only [get?, child?, Json.get?_indexed_eq_bind hkey hlength]

end Path

/-! ## Pairs that append and pairs with positions -/

namespace Params

/-- The pairs that append values to the container under a head. -/
def appending (head : String) (values : List String) : List (String × String) :=
  values.map fun value => (BracketKey.written head [""], value)

/-- The pairs that write values under their positions. -/
def positioned (head : String) (values : List String) : List (String × String) :=
  values.zipIdx.map fun p => (BracketKey.written head [Text.numeral p.2], p.1)

/-- The pairs that append, as additions. -/
theorem appending_eq (head : String) (values : List String) :
    appending head values = (values.map Addition.append).map (·.pair head) := by
  rw [appending, List.map_map]
  rfl

/-- The values under their positions, as additions. -/
def positions (values : List String) : List Addition :=
  values.zipIdx.map fun p => .named (Text.numeral p.2) p.1

/-- The pairs that give positions, as additions. -/
theorem positioned_eq (head : String) (values : List String) :
    positioned head values = (positions values).map (·.pair head) := by
  rw [positioned, positions, List.map_map]
  rfl

/-- One more value gets the next position. -/
theorem positions_concat (values : List String) (value : String) :
    positions (values ++ [value]) =
      positions values ++ [.named (Text.numeral values.length) value] := by
  simp [positions, List.zipIdx_append]

/-- Values that are only appended make a list. -/
theorem collected_append (values : List String) :
    collected (values.map .append) =
      if values = [] then .null else .array (values.map .string) := by
  induction values using List.reverseRecOn with
  | nil => rfl
  | append_singleton values value ih =>
    rw [List.map_append, List.map_singleton, collected_concat, ih]
    by_cases hsome : values = []
    · subst hsome
      rfl
    · simp [hsome, assign, Addition.segment, Addition.value]

/-- Values with their positions make the object of the positions. -/
theorem collected_positions (values : List String) :
    collected (positions values) =
      if values = [] then .null else .object (Json.indexed (values.map .string)) := by
  induction values using List.reverseRecOn with
  | nil => rfl
  | append_singleton values value ih =>
    have hnew : Text.numeral values.length ∉
        Entries.keys (Json.indexed (values.map Json.string)) := by
      rw [Json.numeral_mem_keys_indexed_iff, List.length_map]
      exact lt_irrefl _
    have hentries : entriesOf (collected (positions values)) =
        Json.indexed (values.map Json.string) := by
      rw [ih]
      split
      · rename_i hnil
        subst hnil
        rfl
      · rfl
    rw [positions_concat, collected_concat, Addition.segment, Addition.value, assign, hentries,
      List.map_append, List.map_singleton, Json.indexed_append_singleton, List.length_map,
      Entries.insert_of_notMem _ hnew]
    simp [assign]

/-- Appended values make a list, values under their positions make the object of its entries. -/
theorem ofPairs_appending {head : String} (hne : head ≠ "") (hhead : '[' ∉ head.toList)
    (values : List String) :
    ofPairs (appending head values) =
      .object (if values = [] then [] else [(head, .array (values.map .string))]) := by
  have hnames : ∀ p ∈ named (values.map Addition.append), p.1 ≠ "" ∧ ']' ∉ p.1.toList := by
    simp [named]
  rw [appending_eq, ofPairs_additions hne hhead _ hnames, collected_append]
  by_cases hsome : values = [] <;> simp [hsome]

/-- The parameters that pairs with positions make. -/
theorem ofPairs_positioned {head : String} (hne : head ≠ "") (hhead : '[' ∉ head.toList)
    (values : List String) :
    ofPairs (positioned head values) =
      .object
        (if values = [] then [] else [(head, .object (Json.indexed (values.map .string)))]) := by
  have hnames : ∀ p ∈ named (positions values), p.1 ≠ "" ∧ ']' ∉ p.1.toList := by
    intro p hp
    obtain ⟨a, ha, hname⟩ := List.mem_filterMap.1 hp
    obtain ⟨q, -, rfl⟩ := List.mem_map.1 ha
    obtain rfl := Option.some.inj hname
    constructor
    · intro hempty
      have hnumeral := Text.isNumeral_numeral q.2
      rw [show Text.numeral q.2 = "" from hempty] at hnumeral
      cases hnumeral
    · intro hmem
      exact absurd (Text.isDigit_of_mem_numeral hmem) (by decide)
  rw [positioned_eq, ofPairs_additions hne hhead _ hnames, collected_positions]
  by_cases hsome : values = [] <;> simp [hsome, positions]

end Params

namespace Rules

open Params (appending positioned)

/-- **Lists and their entries.**  Take a list that a word can count, and the object that has its
elements under the numerals of their positions.  The rule `array` says the same of both, as long as
no key that it is asked for has a zero or a plus sign before a numeral, and paths through an element
read the same in both.  So pairs that append values and pairs that write them under their positions
make requests on which `array` and all rules on elements come to the same outcomes. -/
theorem array_and_get?_indexed (items : List Json) (hlength : items.length ≤ Text.wordBound) :
    (∀ args, AsksPlainKeys args →
        array (some (.array items)) args = array (some (.object (Json.indexed items))) args) ∧
      (∀ n below, ∀ path ∈ Path.throughElement n below,
        Path.get? (.ofText path) (.array items) =
          Path.get? (.ofText path) (.object (Json.indexed items))) ∧
      ∀ (source : ParamSource) (head : String) (values : List String),
        items = values.map .string → head ≠ "" → '[' ∉ head.toList → '.' ∉ head.toList →
        let listed := (Request.ofParams source (Params.ofPairs (appending head values))).toValidator
        let keyed := (Request.ofParams source (Params.ofPairs (positioned head values))).toValidator
        (∀ args, AsksPlainKeys args →
            (listed.checkPath head "array" args).result =
              (keyed.checkPath head "array" args).result) ∧
          ∀ n below, ∀ path ∈ Path.throughElement n below, ∀ rule args,
            listed.checkPath (head ++ "." ++ path) rule args =
              keyed.checkPath (head ++ "." ++ path) rule args := by
  have hpath (n : Nat) (below path : String) (h : path ∈ Path.throughElement n below) :
      Path.get? (.ofText path) (.array items) =
        Path.get? (.ofText path) (.object (Json.indexed items)) := by
    obtain ⟨rest, hrest⟩ := Path.exists_ofText_throughElement h
    rw [hrest]
    exact Path.get?_indexed hlength n rest
  refine ⟨fun args => array_indexed hlength, hpath, ?_⟩
  rintro source head values rfl hne hhead hpoint listed keyed
  have hlisted : listed.data = .object
      (if values = [] then [] else [(head, .array (values.map .string))]) :=
    Params.ofPairs_appending hne hhead values
  have hkeyed : keyed.data = .object
      (if values = [] then [] else [(head, .object (Json.indexed (values.map .string)))]) :=
    Params.ofPairs_positioned hne hhead values
  constructor
  · intro args hargs
    show array (Path.get? (.ofText head) listed.data) args =
      array (Path.get? (.ofText head) keyed.data) args
    rw [hlisted, hkeyed, Path.ofText_of_notMem hpoint]
    by_cases hsome : values = []
    · simp [hsome, Path.get?, Path.child?, Entries.get?]
    · simpa [hsome, Path.get?, Path.child?, Entries.get?] using array_indexed hlength hargs
  · intro n below path hmem rule args
    -- the two validators differ only in the value that they look at
    show listed.check rule (Path.get? (.ofText (head ++ "." ++ path)) listed.data) args =
      listed.check rule (Path.get? (.ofText (head ++ "." ++ path)) keyed.data) args
    rw [hlisted, hkeyed, Path.ofText_append hpoint]
    by_cases hsome : values = []
    · simp [hsome]
    · simp [hsome, Path.get?, Path.child?, Entries.get?, hpath n below path hmem]

/-- The queries `a[]=x&a[]=y` and `a[0]=x&a[1]=y`, with a key that only looks like a numeral. -/
theorem array_and_get?_indexed_queries :
    let args : Args := .options [("has", .array [.string "01x", .bool true])]
    let listed := (Request.ofQuery "a[]=x&a[]=y").toValidator
    let keyed := (Request.ofQuery "a[0]=x&a[1]=y").toValidator
    [Json.string "x", .string "y"].length ≤ Text.wordBound ∧ AsksPlainKeys args ∧
      (listed.checkPath "a" "array" args).result = (keyed.checkPath "a" "array" args).result ∧
      listed.checkPath "a.1" "string" .empty = keyed.checkPath "a.1" "string" .empty := by
  intro args listed keyed
  have hlength : [Json.string "x", .string "y"].length ≤ Text.wordBound := by decide
  have hargs : AsksPlainKeys args := by
    intro keys hkeys s hs
    obtain rfl : [Json.string "01x", .bool true] = keys := by cases hkeys; rfl
    obtain rfl : s = "01x" := by simpa using hs
    rintro ⟨digits, hdigits, hzero | hplus⟩
    · obtain rfl : ['1', 'x'] = digits := (List.cons.inj hzero).2
      exact absurd hdigits (by decide)
    · exact absurd (List.cons.inj hplus).1 (by decide)
  have hlisted : UrlEncoded.pairs (Utf8.encode (Request.dropQuestionMark "a[]=x&a[]=y".toList)) =
      appending "a" ["x", "y"] := by decide +kernel
  have hkeyed : UrlEncoded.pairs (Utf8.encode (Request.dropQuestionMark "a[0]=x&a[1]=y".toList)) =
      positioned "a" ["x", "y"] := by decide +kernel
  obtain ⟨-, -, hpairs⟩ := array_and_get?_indexed [.string "x", .string "y"] hlength
  obtain ⟨harray, hbelow⟩ :=
    hpairs .query "a" ["x", "y"] rfl (by decide) (by decide) (by decide)
  rw [← hlisted, ← hkeyed] at harray hbelow
  refine ⟨hlength, hargs, harray args hargs, ?_⟩
  exact hbelow 1 "" "1" List.mem_cons_self "string" .empty

end Rules

end FieldRules
