import FieldRules.Proofs.Params.Append
import FieldRules.Proofs.Params.Filled
import Mathlib

/-!
# Values that are appended between named ones

Pairs that append to a container, such as `a[]=x`, may stand in any order with pairs that write
under names, such as `a[k]=y`.  The container is a list until the first name comes and an object
from then on, where the next index is taken from the keys and no longer from the length.  Either way
the appended values get the numbers from zero on, and where the names stand between them does not
matter (`Params.mem_entriesOf_additions_iff`).
-/

set_option autoImplicit false

namespace FieldRules

namespace Params

/-- What one pair adds to the container under a head. -/
inductive Addition where
  /-- A value that is appended. -/
  | append (value : String)
  /-- A value under a name. -/
  | named (name value : String)

namespace Addition

def value : Addition → String
  | .append value => value
  | .named _ value => value

def segment : Addition → Segment
  | .append _ => .append
  | .named name _ => .named name

/-- The pair that makes the addition: its key has the head and one pair of brackets, which are empty
where the value is appended. -/
def pair (head : String) : Addition → String × String
  | .append value => (BracketKey.written head [""], value)
  | .named name value => (BracketKey.written head [name], value)

end Addition

/-- The values that are appended, in order. -/
def appended (additions : List Addition) : List String :=
  additions.filterMap fun
    | .append value => some value
    | .named _ _ => none

/-- The names that are written, with their values, in order. -/
def named (additions : List Addition) : List (String × String) :=
  additions.filterMap fun
    | .append _ => none
    | .named name value => some (name, value)

/-- One more addition comes last among the appended values, if it appends. -/
theorem appended_concat (additions : List Addition) (a : Addition) :
    appended (additions ++ [a]) = appended additions ++ appended [a] :=
  List.filterMap_append

/-- One more addition comes last among the names, if it has one. -/
theorem named_concat (additions : List Addition) (a : Addition) :
    named (additions ++ [a]) = named additions ++ named [a] :=
  List.filterMap_append

/-- What a container is to hold: the appended values under their numbers, and under each name the
value that was given last, which is the first one here. -/
def held (values : List String) (names : List (String × String)) : Entries Json :=
  Json.indexed (values.map .string) ++ Entries.mapValues (fun _ => .string) names.reverse

/-- Whether names are the numerals of no numbers that a word holds. -/
def NoIndex (names : List (String × String)) : Prop :=
  ∀ p ∈ names, ∀ n < Text.wordBound, p.1 ≠ Text.numeral n

/-! ## What a key holds -/

/-- A key leads to an appended value, or else to what its name was given last. -/
theorem get?_held (values : List String) (names : List (String × String)) (key : String) :
    Entries.get? key (held values names) =
      (Entries.get? key (Json.indexed (values.map .string))).or
        ((Entries.get? key names.reverse).map .string) := by
  unfold held
  rw [Entries.get?_append, Entries.get?_mapValues]

/-- One more value that is appended is found under the next number. -/
theorem get?_held_append (values : List String) (names : List (String × String))
    (value key : String) :
    Entries.get? key (held (values ++ [value]) names) =
      if key = Text.numeral values.length then some (.string value)
      else Entries.get? key (held values names) := by
  have hindexed : Json.indexed ((values ++ [value]).map .string) =
      Json.indexed (values.map .string) ++ [(Text.numeral values.length, .string value)] := by
    rw [List.map_append, List.map_singleton, Json.indexed_append_singleton, List.length_map]
  rw [get?_held, get?_held, hindexed, Entries.get?_append]
  by_cases h : key = Text.numeral values.length
  · have hnone : Entries.get? key (Json.indexed (values.map .string)) = none := by
      rw [h, Entries.get?_eq_none_iff, Json.numeral_mem_keys_indexed_iff, List.length_map]
      exact lt_irrefl _
    rw [hnone, if_pos h]
    simp [Entries.get?, h]
  · have h' : ¬Text.numeral values.length = key := fun e => h e.symm
    rw [if_neg h]
    simp [Entries.get?, h']

/-- A name that is no index is no position of a list that a word can count. -/
theorem get?_indexed_eq_none {key : String} (h : ∀ n < Text.wordBound, key ≠ Text.numeral n)
    {items : List Json} (hlength : items.length ≤ Text.wordBound) :
    Entries.get? key (Json.indexed items) = none := by
  rw [Entries.get?_eq_none_iff, Json.keys_indexed, List.mem_map]
  rintro ⟨n, hn, hkey⟩
  rw [List.mem_range] at hn
  exact h n (by omega) hkey.symm

/-- One more value under a name is found there, and all else stays. -/
theorem get?_held_named {values : List String} (names : List (String × String)) {name : String}
    (value key : String) (hname : ∀ n < Text.wordBound, name ≠ Text.numeral n)
    (hcount : values.length ≤ Text.wordBound) :
    Entries.get? key (held values (names ++ [(name, value)])) =
      if key = name then some (.string value) else Entries.get? key (held values names) := by
  rw [get?_held, get?_held, List.reverse_append, Entries.get?_append]
  by_cases h : key = name
  · subst h
    rw [get?_indexed_eq_none hname (by simpa using hcount), if_pos rfl]
    simp [Entries.get?]
  · have h' : ¬name = key := fun e => h e.symm
    rw [if_neg h]
    simp [Entries.get?, h']

/-- The appended values are held under their numbers and the names with their last values. -/
theorem get?_held_eq_some_iff {values : List String} {names : List (String × String)}
    (hnames : NoIndex names) (hcount : values.length ≤ Text.wordBound) (key : String)
    (value : Json) :
    Entries.get? key (held values names) = some value ↔
      (∃ i text, values[i]? = some text ∧ key = Text.numeral i ∧ value = .string text) ∨
        ∃ text, Entries.get? key names.reverse = some text ∧ value = .string text := by
  have hindexed : Entries.get? key (Json.indexed (values.map .string)) = some value ↔
      ∃ i text, values[i]? = some text ∧ key = Text.numeral i ∧ value = .string text := by
    rw [Json.get?_indexed_eq_some_iff]
    apply exists_congr
    intro i
    rw [List.getElem?_map, Option.map_eq_some_iff]
    constructor
    · rintro ⟨⟨text, htext, rfl⟩, hkey⟩
      exact ⟨text, htext, hkey, rfl⟩
    · rintro ⟨text, htext, hkey, rfl⟩
      exact ⟨⟨text, htext, rfl⟩, hkey⟩
  have hnamed : (Entries.get? key names.reverse).map Json.string = some value ↔
      ∃ text, Entries.get? key names.reverse = some text ∧ value = .string text := by
    rw [Option.map_eq_some_iff]
    apply exists_congr
    intro text
    rw [eq_comm (a := Json.string text)]
  rw [get?_held, Option.or_eq_some_iff, hindexed, hnamed]
  constructor
  · rintro (h | ⟨-, h⟩)
    · exact Or.inl h
    · exact Or.inr h
  · rintro (h | ⟨text, htext, hvalue⟩)
    · exact Or.inl h
    · -- A key that is a name is no number, so no appended value stands before it.
      have hkey : ∀ n < Text.wordBound, key ≠ Text.numeral n :=
        hnames (key, text) (List.mem_reverse.1 (Entries.mem_of_get? htext))
      exact Or.inr ⟨get?_indexed_eq_none hkey (by simpa using hcount), text, htext, hvalue⟩

/-- The numbers of the appended values are the only numbers under which something is held. -/
theorem get?_numeral_held_eq_none_iff {values : List String} {names : List (String × String)}
    (hnames : NoIndex names) {n : Nat} (hn : n < Text.wordBound) :
    Entries.get? (Text.numeral n) (held values names) = none ↔ values.length ≤ n := by
  have hnone : Entries.get? (Text.numeral n) names.reverse = none := by
    rw [Entries.get?_eq_none_iff]
    intro hkey
    obtain ⟨p, hp, hname⟩ := List.mem_map.1 hkey
    exact hnames p (List.mem_reverse.1 hp) n hn hname
  rw [get?_held, hnone, Option.map_none, Option.or_none, Entries.get?_eq_none_iff,
    Json.numeral_mem_keys_indexed_iff, List.length_map, not_lt]

/-- In an object that holds the appended values and the names, the next index is the number of the
values. -/
theorem nextIndex_eq_length {values : List String} {names : List (String × String)}
    {entries : Entries Json}
    (hget : ∀ key, Entries.get? key entries = Entries.get? key (held values names))
    (hnames : NoIndex names) (hcount : values.length < Text.wordBound) :
    nextIndex entries = values.length := by
  have hmem (n : Nat) (hn : n < Text.wordBound) :
      Text.numeral n ∈ Entries.keys entries ↔ n < values.length := by
    rw [← not_iff_not, ← Entries.get?_eq_none_iff, hget, get?_numeral_held_eq_none_iff hnames hn,
      not_lt]
  rcases isNextIndex_nextIndex entries with ⟨m, ⟨⟨hm, hkey⟩, hmax⟩, hnext⟩ | ⟨hnone, hnext⟩
  · have hlt : m < values.length := (hmem m hm).1 hkey
    have hlast : values.length - 1 ≤ m := by
      apply hmax
      exact ⟨by omega, (hmem _ (by omega)).2 (by omega)⟩
    rw [hnext]
    omega
  · have hzero : ¬0 < values.length := by
      intro hpos
      exact hnone 0 (by omega) ((hmem 0 (by omega)).2 hpos)
    omega

/-! ## One addition -/

/-- What a container is after values have been appended and written under names.  Before the first
of them it is missing, which counts as null. -/
inductive Collects (values : List String) (names : List (String × String)) : Json → Prop where
  | missing (hvalues : values = []) (hnames : names = []) : Collects values names .null
  | list (hvalues : values ≠ []) (hnames : names = []) :
    Collects values names (.array (values.map .string))
  | object {entries : Entries Json} (hnames : names ≠ [])
      (hget : ∀ key, Entries.get? key entries = Entries.get? key (held values names)) :
    Collects values names (.object entries)

variable {values : List String} {names : List (String × String)} {node : Json}

/-- A container has under each key what it is to hold. -/
theorem Collects.get?_entriesOf (h : Collects values names node) (key : String) :
    Entries.get? key (entriesOf node) = Entries.get? key (held values names) := by
  cases h with
  | missing hvalues hnames =>
    subst hvalues hnames
    rfl
  | list hvalues hnames =>
    subst hnames
    simp [entriesOf, held]
  | object hnames hget => exact hget key

/-- A container still holds what it should after a value is appended. -/
theorem Collects.append (h : Collects values names node) (hnames : NoIndex names)
    (hcount : values.length < Text.wordBound) (value : String) :
    Collects (values ++ [value]) names (assign value [.append] node) := by
  cases h with
  | missing hvalues hnames =>
    subst hvalues
    exact .list (by simp) hnames
  | list hvalues hnames =>
    have hitems : assign value [.append] (.array (values.map .string)) =
        .array ((values ++ [value]).map .string) := by simp [assign]
    rw [hitems]
    exact .list (by simp) hnames
  | object hsome hget =>
    refine .object hsome ?_
    intro key
    rw [nextIndex_eq_length hget hnames hcount, Entries.get?_insert, get?_held_append, hget key]
    rfl

/-- A container still holds what it should after a value is written under a name. -/
theorem Collects.named (h : Collects values names node) {name : String} (value : String)
    (hname : ∀ n < Text.wordBound, name ≠ Text.numeral n)
    (hcount : values.length ≤ Text.wordBound) :
    Collects values (names ++ [(name, value)]) (assign value [.named name] node) := by
  refine .object (by simp) ?_
  intro key
  rw [Entries.get?_insert, get?_held_named names value key hname hcount, h.get?_entriesOf key]
  rfl

/-- Once something has been added, there is a container, and it is a list as long as there are no
names. -/
theorem Collects.isContainer (h : Collects values names node)
    (hsome : ¬(values = [] ∧ names = [])) :
    IsContainer node ∧ ((∃ items, node = .array items) ↔ names = []) := by
  cases h with
  | missing hvalues hnames => exact absurd ⟨hvalues, hnames⟩ hsome
  | list hvalues hnames => exact ⟨trivial, iff_of_true ⟨_, rfl⟩ hnames⟩
  | object hnames hget => exact ⟨trivial, iff_of_false (by simp) hnames⟩

/-! ## All additions -/

/-- The container after additions; it is null before the first. -/
def collected (additions : List Addition) : Json :=
  additions.foldl (fun node a => assign a.value [a.segment] node) .null

/-- Where nothing is appended and nothing is named, nothing is added. -/
theorem eq_nil_of_appended_of_named {additions : List Addition}
    (happended : appended additions = []) (hnamed : named additions = []) : additions = [] := by
  cases additions with
  | nil => rfl
  | cons a rest => cases a <;> simp [appended, named] at happended hnamed

/-- One more addition is written last. -/
theorem collected_concat (additions : List Addition) (a : Addition) :
    collected (additions ++ [a]) = assign a.value [a.segment] (collected additions) := by
  simp [collected]

/-- Additions make a container of what they add. -/
theorem collects_collected (additions : List Addition) (hnames : NoIndex (named additions))
    (hcount : (appended additions).length ≤ Text.wordBound) :
    Collects (appended additions) (named additions) (collected additions) := by
  -- The last addition is written into the container that those before it make.
  induction additions using List.reverseRecOn with
  | nil => exact .missing rfl rfl
  | append_singleton additions a ih =>
    rw [appended_concat, List.length_append] at hcount
    have hbefore : NoIndex (named additions) := by
      intro p hp
      apply hnames p
      rw [named_concat]
      exact List.mem_append_left _ hp
    have h := ih hbefore (by omega)
    rw [collected_concat, appended_concat, named_concat]
    cases a with
    | append value =>
      have hlt : (appended additions).length < Text.wordBound := by
        simp only [appended, List.filterMap_cons, List.filterMap_nil, List.length_singleton]
          at hcount
        exact hcount
      have hnone : Params.named [.append value] = [] := rfl
      rw [hnone, List.append_nil]
      exact h.append hbefore hlt value
    | named name value =>
      have hname : ∀ n < Text.wordBound, name ≠ Text.numeral n := by
        apply hnames (name, value)
        rw [named_concat]
        exact List.mem_append_right _ List.mem_cons_self
      have hnone : appended [.named name value] = [] := rfl
      rw [hnone, List.append_nil]
      exact h.named value hname (by omega)

/-- The segments of the key of an addition. -/
theorem segments?_pair {head : String} (hne : head ≠ "") (hhead : '[' ∉ head.toList) (a : Addition)
    (hname : ∀ p ∈ named [a], p.1 ≠ "" ∧ ']' ∉ p.1.toList) :
    BracketKey.segments? (a.pair head).1 = some [.named head, a.segment] := by
  cases a with
  | append value =>
    exact BracketKey.segments?_written hne hhead (by simp) (by simp) (by decide)
  | named name value =>
    obtain ⟨hnonempty, hclosing⟩ := hname (name, value) List.mem_cons_self
    have hempty : name.toList.isEmpty = false := by simpa using hnonempty
    have hsegment : BracketKey.segment name.toList = .named name := by
      simp [BracketKey.segment, hempty]
    have hdepth : [name].length ≤ BracketKey.maxNesting := by simp [BracketKey.maxNesting]
    rw [Addition.segment, ← hsegment]
    exact BracketKey.segments?_written hne hhead (by simpa using hclosing) (by simp) hdepth

/-- The additions make one container under the head, and nothing else. -/
theorem ofPairs_additions {head : String} (hne : head ≠ "") (hhead : '[' ∉ head.toList)
    (additions : List Addition) (hnames : ∀ p ∈ named additions, p.1 ≠ "" ∧ ']' ∉ p.1.toList) :
    ofPairs (additions.map (·.pair head)) =
      .object (if additions = [] then [] else [(head, collected additions)]) := by
  induction additions using List.reverseRecOn with
  | nil => rfl
  | append_singleton additions a ih =>
    have hbefore := ih fun p hp => hnames p (by
      rw [named_concat]
      exact List.mem_append_left _ hp)
    have hsegments := segments?_pair hne hhead a fun p hp => hnames p (by
      rw [named_concat]
      exact List.mem_append_right _ hp)
    have hvalue : (a.pair head).2 = a.value := by cases a <;> rfl
    rw [List.map_append, List.map_singleton, ofPairs_append_singleton, hbefore, collected_concat]
    simp only [write, hsegments, hvalue]
    by_cases hsome : additions = []
    · subst hsome
      rfl
    · simp [hsome, assign, entriesOf, Entries.get?, Entries.insert]

/-- Under the head of their keys the pairs of additions make what is to be held. -/
theorem node?_ofPairs_additions {head : String} (hne : head ≠ "") (hhead : '[' ∉ head.toList)
    {additions : List Addition}
    (hnames : ∀ p ∈ named additions, p.1 ≠ "" ∧ ']' ∉ p.1.toList)
    (hcollects : Collects (appended additions) (named additions) (collected additions))
    (key : String) :
    node? [head, key] (ofPairs (additions.map (·.pair head))) =
      Entries.get? key (held (appended additions) (named additions)) := by
  rw [ofPairs_additions hne hhead additions hnames]
  by_cases hsome : additions = []
  · subst hsome
    rfl
  · rw [← hcollects.get?_entriesOf, ← child?_eq_get?_entriesOf, if_neg hsome]
    have hchild : child? head (.object [(head, collected additions)]) =
        some (collected additions) := by simp [child?, Entries.get?]
    rw [node?, hchild, Option.bind_some, node?]
    cases child? key (collected additions) <;> rfl

/-- **Where names stand between appended values does not matter.**  Take pairs whose keys have one
head and one pair of brackets, which are empty or hold a name that is no index, where no more values
are appended than a word has numbers.  Together they make one container under the head.  It holds
each appended value under its number in the order of appending, each name with the value that was
given last, and nothing else, and it is a list exactly if there are no names.  So pairs that append
the same values and write the same names, each in the same order, give every key the same value. -/
theorem mem_entriesOf_additions_iff (head : String) (additions : List Addition) (hne : head ≠ "")
    (hhead : '[' ∉ head.toList)
    (hnames : ∀ p ∈ named additions,
      p.1 ≠ "" ∧ ']' ∉ p.1.toList ∧ ∀ n < Text.wordBound, p.1 ≠ Text.numeral n)
    (hcount : (appended additions).length ≤ Text.wordBound) :
    (∃ container,
      ofPairs (additions.map (·.pair head)) =
          .object (if additions = [] then [] else [(head, container)]) ∧
        IsContainer container ∧ (Entries.keys (entriesOf container)).Nodup ∧
        (∀ key value, (key, value) ∈ entriesOf container ↔
          (∃ i text, (appended additions)[i]? = some text ∧ key = Text.numeral i ∧
              value = .string text) ∨
            ∃ text, Entries.get? key (named additions).reverse = some text ∧
              value = .string text) ∧
        ((∃ items, container = .array items) ↔ named additions = [])) ∧
      ∀ others, appended others = appended additions → named others = named additions →
        ∀ key, node? [head, key] (ofPairs (others.map (·.pair head))) =
          node? [head, key] (ofPairs (additions.map (·.pair head))) := by
  have hnoIndex : NoIndex (named additions) := fun p hp => (hnames p hp).2.2
  have hkeys : ∀ p ∈ named additions, p.1 ≠ "" ∧ ']' ∉ p.1.toList :=
    fun p hp => ⟨(hnames p hp).1, (hnames p hp).2.1⟩
  have hcollects := collects_collected additions hnoIndex hcount
  refine ⟨?_, ?_⟩
  · have hpairs := ofPairs_additions hne hhead additions hkeys
    by_cases hsome : additions = []
    · -- Without pairs nothing is stored, as if for an empty list.
      subst hsome
      refine ⟨.array [], hpairs, trivial, List.nodup_nil, ?_, iff_of_true ⟨[], rfl⟩ rfl⟩
      intro key value
      simp [entriesOf, Json.indexed, Entries.ofList, appended, named, Entries.get?]
    · have hsome' : ¬(appended additions = [] ∧ named additions = []) :=
        fun h => hsome (eq_nil_of_appended_of_named h.1 h.2)
      have hnodup : (Entries.keys (entriesOf (collected additions))).Nodup := by
        obtain ⟨entries, heq, -, hentries⟩ := filledBelow_ofPairs (additions.map (·.pair head))
        rw [hpairs, if_neg hsome, Json.object.injEq] at heq
        subst heq
        have hfilled := hentries (head, collected additions) List.mem_cons_self
        exact (filledBelow_of_filled hfilled).1
      refine ⟨collected additions, hpairs, (hcollects.isContainer hsome').1, hnodup, ?_,
        (hcollects.isContainer hsome').2⟩
      intro key value
      rw [← get?_held_eq_some_iff hnoIndex hcount, ← hcollects.get?_entriesOf]
      exact ⟨Entries.get?_of_mem hnodup, Entries.mem_of_get?⟩
  · intro others happended hnamed key
    have hothers : Collects (appended others) (named others) (collected others) := by
      apply collects_collected
      · rw [hnamed]
        exact hnoIndex
      · rw [happended]
        exact hcount
    rw [node?_ofPairs_additions hne hhead hkeys hcollects,
      node?_ofPairs_additions hne hhead (by rwa [hnamed]) hothers, happended, hnamed]

/-- A value is appended after a name that is a numeral with a leading zero, and gets the number one
as if the name had come first. -/
theorem mem_entriesOf_additions_iff_leading_zero :
    let additions : List Addition := [.append "x", .named "01" "y", .append "z"]
    let others : List Addition := [.named "01" "y", .append "x", .append "z"]
    (∀ p ∈ named additions,
        p.1 ≠ "" ∧ ']' ∉ p.1.toList ∧ ∀ n < Text.wordBound, p.1 ≠ Text.numeral n) ∧
      (∃ container, ofPairs (additions.map (·.pair "a")) = .object [("a", container)] ∧
        ("1", .string "z") ∈ entriesOf container ∧ ¬∃ items, container = .array items) ∧
      ∀ key, node? ["a", key] (ofPairs (others.map (·.pair "a"))) =
        node? ["a", key] (ofPairs (additions.map (·.pair "a"))) := by
  intro additions others
  have hnames : ∀ p ∈ named additions,
      p.1 ≠ "" ∧ ']' ∉ p.1.toList ∧ ∀ n < Text.wordBound, p.1 ≠ Text.numeral n := by
    intro p hp
    obtain rfl : p = ("01", "y") := List.mem_singleton.1 hp
    refine ⟨by decide, by decide, ?_⟩
    intro n _ hnumeral
    have hn : n = 1 := by
      rw [← Text.numeralValue_numeral n, ← hnumeral]
      decide
    subst hn
    exact absurd hnumeral (by decide)
  have h := mem_entriesOf_additions_iff "a" additions (by decide) (by decide) hnames (by decide)
  obtain ⟨⟨container, hpairs, -, -, hmem, hlist⟩, hothers⟩ := h
  refine ⟨hnames, ⟨container, hpairs, ?_, ?_⟩, hothers others rfl rfl⟩
  · exact (hmem "1" (.string "z")).2 (Or.inl ⟨1, "z", rfl, by decide, rfl⟩)
  · rw [hlist]
    exact List.cons_ne_nil _ _

end Params

end FieldRules
