import FieldRules.Pattern.Meaning

/-!
# Shapes

A `Shape` is an expression with rows and choices made flat: single characters in a row are one word,
a choice among sets of characters is one set, and what all rows of a choice begin with stands once
before the choice of what is left of them.  `TextRegex.rows` brings an expression into this form,
which matches the same texts in the same order of preference.
-/

set_option autoImplicit false

namespace FieldRules.Pattern

open FieldRules.Unicode (Ranges)

/-- What one step of a shape reads. -/
inductive Reading where
  /-- Some characters, one after the other, given by their code points. -/
  | word (chars : List Nat)
  /-- One character of a set. -/
  | set (rs : Ranges)
deriving DecidableEq, Repr

/-- An expression whose rows and choices are flat. -/
abbrev Shape : Type := Regex Reading Condition

namespace Regex

variable {σ α : Type}

/-- Whether an expression matches nothing but empty stretches. -/
def isEmptyOnly : Regex σ α → Bool
  | .empty => true
  | .step _ => false
  | .hold _ => true
  | .seq a b => isEmptyOnly a && isEmptyOnly b
  | .alt a b => isEmptyOnly a && isEmptyOnly b
  | .repeated _ high _ r => high == some 0 || isEmptyOnly r
  | .capture _ r => isEmptyOnly r

/-- Whether an expression may match an empty stretch. -/
def canBeEmpty : Regex σ α → Bool
  | .empty => true
  | .step _ => false
  | .hold _ => true
  | .seq a b => canBeEmpty a && canBeEmpty b
  | .alt a b => canBeEmpty a || canBeEmpty b
  | .repeated low high _ r => low == 0 || high == some 0 || canBeEmpty r
  | .capture _ r => canBeEmpty r

/-- The parts of a row. -/
def parts : Regex σ α → List (Regex σ α)
  | .empty => []
  | .seq a b => parts a ++ parts b
  | r => [r]

/-- The branches of a choice. -/
def branches : Regex σ α → List (Regex σ α)
  | .alt a b => branches a ++ branches b
  | r => [r]

end Regex

namespace Shape

/-- The step that reads a character of a set. -/
def ofRanges : Ranges → Shape
  | [(low, high)] => if low = high then .step (.word [low]) else .step (.set [(low, high)])
  | rs => .step (.set rs)

/-- The set of characters that a shape is, a single character being such a set. -/
def set? : Shape → Option Ranges
  | .step (.word [c]) => some [(c, c)]
  | .step (.set rs) => some rs
  | _ => none

/-- Whether two shapes are the same.  Two captures never are: each is noted on its own. -/
def same : Shape → Shape → Bool
  | .empty, .empty => true
  | .step s, .step t => s == t
  | .hold a, .hold b => a == b
  | .seq a b, .seq c d => same a c && same b d
  | .alt a b, .alt c d => same a c && same b d
  | .repeated low high greedy r, .repeated low' high' greedy' r' =>
    low == low' && high == high' && greedy == greedy' && same r r'
  | _, _ => false

/-- One row after another; words that meet are one. -/
def joined : List Shape → List Shape → List Shape
  | [], rest => rest
  | [.step (.word u)], .step (.word v) :: rest => .step (.word (u ++ v)) :: rest
  | part :: parts, rest => part :: joined parts rest

/-- The number of parts that two rows begin with alike. -/
def agreement : List Shape → List Shape → Nat
  | a :: rest, b :: rest' => if same a b then agreement rest rest' + 1 else 0
  | _, _ => 0

/-- The number of parts that several rows begin with alike, if none of them is a single part. -/
def sharedStart : List (List Shape) → Nat
  | first :: second :: rest =>
    if (first :: second :: rest).all (2 ≤ ·.length) then
      ((second :: rest).map (agreement first)).foldl min first.length
    else 0
  | _ => 0

/-- Rows that are choices as the rows of their branches. -/
def flatRows (rows : List (List Shape)) : List (List Shape) :=
  rows.flatMap fun row =>
    match row with
    | [part] => part.branches.map Regex.parts
    | row => [row]

/-- A choice among rows that share no start. -/
def choice (rows : List (List Shape)) : Shape :=
  match (rows.map Regex.seqAll).mapM set? with
  | some sets => ofRanges (sets.foldl Ranges.union [])
  | none => .altAll .empty (rows.map .seqAll)

/-- A choice among rows as one row. -/
def choiceRow (rows : List (List Shape)) : List Shape :=
  match flatRows rows with
  | [row] => row
  | rows =>
    let shared := sharedStart rows
    if shared = 0 then [choice rows]
    else
      joined ((rows.headD []).take shared) [choice (flatRows (rows.map (·.drop shared)))]

/-- Copies of a row.  What matches nothing but empty stretches is not repeated. -/
def copies (low : Nat) (high : Option Nat) (greedy : Bool) (row : List Shape) : List Shape :=
  let r := Regex.seqAll row
  let (low, high) :=
    if r.isEmptyOnly then (min low 1, some (min (high.getD 1) 1)) else (low, high)
  if high = some 0 then []
  else if low = 1 ∧ high = some 1 then row
  else [.repeated low high greedy r]

end Shape

/-- The rows among which an expression chooses. -/
def TextRegex.rows : TextRegex → List (List Shape)
  | .empty => [[]]
  | .step s => [[Shape.ofRanges s.toRanges]]
  | .hold a => [[.hold a]]
  | .seq a b => [Shape.joined (Shape.choiceRow (rows a)) (Shape.choiceRow (rows b))]
  | .alt a b => Shape.choiceRow (rows a) :: rows b
  | .repeated low high greedy r => [Shape.copies low high greedy (Shape.choiceRow (rows r))]
  | .capture name r => [[.capture name (Regex.seqAll (Shape.choiceRow (rows r)))]]

/-- The shape of an expression. -/
def TextRegex.shape (r : TextRegex) : Shape :=
  Regex.seqAll (Shape.choiceRow r.rows)

end FieldRules.Pattern
