import FieldRules.Pattern.Shape
import FieldRules.Unicode.ByteRow

/-!
# Room

A text is searched by an automaton that reads the bytes of its encoding in UTF-8, and a match is
traced back by another one that reads them from the end.  `Shape.room` counts the bytes that either
automaton takes: each state takes some, and so does each transition of a state that has several of
them.  A repetition takes the room of all its copies.
-/

set_option autoImplicit false

namespace FieldRules.Pattern

open FieldRules.Unicode (ByteRow Ranges)

/-- The way in which an automaton reads a text. -/
inductive Direction where
  | forward
  | backward
deriving DecidableEq, Repr

/-! ## What states take -/

/-- The room of a state. -/
def stateRoom : Nat := 32

/-- The room of a state with several transitions on bytes. -/
def choiceRoom (transitions : Nat) : Nat :=
  stateRoom + 8 * transitions

/-- The room of a state that goes on in several ways without reading. -/
def forkRoom (branches : Nat) : Nat :=
  stateRoom + 4 * branches

/-! ## Sets of characters -/

/-- The rows in groups that begin with the same range. -/
def rowGroups (rows : List ByteRow) : List (List ByteRow) :=
  rows.splitBy fun a b => a.head? == b.head?

/-- The rows that are left of each group after the range it begins with, without the groups that are
at their ends. -/
def rowsAfter (rows : List ByteRow) : List (List ByteRow) :=
  ((rowGroups rows).map (·.map List.tail)).filter (· != [[]])

/-- The inner nodes of the tree of some rows, down to a depth: each node is given by the rows below
it, and nodes that look alike may occur several times. -/
def rowNodes : (depth : Nat) → List ByteRow → List (List ByteRow)
  | 0, _ => []
  | depth + 1, rows => rows :: (rowsAfter rows).flatMap (rowNodes depth)

/-- The number of ranges that two rows begin with alike. -/
def sharedSteps : ByteRow → ByteRow → Nat
  | a :: rest, b :: rest' => if a = b then sharedSteps rest rest' + 1 else 0
  | _, _ => 0

/-- The number of places in the table of the states that may be shared. -/
def tablePlaces : Nat := 1000

/-- The number of states that rows take, times `tablePlaces`, where the first row finds its first
`found` states in the table.  The next row shares its first states with it, as long as these are in
the table; each state that is made displaces one of `tablePlaces` others, and where it displaces one
that the next row needs, the next row makes that one and those after it again. -/
def stepsTaken (found : Nat) : List ByteRow → Nat
  | [] => 0
  | row :: rest =>
    let needed := match rest with
      | [] => 0
      | next :: _ => sharedSteps row next
    let made := (List.range row.length).drop found
    let again (step : Nat) : Nat :=
      ((List.range (min step needed)).map (needed - ·)).foldr (· + ·) 0
    (made.map fun step => tablePlaces + again step).foldr (· + ·) 0 + stepsTaken needed rest

/-- The room of rows of several bytes.  Forward, nodes of their tree that look alike are shared;
backward, each row starts on its own and the rows meet at the bytes they begin with. -/
def rowsRoom (d : Direction) (rows : List ByteRow) : Nat :=
  match d with
  | .forward =>
    stateRoom +
      ((rowNodes 4 rows).eraseDups.map fun node => choiceRoom (rowGroups node).length).foldr
        (· + ·) 0
  | .backward => forkRoom rows.length + stateRoom + stepsTaken 0 rows * stateRoom / tablePlaces

/-- The room of a set of characters.  Characters of ASCII take one state that reads and one after
it. -/
def setRoom (d : Direction) (rs : Ranges) : Nat :=
  if rs.all (·.2 < 128) then choiceRoom rs.length + stateRoom
  else rowsRoom d rs.byteRows

/-! ## Words -/

/-- The bytes of some characters, given by their code points. -/
def wordBytes (chars : List Nat) : List Nat :=
  chars.flatMap fun c => ((Ranges.byteRows [(c, c)]).flatMap id).map (·.1)

/-- The room of a tree of words, the bytes of each in the order in which they are read, down to a
depth.  A word that ends where another goes on takes a branch of its own. -/
def wordTreeRoom : (depth : Nat) → (words : List (List Nat)) → Nat
  | 0, _ => 0
  | depth + 1, words =>
    let heads := (words.filterMap List.head?).eraseDups
    let ends := (words.filter List.isEmpty).length
    if heads.isEmpty then 0
    else
      forkRoom (1 + ends) +
        (if heads.length = 1 then stateRoom else choiceRoom heads.length) +
        (heads.map fun h => wordTreeRoom depth (words.filterMap fun w =>
          if w.head? = some h then some w.tail else none)).foldr (· + ·) 0

/-- The room of several words. -/
def wordsRoom (d : Direction) (words : List (List Nat)) : Nat :=
  let words := match d with
    | .forward => words
    | .backward => words.map List.reverse
  stateRoom + wordTreeRoom ((words.map List.length).foldl max 0 + 1) words

/-! ## Expressions -/

/-- The words among which a shape chooses, if it chooses among words alone. -/
def Shape.words? : Shape → Option (List (List Nat))
  | .alt a b => do return (← words? a) ++ (← words? b)
  | .step (.word chars) => some [wordBytes chars]
  | _ => none

/-- The room of a repetition, from the room of one copy. -/
def repetitionRoom (low : Nat) (high : Option Nat) (canBeEmpty : Bool) (copy : Nat) : Nat :=
  match low, high with
  | 0, some 1 => forkRoom 2 + copy + stateRoom
  | 0, none => if canBeEmpty then copy + 2 * forkRoom 2 + stateRoom else forkRoom 2 + copy
  | low, none => low * copy + forkRoom 2
  | low, some high =>
    if low = high then low * copy
    else max (low * copy) stateRoom + stateRoom + (high - low) * (forkRoom 2 + copy)

/-- The room of a shape, from what it takes in a row.  As a branch of a choice it has at least one
state, and the choice leads to it. -/
def placedRoom (asBranch : Bool) (inRow : Nat) : Nat :=
  if asBranch then 4 + max stateRoom inRow else inRow

/-- The room of a shape in a row, where what is empty takes none, or of all its branches, as
branches.  A choice among words is a tree. -/
def Shape.roomIn (d : Direction) : (asBranch : Bool) → Shape → Nat
  | asBranch, .empty => placedRoom asBranch 0
  | asBranch, .step (.word chars) => placedRoom asBranch (stateRoom * (wordBytes chars).length)
  | asBranch, .step (.set rs) => placedRoom asBranch (setRoom d rs)
  | asBranch, .hold _ => placedRoom asBranch stateRoom
  | asBranch, .seq a b => placedRoom asBranch (roomIn d false a + roomIn d false b)
  | true, .alt a b => roomIn d true a + roomIn d true b
  | false, .alt a b =>
    match words? (.alt a b) with
    | some words => wordsRoom d words
    | none => forkRoom 0 + stateRoom + (roomIn d true a + roomIn d true b)
  | asBranch, .repeated low high _ r =>
    placedRoom asBranch
      (repetitionRoom low high r.canBeEmpty (max stateRoom (roomIn d false r)))
  | asBranch, .capture _ r =>
    let inside := max stateRoom (roomIn d false r)
    placedRoom asBranch (match d with
      | .forward => inside + 2 * stateRoom
      | .backward => inside)

/-- Whether a match can only be at the end of the text that is read first. -/
def Shape.isAnchored (d : Direction) : Shape → Bool
  | .hold a => a == (match d with
    | .forward => .textStart
    | .backward => .textEnd)
  | .seq a b =>
    match d with
    | .forward => isAnchored d a || (a.isEmptyOnly && isAnchored d b)
    | .backward => isAnchored d b || (b.isEmptyOnly && isAnchored d a)
  | .alt a b => isAnchored d a && isAnchored d b
  | .repeated low _ _ r => low != 0 && isAnchored d r
  | .capture _ r => isAnchored d r
  | _ => false

/-- The room of the automaton of a whole pattern.  One that is not anchored passes any bytes first,
and the forward one notes where the match starts and ends. -/
def Shape.room (d : Direction) (s : Shape) : Nat :=
  let start := if s.isAnchored d then stateRoom else forkRoom 2 + choiceRoom 1 + stateRoom
  let ends := match d with
    | .forward => 3 * stateRoom
    | .backward => stateRoom
  start + max stateRoom (s.roomIn d false) + ends

/-- The room that an automaton may take. -/
def maxRoom : Nat := 10 * (1 <<< 20)

/-- The number of words from which on a choice among them is searched in another way. -/
def wordListSize : Nat := 3000

/-- Whether a pattern has enough room: either automaton fits, or it is a long list of words, which
takes none. -/
def TextRegex.fits (r : TextRegex) : Bool :=
  let s := r.shape
  (s.room .forward ≤ maxRoom && s.room .backward ≤ maxRoom) ||
    s.words?.any fun words => wordListSize ≤ words.length

end FieldRules.Pattern
