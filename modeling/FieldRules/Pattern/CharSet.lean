import FieldRules.Text.Space
import FieldRules.Unicode.Age
import FieldRules.Unicode.Boundary
import FieldRules.Unicode.CaseFolding
import FieldRules.Unicode.Category
import FieldRules.Unicode.Property
import FieldRules.Unicode.Script

/-!
# Sets of characters

`CharSet` describes a set of characters by ranges and set operations; `CharSet.contains` says which
characters it holds.  `CharSet.ofProperty?` finds the set that a Unicode property name or a name and
value denote; names are compared loosely, without regard to case, blanks, hyphens and underscores.
-/

set_option autoImplicit false

namespace FieldRules.Pattern

open FieldRules.Unicode (Ranges)

/-- A set of characters. -/
inductive CharSet where
  /-- The characters in some ranges of code points. -/
  | ranges (rs : Ranges)
  /-- The characters in one set or in the other. -/
  | union (a b : CharSet)
  /-- The characters in both sets. -/
  | inter (a b : CharSet)
  /-- The characters that are not in the set. -/
  | compl (a : CharSet)
  /-- The characters that differ at most in case from one in the set. -/
  | folded (a : CharSet)
  /-- The same for the letters of ASCII alone. -/
  | foldedAscii (a : CharSet)
deriving DecidableEq

namespace CharSet

/-- The characters that differ from the given one at most in the case of an ASCII letter. -/
def asciiVariants (c : Char) : List Char :=
  if c.isUpper then [c, c.toLower]
  else if c.isLower then [c.toUpper, c]
  else [c]

/-- Whether a character is in the set. -/
def contains : CharSet → Char → Bool
  | .ranges rs, c => rs.contains c
  | .union a b, c => a.contains c || b.contains c
  | .inter a b, c => a.contains c && b.contains c
  | .compl a, c => !a.contains c
  | .folded a, c => (Unicode.caseVariants c).any a.contains
  | .foldedAscii a, c => (asciiVariants c).any a.contains

/-- The empty set. -/
def none : CharSet := .ranges []

/-- The set of all characters. -/
def all : CharSet := .ranges [(0, 0x10FFFF)]

/-- The set of one character. -/
def single (c : Char) : CharSet := .ranges [(c.toNat, c.toNat)]

/-- The characters from the first to the second. -/
def range (low high : Char) : CharSet := .ranges [(low.toNat, high.toNat)]

/-- The characters of the first set that are not in the second. -/
def diff (a b : CharSet) : CharSet := .inter a (.compl b)

/-- The characters that are in one of the sets and not in both. -/
def symmDiff (a b : CharSet) : CharSet := .union (diff a b) (diff b a)

/-- The union of several sets. -/
def unions : List CharSet → CharSet
  | [] => none
  | [a] => a
  | a :: rest => .union a (unions rest)

/-- The complement of a set if asked for, else the set. -/
def complIf (negated : Bool) (a : CharSet) : CharSet :=
  if negated then .compl a else a

/-- The letters of ASCII that differ at most in case from a code point in the ranges. -/
def asciiLetters (rs : Ranges) : Ranges :=
  let has (n : Nat) : Bool := rs.any fun r => r.1 ≤ n && n ≤ r.2
  Ranges.ofList ((List.range 26).flatMap fun i =>
    if has (65 + i) || has (97 + i) then [65 + i, 97 + i] else [])

/-- The code points of a set as ranges that do not touch, from low to high. -/
def toRanges : CharSet → Ranges
  | .ranges rs => rs
  | .union a b => a.toRanges.union b.toRanges
  | .inter a b => a.toRanges.inter b.toRanges
  | .compl a => a.toRanges.compl
  | .folded a => a.toRanges.union (Unicode.foldedWith a.toRanges)
  | .foldedAscii a => a.toRanges.union (asciiLetters a.toRanges)

/-! ## Unicode properties -/

/-- A property name without the marks that do not count: blanks, hyphens, underscores, characters
outside ASCII, case, and `is` at the start.  The name `isc` is kept apart from `c`. -/
def looseName (name : String) : String :=
  let significant (cs : List Char) : List Char :=
    (cs.filter fun c => c.toNat < 128 && c != ' ' && c != '_' && c != '-').map Char.toLower
  match name.toList with
  | i :: s :: rest =>
    if i.toLower = 'i' ∧ s.toLower = 's' then
      let rest := significant rest
      if rest = ['c'] then "isc" else String.ofList rest
    else
      String.ofList (significant (i :: s :: rest))
  | cs => String.ofList (significant cs)

/-- The set of the characters of a general category, given by its code. -/
def ofCategoryCode (code : String) : CharSet :=
  match Unicode.categories.find? (·.1 == code) with
  | some (_, _, table) => .ranges (Ranges.unpack table)
  | .none => none

/-- The set that a loose name of a general category denotes. -/
def ofCategory? (name : String) : Option CharSet :=
  if name = "any" then some all
  else if name = "ascii" then some (.ranges [(0, 127)])
  else if name = "assigned" then some (.compl (ofCategoryCode "Cn"))
  else
    match Unicode.categories.find? (·.2.1.contains name) with
    | some (code, _, _) => some (ofCategoryCode code)
    | .none =>
      (Unicode.categoryGroups.find? (·.1.contains name)).map fun g =>
        unions (g.2.map ofCategoryCode)

/-- The set of the characters of a class in a table, given by a loose name. -/
def ofClass? (classes : List (List String × String)) (name : String) : Option CharSet :=
  (classes.find? (·.1.contains name)).map fun c => .ranges (Ranges.unpack c.2)

/-- The set that a loose name of a binary property denotes. -/
def ofBinaryProperty? (name : String) : Option CharSet :=
  ofClass? Unicode.properties name

/-- The set of the characters that belong to a script, given by a loose name. -/
def ofScript? (name : String) : Option CharSet :=
  (Unicode.scripts.find? (·.1.contains name)).map fun s => .ranges (Ranges.unpack s.2.1)

/-- The set of the characters that a script uses, given by a loose name. -/
def ofScriptExtension? (name : String) : Option CharSet :=
  (Unicode.scripts.find? (·.1.contains name)).map fun s =>
    .ranges (Ranges.unpack (s.2.2.getD s.2.1))

/-- The set of the characters of a version and of all before it, given by a loose name. -/
def ofAge? (name : String) : Option CharSet :=
  (Unicode.ages.findIdx? (·.1.contains name)).map fun i =>
    unions ((Unicode.ages.take (i + 1)).map fun v => .ranges (Ranges.unpack v.2))

/-- The set that a name alone denotes: a binary property, a general category or a script.  Three
names that shorten both a category and another property denote the category. -/
def ofProperty? (name : String) : Option CharSet :=
  let name := looseName name
  let binary := if name = "cf" ∨ name = "sc" ∨ name = "lc" then .none else ofBinaryProperty? name
  binary <|> ofCategory? name <|> ofScript? name

/-- The set that a property and a value of it denote. -/
def ofPropertyValue? (property value : String) : Option CharSet :=
  let property := looseName property
  let value := looseName value
  if property = "gc" ∨ property = "generalcategory" then ofCategory? value
  else if property = "sc" ∨ property = "script" then ofScript? value
  else if property = "scx" ∨ property = "scriptextensions" then ofScriptExtension? value
  else if property = "age" then ofAge? value
  else if property = "gcb" ∨ property = "graphemeclusterbreak" then
    ofClass? Unicode.graphemeClusterBreaks value
  else if property = "wb" ∨ property = "wordbreak" then ofClass? Unicode.wordBreaks value
  else if property = "sb" ∨ property = "sentencebreak" then ofClass? Unicode.sentenceBreaks value
  else .none

/-- The decimal digits. -/
def digit : CharSet := ofCategoryCode "Nd"

/-- White space. -/
def space : CharSet :=
  .ranges [(9, 13), (0x20, 0x20), (0x85, 0x85), (0xA0, 0xA0), (0x1680, 0x1680), (0x2000, 0x200A),
    (0x2028, 0x2029), (0x202F, 0x202F), (0x205F, 0x205F), (0x3000, 0x3000)]

/-- The characters of words: letters, marks, decimal digits, connecting punctuation and joiners. -/
def word : CharSet :=
  unions [(ofBinaryProperty? "alphabetic").getD none, ofCategoryCode "Mn", ofCategoryCode "Mc",
    ofCategoryCode "Me", digit, ofCategoryCode "Pc", (ofBinaryProperty? "joincontrol").getD none]

/-- The decimal digits of ASCII. -/
def digitAscii : CharSet := range '0' '9'

/-- The white space of ASCII. -/
def spaceAscii : CharSet := .ranges [(9, 13), (0x20, 0x20)]

/-- The word characters of ASCII. -/
def wordAscii : CharSet := .ranges [(48, 57), (65, 90), (95, 95), (97, 122)]

end CharSet

end FieldRules.Pattern
