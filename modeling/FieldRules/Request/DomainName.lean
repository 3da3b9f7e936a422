import FieldRules.Text.Punycode
import FieldRules.Text.Split
import FieldRules.Unicode.Direction
import FieldRules.Unicode.DomainCharacter
import FieldRules.Unicode.Joining
import FieldRules.Unicode.Normalization

/-!
# Domain names

The names of domains may hold characters of all scripts, but not every character.
`DomainName.ofChars?` gives the form of a name in which it is looked up: characters are replaced by
others of the same meaning, letters by small ones, and the text is composed.  It refuses a name with
a character that may not be there, or with a label that begins with a mark, has a joiner out of
place, mixes the directions of writing, or begins as if it were encoded and is not.
-/

set_option autoImplicit false

namespace FieldRules.DomainName

open FieldRules.Unicode (DirectionClass)

/-! ## Characters -/

/-- Whether a character may not stand in the name of a domain. -/
def isForbidden (c : Char) : Bool :=
  c.toNat < 0x20 || c.toNat == 0x7F || " #/:<>?@[\\]^|%".toList.contains c

/-- Whether the characters are all of ASCII. -/
def isAscii (cs : List Char) : Bool :=
  cs.all (·.toNat < 128)

/-- The characters with each replaced by what stands for it in names, and composed; none if one of
them may not be there. -/
def mapped? (cs : List Char) : Option (List Char) :=
  (cs.mapM Unicode.domainForm?).map fun forms => Unicode.composed forms.flatten

/-! ## Encoded labels -/

/-- What an encoded label begins with. -/
def encodedMark : List Char := "xn--".toList

/-- The greatest length of what is decoded. -/
def maxEncodedLength : Nat := 2000

/-- The greatest length of a label that is to be encoded. -/
def maxDecodedLength : Nat := 1000

/-- Whether a label is one that mapping leaves as it is. -/
def isMapped (label : List Char) : Bool :=
  label.all Unicode.domainKept.contains && Unicode.composed label == label

/-- The label that an encoded one stands for, after its mark: it must need the encoding, and it must
be mapped already. -/
def decoded? (encoded : List Char) : Option (List Char) :=
  if isAscii encoded ∧ encoded.length ≤ maxEncodedLength then
    (Punycode.decode? encoded).filter fun label => !isAscii label && isMapped label
  else
    none

/-- A label as it is read: decoded, if it is encoded. -/
def readLabel? (label : List Char) : Option (List Char) :=
  if encodedMark.isPrefixOf label then decoded? (label.drop encodedMark.length)
  else if isAscii label || label.length ≤ maxDecodedLength then some label
  else none

/-! ## Marks and joiners -/

/-- Whether a label begins with a mark. -/
def beginsWithMark (label : List Char) : Bool :=
  label.head?.any Unicode.marks.contains

/-- The character that keeps letters from joining. -/
def nonJoiner : Char := '\u200c'

/-- The character that joins letters. -/
def joiner : Char := '\u200d'

/-- The combining class of the marks that take the vowel from a letter. -/
def vowelKillerClass : Nat := 9

/-- Whether a joiner of either kind may stand between characters; those before it are given from
the last to the first.  Either may follow a mark that takes the vowel from a letter; one that keeps
letters from joining may also stand between two that would join. -/
def fitsBetween (c : Char) (before after : List Char) : Bool :=
  before.head?.any (fun b => Unicode.combiningClass b == vowelKillerClass) ||
    (c == nonJoiner &&
      (before.dropWhile Unicode.transparent.contains).head?.any Unicode.joinsAfter.contains &&
      (after.dropWhile Unicode.transparent.contains).head?.any Unicode.joinsBefore.contains)

/-- Whether all joiners fit where they are; `before` has what stands before, the last one first. -/
def joinersFit (before : List Char) : List Char → Bool
  | [] => true
  | c :: rest =>
    (!(c == nonJoiner || c == joiner) || fitsBetween c before rest) && joinersFit (c :: before) rest

/-! ## Directions -/

/-- Whether a character is written from right to left; none below U+0590 is. -/
def isRightToLeft (c : Char) : Bool :=
  0x590 ≤ c.toNat &&
    [DirectionClass.rightToLeft, .arabicLetter, .arabicNumber].contains (Unicode.direction c)

/-- The classes that a label may have besides letters, in either direction. -/
def weakClasses : List DirectionClass :=
  [.europeanNumber, .europeanSeparator, .commonSeparator, .europeanTerminator, .otherNeutral,
    .boundaryNeutral, .nonspacingMark]

/-- Whether the classes of a label, from its first to its last that is no mark, keep to one
direction.  A label that is written from left to right has none that are not, and ends with a letter
or a digit; one that is written from right to left may also have Arabic numbers, but not numbers of
both kinds. -/
def keepsDirection (classes : List DirectionClass) : Bool :=
  let ends (allowed : List DirectionClass) : Bool := classes.getLast?.any allowed.contains
  match classes.head? with
  | none => true
  | some .leftToRight =>
    classes.all (fun d => (.leftToRight :: weakClasses).contains d) &&
      ends [.leftToRight, .europeanNumber]
  | some first =>
    (first == .rightToLeft || first == .arabicLetter) &&
      classes.all (fun d =>
        (.rightToLeft :: .arabicLetter :: .arabicNumber :: weakClasses).contains d) &&
      ends [.rightToLeft, .arabicLetter, .europeanNumber, .arabicNumber] &&
      !(classes.contains .europeanNumber && classes.contains .arabicNumber)

/-- Whether a label may stand in a name that has characters which are written from right to left. -/
def directionFits (label : List Char) : Bool :=
  let classes := label.map Unicode.direction
  match classes with
  | [] => true
  | first :: rest =>
    keepsDirection (first :: (rest.reverse.dropWhile (· == .nonspacingMark)).reverse)

/-! ## Names -/

/-- The form of a name in which it is looked up, encoded labels still encoded; none if the
characters are no name of a domain. -/
def ofChars? (cs : List Char) : Option (List Char) := do
  let name ← mapped? cs
  let labels ← (Text.splitOn '.' name).mapM readLabel?
  if name.any isForbidden || labels.any beginsWithMark || !labels.all (joinersFit []) then none
  else if labels.any (·.any isRightToLeft) && !labels.all directionFits then none
  else some name

end FieldRules.DomainName
