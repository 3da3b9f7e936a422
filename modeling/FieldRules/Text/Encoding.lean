import FieldRules.Text.Space

/-!
# Encodings and lengths

The length of a text depends on the encoding in which its characters are counted: by Unicode scalar
values, by UTF-16 code units, or by bytes.
-/

set_option autoImplicit false

namespace FieldRules

/-- How the length of a text is counted. -/
inductive Encoding where
  /-- One for each Unicode scalar value. -/
  | scalar
  /-- One for each UTF-16 code unit. -/
  | utf16
  /-- One for each byte of the text in UTF-8. -/
  | singleByte
deriving DecidableEq, Repr

namespace Encoding

/-- The label of the encoding that counts when none is given. -/
def defaultLabel : String := "UTF-8"

/-- A label without white space around it, hyphens, underscores and blanks, and in lower case. -/
def normalizeLabel (label : String) : List Char :=
  ((Text.trim label.toList).filter fun c => c != '-' && c != '_' && c != ' ').map Char.toLower

/-- The labels of the encodings with one character for each scalar value. -/
def scalarLabels : List String :=
  ["utf8", "utf32", "utf32be", "utf32le", "ucs4", "ucs4be", "ucs4le"]

/-- The labels of the encodings with one character for each UTF-16 code unit. -/
def utf16Labels : List String :=
  ["utf16", "utf16be", "utf16le", "ucs2", "ucs2be", "ucs2le"]

/-- The labels of the encodings with one character for each byte. -/
def byteLabels : List String :=
  ["ascii", "usascii", "8bit", "binary", "pass", "latin1"]

/-- How the labels of families of encodings with one character for each byte begin. -/
def byteFamilies : List String :=
  ["iso8859", "windows125", "cp125"]

/-- The encoding that a label denotes, none if it is unknown. -/
def ofLabel? (label : String) : Option Encoding :=
  let name := normalizeLabel label
  if scalarLabels.any (·.toList == name) then some .scalar
  else if utf16Labels.any (·.toList == name) then some .utf16
  else if byteLabels.any (·.toList == name) then some .singleByte
  else if byteFamilies.any (·.toList.isPrefixOf name) then some .singleByte
  else none

/-- How much one character counts. -/
def width : Encoding → Char → Nat
  | .scalar, _ => 1
  | .utf16, c => if c.toNat < 0x10000 then 1 else 2
  | .singleByte, c => c.utf8Size

/-- The length of a text. -/
def measure (e : Encoding) (s : String) : Nat :=
  (s.toList.map e.width).foldr (· + ·) 0

end Encoding

end FieldRules
