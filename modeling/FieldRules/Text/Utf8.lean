import FieldRules.Text.Digits

/-!
# UTF-8

`Utf8.encode` gives the bytes of a text.  Bytes need not be the encoding of anything: `Utf8.decode?`
refuses such bytes, and `Utf8.decodeLossy` puts a replacement character in the place of each piece
that is as much of the encoding of a character as there is, or of a byte that no character begins
with.
-/

set_option autoImplicit false

namespace FieldRules.Utf8

/-- The bytes of a text. -/
def encode (cs : List Char) : List UInt8 :=
  cs.flatMap String.utf8EncodeChar

/-! ## Decoding -/

/-- A character of which some bytes have been read: the bits they hold, and the ranges that the
bytes to come must lie in. -/
structure Begun where
  bits : Nat
  due : List (UInt8 × UInt8)

/-- The range of the bytes that continue a character. -/
def continuation : UInt8 × UInt8 := (0x80, 0xBF)

/-- The bits in a byte that begins a character, and the ranges of the bytes that may follow it.
They leave out encodings that are longer than need be, surrogates, and what lies above U+10FFFF. -/
def begin? (b : UInt8) : Option Begun :=
  if b < 0x80 then some ⟨b.toNat, []⟩
  else if b < 0xC2 then none
  else if b < 0xE0 then some ⟨b.toNat - 0xC0, [continuation]⟩
  else if b = 0xE0 then some ⟨0, [(0xA0, 0xBF), continuation]⟩
  else if b = 0xED then some ⟨0xD, [(0x80, 0x9F), continuation]⟩
  else if b < 0xF0 then some ⟨b.toNat - 0xE0, [continuation, continuation]⟩
  else if b = 0xF0 then some ⟨0, [(0x90, 0xBF), continuation, continuation]⟩
  else if b < 0xF4 then some ⟨b.toNat - 0xF0, [continuation, continuation, continuation]⟩
  else if b = 0xF4 then some ⟨4, [(0x80, 0x8F), continuation, continuation]⟩
  else none

/-- Reads a byte that nothing has been begun before: what it completes, and what it begins. -/
def start (b : UInt8) : List (Option Char) × Option Begun :=
  match begin? b with
  | none => ([none], none)
  | some ⟨bits, []⟩ => ([Text.char? bits], none)
  | some begun => ([], some begun)

/-- Reads one byte: what it completes, and what is begun after it.  A byte out of its range leaves a
piece behind and starts afresh. -/
def step (begun : Option Begun) (b : UInt8) : List (Option Char) × Option Begun :=
  match begun with
  | none => start b
  | some ⟨_, []⟩ => start b
  | some ⟨bits, (low, high) :: due⟩ =>
    if low ≤ b ∧ b ≤ high then
      let bits := 64 * bits + b.toNat % 64
      if due.isEmpty then ([Text.char? bits], none) else ([], some ⟨bits, due⟩)
    else
      (none :: (start b).1, (start b).2)

/-- The bytes as characters, after what is `begun`; none for each piece that is not the encoding of
a character. -/
def piecesFrom (begun : Option Begun) : List UInt8 → List (Option Char)
  | [] => if begun.isSome then [none] else []
  | b :: rest => (step begun b).1 ++ piecesFrom (step begun b).2 rest

/-- The bytes as characters, none for each piece that is not the encoding of a character. -/
def pieces (bytes : List UInt8) : List (Option Char) :=
  piecesFrom none bytes

/-- The text with the given bytes, if there is one. -/
def decode? (bytes : List UInt8) : Option (List Char) :=
  (pieces bytes).mapM id

/-- The character that stands for what cannot be decoded. -/
def replacement : Char := '\ufffd'

/-- The text with the given bytes, with replacement characters where they are not the encoding of
any. -/
def decodeLossy (bytes : List UInt8) : List Char :=
  (pieces bytes).map (·.getD replacement)

end FieldRules.Utf8
