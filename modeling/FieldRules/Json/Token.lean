import FieldRules.Json.Numeral
import FieldRules.Text.Digits

/-!
# JSON tokens

`Token.scan` cuts a JSON text into its tokens, or refuses it: a number must follow the JSON grammar
and be in range, and an escape must name a character, surrogates coming in pairs.
-/

set_option autoImplicit false

namespace FieldRules

/-- A token of a JSON text. -/
inductive Token where
  | openBracket
  | closeBracket
  | openBrace
  | closeBrace
  | comma
  | colon
  /-- A value that is one token. -/
  | atom (value : Json)

namespace Token

/-- The characters of a quoted text after its opening quotation mark, and what follows it; `done`
holds the characters that have been read, the last one first. -/
def scanQuoted (done : List Char) : List Char → Option (String × List Char)
  | [] => none
  | '"' :: rest => some (String.ofList done.reverse, rest)
  | '\\' :: 'u' :: a :: b :: c :: d :: rest =>
    match Text.hexNumber? [a, b, c, d] with
    | none => none
    | some high =>
      if 0xD800 ≤ high ∧ high < 0xDC00 then
        match rest with
        | '\\' :: 'u' :: e :: f :: g :: h :: rest' =>
          match Text.hexNumber? [e, f, g, h] with
          | none => none
          | some low =>
            if 0xDC00 ≤ low ∧ low < 0xE000 then
              scanQuoted
                (Char.ofNat (0x10000 + (high - 0xD800) * 0x400 + (low - 0xDC00)) :: done) rest'
            else
              none
        | _ => none
      else
        match Text.char? high with
        | some x => scanQuoted (x :: done) rest
        | none => none
  | '\\' :: x :: rest =>
    if x = '"' ∨ x = '\\' ∨ x = '/' then scanQuoted (x :: done) rest
    else if x = 'b' then scanQuoted (Char.ofNat 8 :: done) rest
    else if x = 'f' then scanQuoted (Char.ofNat 12 :: done) rest
    else if x = 'n' then scanQuoted ('\n' :: done) rest
    else if x = 'r' then scanQuoted ('\r' :: done) rest
    else if x = 't' then scanQuoted ('\t' :: done) rest
    else none
  | x :: rest => if x.toNat < 0x20 ∨ x = '\\' then none else scanQuoted (x :: done) rest

/-- The fraction digits of a number, and what follows them; none if a point stands without any. -/
def scanFraction : List Char → Option (List Char × List Char)
  | '.' :: rest =>
    let digits := rest.takeWhile Char.isDigit
    if digits.isEmpty then none else some (digits, rest.dropWhile Char.isDigit)
  | rest => some ([], rest)

/-- The digits of an exponent, and what follows them; none if there are none. -/
def scanExponentDigits (negative : Bool) (cs : List Char) : Option (Int × List Char) :=
  let digits := cs.takeWhile Char.isDigit
  if digits.isEmpty then none
  else
    let n : Int := Text.numeralValue digits
    some (if negative then -n else n, cs.dropWhile Char.isDigit)

/-- The exponent of a number, and what follows it; none if its mark stands without digits. -/
def scanExponent : List Char → Option (Option Int × List Char)
  | c :: rest =>
    if c = 'e' ∨ c = 'E' then
      let found := match rest with
        | '-' :: rest' => scanExponentDigits true rest'
        | '+' :: rest' => scanExponentDigits false rest'
        | rest' => scanExponentDigits false rest'
      found.map fun (n, after) => (some n, after)
    else
      some (none, c :: rest)
  | [] => some (none, [])

/-- A number after its sign, and what follows it. -/
def scanNumber (negative : Bool) (cs : List Char) : Option (Number × List Char) := do
  let whole := cs.takeWhile Char.isDigit
  if whole.isEmpty ∨ (whole.head? = some '0' ∧ whole.length ≠ 1) then
    none
  else
    let (fraction, rest) ← scanFraction (cs.dropWhile Char.isDigit)
    let (exponent, rest) ← scanExponent rest
    let n ← Numeral.value? ⟨negative, whole, fraction, exponent⟩
    some (n, rest)

/-- The first token of a text that begins with one, and what follows it. -/
def first? : List Char → Option (Token × List Char)
  | '[' :: rest => some (.openBracket, rest)
  | ']' :: rest => some (.closeBracket, rest)
  | '{' :: rest => some (.openBrace, rest)
  | '}' :: rest => some (.closeBrace, rest)
  | ',' :: rest => some (.comma, rest)
  | ':' :: rest => some (.colon, rest)
  | '"' :: rest => (scanQuoted [] rest).map fun (s, after) => (.atom (.string s), after)
  | 'n' :: 'u' :: 'l' :: 'l' :: rest => some (.atom .null, rest)
  | 't' :: 'r' :: 'u' :: 'e' :: rest => some (.atom (.bool true), rest)
  | 'f' :: 'a' :: 'l' :: 's' :: 'e' :: rest => some (.atom (.bool false), rest)
  | '-' :: rest => (scanNumber true rest).map fun (n, after) => (.atom (.number n), after)
  | cs => (scanNumber false cs).map fun (n, after) => (.atom (.number n), after)

/-- Whether a character may stand between tokens. -/
def isBlank (c : Char) : Bool :=
  c = ' ' || c = '\n' || c = '\t' || c = '\r'

/-- The tokens of a text; `done` holds those that have been read, the last one first, and `fuel`
bounds how many more are read. -/
def scanFrom (done : List Token) : (fuel : Nat) → List Char → Option (List Token)
  | 0, _ => none
  | fuel + 1, cs =>
    match cs.dropWhile isBlank with
    | [] => some done.reverse
    | rest =>
      match first? rest with
      | some (t, after) => scanFrom (t :: done) fuel after
      | none => none

/-- The tokens of a text, none if some part of it is not a token. -/
def scan (s : String) : Option (List Token) :=
  let cs := s.toList
  scanFrom [] (cs.length + 1) cs

end Token

end FieldRules
