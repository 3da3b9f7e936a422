import FieldRules.Json.Text
import FieldRules.Json.Token

/-!
# Scanning what has been written

A piece of a JSON text gives its tokens whatever comes after it (`Token.Yields`), and pieces that
follow each other give their tokens one after the other.  A text in quotation marks gives itself
back, however its characters are escaped (`Token.yields_quote`).
-/

set_option autoImplicit false

namespace FieldRules

namespace Token

/-! ## Characters in quotation marks -/

/-- The four digits of a character without a glyph of its own. -/
theorem hexNumber?_control {n : Nat} (h : n < 0x20) :
    Text.hexNumber? ['0', '0', Text.hexDigit (n / 16), Text.hexDigit (n % 16)] = some n := by
  revert n
  decide

/-- A character is found by its code point. -/
theorem char?_toNat (c : Char) : Text.char? c.toNat = some c := by
  have h : c.toNat.isValidChar := c.valid
  unfold Text.char?
  rw [dif_pos h]
  rfl

/-- The characters that are escaped with a letter or themselves. -/
def shortEscaped : List Char :=
  ['"', '\\', '\n', '\r', '\t', Char.ofNat 8, Char.ofNat 12]

/-- A character without a short escape stands for itself or is written by its code. -/
theorem escape_of_notMem {c : Char} (h : c ∉ shortEscaped) :
    Json.escape c =
      if c.toNat < 0x20 then
        ['\\', 'u', '0', '0', Text.hexDigit (c.toNat / 16), Text.hexDigit (c.toNat % 16)]
      else [c] := by
  simp only [shortEscaped, List.mem_cons, List.not_mem_nil, or_false, not_or] at h
  obtain ⟨hquote, hbackslash, hnewline, hreturn, htab, hbackspace, hfeed⟩ := h
  have hcode {n : Nat} (hn : c ≠ Char.ofNat n) : c.toNat ≠ n := by
    rintro rfl
    exact hn (Char.ofNat_toNat c).symm
  rw [Json.escape, if_neg hquote, if_neg hbackslash, if_neg hnewline, if_neg hreturn, if_neg htab,
    if_neg (hcode hbackspace), if_neg (hcode hfeed)]

/-- An escaped character is read back, whatever comes after it. -/
theorem scanQuoted_escape (done : List Char) (c : Char) (rest : List Char) :
    scanQuoted done (Json.escape c ++ rest) = scanQuoted (c :: done) rest := by
  by_cases hshort : c ∈ shortEscaped
  · simp only [shortEscaped, List.mem_cons, List.not_mem_nil, or_false] at hshort
    rcases hshort with rfl | rfl | rfl | rfl | rfl | rfl | rfl <;> simp [Json.escape, scanQuoted]
  · rw [escape_of_notMem hshort]
    split
    · rename_i hcontrol
      have hsurrogate : ¬(0xD800 ≤ c.toNat ∧ c.toNat < 0xDC00) := by omega
      simp [scanQuoted, hexNumber?_control hcontrol, hsurrogate, char?_toNat]
    · rename_i hcontrol
      simp only [shortEscaped, List.mem_cons, not_or] at hshort
      obtain ⟨hquote, hbackslash, -⟩ := hshort
      rw [List.singleton_append, scanQuoted]
      · simp [hcontrol, hbackslash]
      · exact hquote
      · intro _ _ _ _ _ h _
        exact hbackslash h
      · intro _ _ h _
        exact hbackslash h

/-- Escaped characters are read back up to the quotation mark after them. -/
theorem scanQuoted_flatMap_escape (done cs rest : List Char) :
    scanQuoted done (cs.flatMap Json.escape ++ '"' :: rest) =
      some (String.ofList (done.reverse ++ cs), rest) := by
  induction cs generalizing done with
  | nil => simp [scanQuoted]
  | cons c cs ih => simp [scanQuoted_escape, ih]

/-! ## Pieces -/

/-- Whether a piece of a text gives tokens, whatever comes after it.  A token of several characters
takes the fuel of one, so the piece may leave some to spare. -/
def Yields (piece : List Char) (tokens : List Token) : Prop :=
  ∃ spare, ∀ done fuel rest,
    scanFrom done (fuel + piece.length) (piece ++ rest) =
      scanFrom (tokens.reverse ++ done) (fuel + spare) rest

/-- Pieces that follow each other. -/
theorem Yields.append {piece piece' : List Char} {tokens tokens' : List Token}
    (h : Yields piece tokens) (h' : Yields piece' tokens') :
    Yields (piece ++ piece') (tokens ++ tokens') := by
  obtain ⟨spare, hscan⟩ := h
  obtain ⟨spare', hscan'⟩ := h'
  refine ⟨spare + spare', ?_⟩
  intro done fuel rest
  have hlength : fuel + (piece ++ piece').length = fuel + piece'.length + piece.length := by
    rw [List.length_append]
    omega
  have hfuel : fuel + piece'.length + spare = fuel + spare + piece'.length := by omega
  rw [hlength, List.append_assoc, hscan, hfuel, hscan', List.reverse_append, List.append_assoc,
    Nat.add_assoc]

/-- A piece that is one token. -/
theorem yields_of_first? {c : Char} {more : List Char} {t : Token} (hblank : isBlank c = false)
    (h : ∀ rest, first? (c :: (more ++ rest)) = some (t, rest)) : Yields (c :: more) [t] := by
  refine ⟨more.length, ?_⟩
  intro done fuel rest
  have hdrop : (c :: (more ++ rest)).dropWhile isBlank = c :: (more ++ rest) := by
    simp [hblank]
  rw [List.length_cons, ← Nat.add_assoc, List.cons_append, scanFrom, hdrop]
  simp only [h]
  rfl

/-- An opening bracket is one token. -/
theorem yields_openBracket : Yields ['['] [.openBracket] :=
  yields_of_first? rfl fun _ => rfl

/-- A closing bracket is one token. -/
theorem yields_closeBracket : Yields [']'] [.closeBracket] :=
  yields_of_first? rfl fun _ => rfl

/-- An opening brace is one token. -/
theorem yields_openBrace : Yields ['{'] [.openBrace] :=
  yields_of_first? rfl fun _ => rfl

/-- A closing brace is one token. -/
theorem yields_closeBrace : Yields ['}'] [.closeBrace] :=
  yields_of_first? rfl fun _ => rfl

/-- A comma is one token. -/
theorem yields_comma : Yields [','] [.comma] :=
  yields_of_first? rfl fun _ => rfl

/-- A colon is one token. -/
theorem yields_colon : Yields [':'] [.colon] :=
  yields_of_first? rfl fun _ => rfl

/-- The text of null is its token. -/
theorem yields_null : Yields ['n', 'u', 'l', 'l'] [.atom .null] :=
  yields_of_first? rfl fun _ => rfl

/-- The text of a truth value is its token. -/
theorem yields_bool (b : Bool) : Yields (Json.render (.bool b)).toList [.atom (.bool b)] := by
  cases b with
  | false =>
    show Yields ['f', 'a', 'l', 's', 'e'] [.atom (.bool false)]
    exact yields_of_first? rfl fun _ => rfl
  | true =>
    show Yields ['t', 'r', 'u', 'e'] [.atom (.bool true)]
    exact yields_of_first? rfl fun _ => rfl

/-- A quoted text is the token of that text. -/
theorem yields_quote (s : String) : Yields (Json.quote s).toList [.atom (.string s)] := by
  rw [Json.quote, String.toList_ofList]
  apply yields_of_first? rfl
  intro rest
  have hscan := scanQuoted_flatMap_escape [] s.toList rest
  rw [List.reverse_nil, List.nil_append, String.ofList_toList] at hscan
  rw [List.append_assoc, List.singleton_append, first?, hscan]
  rfl

/-- A text all of whose characters give tokens has these tokens. -/
theorem scan_of_yields {s : String} {tokens : List Token} (h : Yields s.toList tokens) :
    scan s = some tokens := by
  obtain ⟨spare, hscan⟩ := h
  have hone := hscan [] 1 []
  rw [List.append_nil, List.append_nil, Nat.add_comm 1, Nat.add_comm 1] at hone
  simp only [scan, hone]
  simp [scanFrom]

end Token

end FieldRules
