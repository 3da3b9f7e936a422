import FieldRules.Proofs.Text.Cutting
import FieldRules.Request.Basic

/-!
# Media types as they are written

A media type has parameters, the value of each a token or a text in quotation marks.  The scan for
the character set cuts the whole media type at its semicolons, those inside of quotation marks too.
So it finds what a quoted value hides after a semicolon, and of the value of a `charset` parameter
it takes what stands before the first semicolon, backslashes included.  Where nothing is hidden and
the value has neither, it takes the value (`Request.inputEncoding_ofFormOfType_iff`).
-/

set_option autoImplicit false

namespace FieldRules

/-! ## The grammar -/

namespace MediaType

/-- Whether a character may stand in a token: a visible one of ASCII that delimits nothing. -/
def isTokenChar (c : Char) : Bool :=
  decide (0x21 ≤ c.toNat ∧ c.toNat ≤ 0x7E) && !"\"(),/:;<=>?@[\\]\x7b\x7d".toList.contains c

/-- Whether a character may stand in a quoted text, maybe after a backslash. -/
def isQuotable (c : Char) : Bool :=
  c == '\t' || decide (0x20 ≤ c.toNat ∧ c.toNat ≠ 0x7F)

/-- Whether a character may stand in a quoted text without a backslash. -/
def isUnescaped (c : Char) : Bool :=
  isQuotable c && (c != '"' && c != '\\')

/-- A character of a quoted text. -/
structure QuotedChar where
  char : Char
  /-- Whether there is a backslash before it. -/
  escaped : Bool
  isQuotable_char : isQuotable char = true
  isUnescaped_char : escaped = false → isUnescaped char = true

def QuotedChar.text (c : QuotedChar) : List Char :=
  if c.escaped then ['\\', c.char] else [c.char]

/-- A nonempty row of token characters. -/
structure Token where
  chars : List Char
  ne_nil : chars ≠ [] := by decide
  all_isTokenChar : chars.all isTokenChar = true := by decide

/-- Blanks and tabs, or nothing. -/
structure Blank where
  chars : List Char
  all_blank : chars.all (fun c => c == ' ' || c == '\t') = true := by decide

/-- The value of a parameter. -/
inductive Value where
  | token (t : Token)
  | quoted (cs : List QuotedChar)

namespace Value

/-- A value as it is written. -/
def text : Value → List Char
  | token t => t.chars
  | quoted cs => '"' :: cs.flatMap QuotedChar.text ++ ['"']

/-- What a value says, without quotation marks and backslashes before characters. -/
def content : Value → List Char
  | token t => t.chars
  | quoted cs => cs.map QuotedChar.char

/-- The quoted value of characters that need no backslash. -/
def ofChars (cs : List Char) (h : cs.all isUnescaped = true) : Value :=
  .quoted (cs.pmap (fun c hc => ⟨c, false, (Bool.and_eq_true_iff.1 hc).1, fun _ => hc⟩)
    (List.all_eq_true.1 h))

/-- Whether a value is written without semicolons and backslashes. -/
def IsPlain (v : Value) : Prop :=
  ';' ∉ v.text ∧ '\\' ∉ v.text

end Value

/-- A parameter, with the white space around it. -/
structure Parameter where
  before : Blank
  name : Token
  value : Value
  after : Blank

namespace Parameter

def text (p : Parameter) : List Char :=
  p.before.chars ++ p.name.chars ++ '=' :: (p.value.text ++ p.after.chars)

/-- Whether a parameter names a character set: `charset` in either case, with a value that is not
empty. -/
def isCharset (p : Parameter) : Bool :=
  p.name.chars.map Char.toLower == "charset".toList && !p.value.content.isEmpty

/-- The first piece after a semicolon inside of a parameter that reads like one that names a
character set, taken for that. -/
def hidden? (p : Parameter) : Option (List Char) :=
  (Text.splitOn ';' p.text).tail.findSome? charsetOf?

end Parameter

end MediaType

/-- A media type with its parameters, a semicolon before each. -/
structure MediaType where
  type : MediaType.Token
  subtype : MediaType.Token
  after : MediaType.Blank
  parameters : List MediaType.Parameter

namespace MediaType

def text (m : MediaType) : String :=
  String.ofList (m.type.chars ++ '/' :: (m.subtype.chars ++ m.after.chars) ++
    m.parameters.flatMap fun p => ';' :: p.text)

/-- The first parameter that names a character set. -/
def charsetParameter? (m : MediaType) : Option Parameter :=
  m.parameters.find? Parameter.isCharset

/-- The parameters before that one; all of them, if there is none. -/
def leading (m : MediaType) : List Parameter :=
  m.parameters.takeWhile fun p => !p.isCharset

/-- The encoding that a media type asks for. -/
def encoding (m : MediaType) : String :=
  match m.charsetParameter? with
  | some p => String.ofList p.value.content
  | none => Encoding.defaultLabel

/-! ## Characters -/

/-- A character of a token is a visible one of ASCII, and none that separates tokens. -/
theorem Token.bounds {t : Token} {c : Char} (h : c ∈ t.chars) :
    0x21 ≤ c.toNat ∧ c.toNat ≤ 0x7E ∧ c ∉ "\"(),/:;<=>?@[\\]\x7b\x7d".toList := by
  have hc := List.all_eq_true.1 t.all_isTokenChar c h
  simp only [isTokenChar, Bool.and_eq_true, decide_eq_true_eq, Bool.not_eq_true',
    List.contains_eq_mem, decide_eq_false_iff_not] at hc
  exact ⟨hc.1.1, hc.1.2, hc.2⟩

/-- No character of a token is white space. -/
theorem Token.isSpace_of_mem {t : Token} {c : Char} (h : c ∈ t.chars) :
    Text.isSpace c = false := by
  obtain ⟨hlow, hhigh, -⟩ := Token.bounds h
  simp only [Text.isSpace, Bool.or_eq_false_iff, Bool.and_eq_false_iff, beq_eq_false_iff_ne,
    decide_eq_false_iff_not]
  omega

/-- A character that separates tokens is in none. -/
theorem Token.notMem {t : Token} {c : Char} (hc : c ∈ "\"(),/:;<=>?@[\\]\x7b\x7d".toList) :
    c ∉ t.chars :=
  fun h => (Token.bounds h).2.2 hc

/-- What may stand around a parameter is a blank or a tab. -/
theorem Blank.eq_or_eq_of_mem {b : Blank} {c : Char} (h : c ∈ b.chars) : c = ' ' ∨ c = '\t' := by
  have hc := List.all_eq_true.1 b.all_blank c h
  rwa [Bool.or_eq_true, beq_iff_eq, beq_iff_eq] at hc

/-- What may stand around a parameter is white space. -/
theorem Blank.isSpace_of_mem {b : Blank} {c : Char} (h : c ∈ b.chars) : Text.isSpace c = true := by
  rcases Blank.eq_or_eq_of_mem h with rfl | rfl
  · decide
  · decide

/-- Another character does not stand around a parameter. -/
theorem Blank.notMem (b : Blank) {c : Char} (hc : c ≠ ' ' ∧ c ≠ '\t') : c ∉ b.chars := by
  intro h
  rcases Blank.eq_or_eq_of_mem h with rfl | rfl
  · exact hc.1 rfl
  · exact hc.2 rfl

/-- A character written as it is is no quotation mark and no backslash. -/
theorem QuotedChar.ne_of_escaped {q : QuotedChar} (h : q.escaped = false) :
    q.char ≠ '"' ∧ q.char ≠ '\\' := by
  have hchar := q.isUnescaped_char h
  simp only [isUnescaped, Bool.and_eq_true, bne_iff_ne] at hchar
  exact hchar.2

/-- A quoted character is written with itself and perhaps a backslash. -/
theorem QuotedChar.eq_or_eq_of_mem_text {q : QuotedChar} {c : Char} (h : c ∈ q.text) :
    c = '\\' ∨ c = q.char := by
  unfold QuotedChar.text at h
  split at h
  · simpa using h
  · exact Or.inr (List.mem_singleton.1 h)

/-! ## Values -/

namespace Value

/-- A value does not begin with white space. -/
theorem head?_text (v : Value) : ∀ c ∈ v.text.head?, Text.isSpace c = false := by
  cases v with
  | token t => exact fun c hc => Token.isSpace_of_mem (List.mem_of_mem_head? hc)
  | quoted cs =>
    intro c hc
    obtain rfl : '"' = c := Option.some.inj hc
    decide

/-- A value does not end in white space. -/
theorem getLast?_text (v : Value) : ∀ c ∈ v.text.getLast?, Text.isSpace c = false := by
  cases v with
  | token t => exact fun c hc => Token.isSpace_of_mem (List.mem_of_mem_getLast? hc)
  | quoted cs =>
    intro c hc
    rw [text, List.getLast?_concat] at hc
    obtain rfl : '"' = c := Option.some.inj hc
    decide

/-- Trimming takes off what stands after a value. -/
theorem trim_text (v : Value) (after : Blank) : Text.trim (v.text ++ after.chars) = v.text := by
  have hnone : ∀ c ∈ ([] : List Char), Text.isSpace c = true := by simp
  exact Text.trimBy_padded hnone (fun c => Blank.isSpace_of_mem) v.head?_text v.getLast?_text

/-- A semicolon that is written is one that the value says. -/
theorem semicolon_mem_content {v : Value} (h : ';' ∈ v.text) : ';' ∈ v.content := by
  cases v with
  | token t => exact h
  | quoted cs =>
    rw [text, List.cons_append, List.mem_cons, List.mem_append, List.mem_singleton] at h
    rcases h with h | h | h
    · exact absurd h (by decide)
    · obtain ⟨q, hq, hmem⟩ := List.mem_flatMap.1 h
      rcases QuotedChar.eq_or_eq_of_mem_text hmem with h | h
      · exact absurd h (by decide)
      · exact List.mem_map.2 ⟨q, hq, h.symm⟩
    · exact absurd h (by decide)

/-- An empty value is written as two quotation marks. -/
theorem text_of_content_eq_nil {v : Value} (h : v.content = []) : v.text = ['"', '"'] := by
  cases v with
  | token t => exact absurd h t.ne_nil
  | quoted cs =>
    rw [List.map_eq_nil_iff.1 h]
    rfl

/-- Without backslashes a quoted text says what is written, and has no quotation marks. -/
theorem flatMap_text_of_notMem {cs : List QuotedChar} (h : '\\' ∉ cs.flatMap QuotedChar.text) :
    cs.flatMap QuotedChar.text = cs.map QuotedChar.char ∧ ∀ c ∈ cs, c.char ≠ '"' := by
  induction cs with
  | nil => simp
  | cons c cs ih =>
    rw [List.flatMap_cons, List.mem_append, not_or] at h
    obtain ⟨hc, hcs⟩ := h
    have hescaped : c.escaped = false := by
      cases hc' : c.escaped with
      | false => rfl
      | true => simp [QuotedChar.text, hc'] at hc
    obtain ⟨htext, hquote⟩ := ih hcs
    refine ⟨?_, List.forall_mem_cons.2 ⟨(QuotedChar.ne_of_escaped hescaped).1, hquote⟩⟩
    rw [List.flatMap_cons, htext, List.map_cons, QuotedChar.text, hescaped]
    rfl

/-- Quotation marks are taken off a text that has none of its own. -/
theorem trimBy_quotes {cs marks : List Char} (hcs : '"' ∉ cs)
    (hmarks : ∀ c ∈ marks, (c == '"') = true) :
    Text.trimBy (· == '"') (marks ++ cs ++ marks) = cs := by
  apply Text.trimBy_padded hmarks hmarks
  · intro c hc
    exact beq_false_of_ne fun e => hcs (e ▸ List.mem_of_mem_head? hc)
  · intro c hc
    exact beq_false_of_ne fun e => hcs (e ▸ List.mem_of_mem_getLast? hc)

/-- Without backslashes, quotation marks are all that has to be taken off a value. -/
theorem trimBy_text_of_notMem {v : Value} (h : '\\' ∉ v.text) :
    Text.trimBy (· == '"') v.text = v.content := by
  cases v with
  | token t =>
    have hquote : '"' ∉ t.chars := Token.notMem (by decide)
    have hnone : ∀ c ∈ ([] : List Char), (c == '"') = true := by simp
    have htrim := trimBy_quotes hquote hnone
    rwa [List.nil_append, List.append_nil] at htrim
  | quoted cs =>
    have hcs : '\\' ∉ cs.flatMap QuotedChar.text := by
      intro hmem
      exact h (List.mem_append_left _ (List.mem_cons_of_mem _ hmem))
    obtain ⟨htext, hchars⟩ := flatMap_text_of_notMem hcs
    have hquote : '"' ∉ cs.map QuotedChar.char := by
      intro hmem
      obtain ⟨c, hc, heq⟩ := List.mem_map.1 hmem
      exact hchars c hc heq
    have hmarks : ∀ c ∈ ['"'], (c == '"') = true := by simp
    rw [text, content, htext]
    exact trimBy_quotes hquote hmarks

/-- Written are the backslashes that are said, and one more for each escape. -/
theorem count_flatMap_text (cs : List QuotedChar) :
    (cs.flatMap QuotedChar.text).count '\\' =
      (cs.map QuotedChar.char).count '\\' + cs.countP QuotedChar.escaped := by
  induction cs with
  | nil => rfl
  | cons q cs ih =>
    rw [List.flatMap_cons, List.count_append, ih, List.map_cons, List.count_cons,
      List.countP_cons, QuotedChar.text]
    cases q.escaped with
    | false =>
      rw [if_neg Bool.false_ne_true, if_neg Bool.false_ne_true, List.count_singleton]
      omega
    | true =>
      rw [if_pos rfl, if_pos rfl, List.count_cons, List.count_singleton,
        if_pos (beq_self_eq_true _)]
      omega

/-- A value that is written with a backslash says fewer backslashes than are written. -/
theorem count_content_lt {v : Value} (h : '\\' ∈ v.text) :
    v.content.count '\\' < v.text.count '\\' := by
  cases v with
  | token t => exact absurd h (Token.notMem (by decide))
  | quoted cs =>
    have hcount : (quoted cs).text.count '\\' = (cs.flatMap QuotedChar.text).count '\\' := by
      simp [text, List.count_append]
    have hmem : '\\' ∈ cs.flatMap QuotedChar.text := by
      rwa [← List.count_pos_iff, ← hcount, List.count_pos_iff]
    have hescaped : 0 < cs.countP QuotedChar.escaped := by
      obtain ⟨q, hq, hslash⟩ := List.mem_flatMap.1 hmem
      rw [List.countP_pos_iff]
      refine ⟨q, hq, ?_⟩
      by_contra hplain
      have hplain' := eq_false_of_ne_true hplain
      rw [QuotedChar.text, hplain', if_neg Bool.false_ne_true, List.mem_singleton] at hslash
      exact (QuotedChar.ne_of_escaped hplain').2 hslash.symm
    rw [hcount, count_flatMap_text, content]
    omega

end Value

/-! ## The scan -/

/-- What is found in a piece has only characters of the piece. -/
theorem notMem_of_charsetOf? {piece label : List Char} (h : charsetOf? piece = some label)
    {c : Char} (hc : c ∉ piece) : c ∉ label := by
  unfold charsetOf? at h
  split at h
  · cases h
  · rename_i name value hsplit
    rw [Option.ite_none_right_eq_some] at h
    obtain rfl := Option.some.inj h.2
    obtain ⟨d, -, -, rfl⟩ := Text.splitFirst?_eq_some_iff.1 hsplit
    intro hmem
    have hvalue : c ∈ value :=
      (Text.trimBy_sublist _ value).subset ((Text.trimBy_sublist _ _).subset hmem)
    exact hc (List.mem_append_right _ (List.mem_cons_of_mem _ hvalue))

/-- Trimming takes off what stands before the name of a parameter. -/
theorem trim_name (before : Blank) (name : Token) :
    Text.trim (before.chars ++ name.chars) = name.chars := by
  have hnone : ∀ c ∈ ([] : List Char), Text.isSpace c = true := by simp
  have htrim : Text.trim (before.chars ++ name.chars ++ []) = name.chars := by
    apply Text.trimBy_padded (fun c => Blank.isSpace_of_mem) hnone
    · exact fun c hc => Token.isSpace_of_mem (List.mem_of_mem_head? hc)
    · exact fun c hc => Token.isSpace_of_mem (List.mem_of_mem_getLast? hc)
  rwa [List.append_nil] at htrim

/-- What is found in a piece that begins like a parameter. -/
theorem charsetOf?_parameter (before : Blank) (name : Token) (value : List Char) :
    charsetOf? (before.chars ++ name.chars ++ '=' :: value) =
      if name.chars.map Char.toLower = "charset".toList ∧
          Text.trimBy (· == '"') (Text.trim value) ≠ [] then
        some (Text.trimBy (· == '"') (Text.trim value))
      else none := by
  have hequals : ∀ c ∈ before.chars ++ name.chars, (c == '=') = false := by
    intro c hc
    apply beq_false_of_ne
    rintro rfl
    rcases List.mem_append.1 hc with hc | hc
    · exact before.notMem (by decide) hc
    · exact Token.notMem (by decide) hc
  have hsplit : Text.splitFirst? (· == '=') (before.chars ++ name.chars ++ '=' :: value) =
      some (before.chars ++ name.chars, value) :=
    Text.splitFirst?_eq_some_iff.2 ⟨'=', rfl, hequals, rfl⟩
  simp only [charsetOf?, hsplit, trim_name]

namespace Parameter

/-- What the scan finds in a parameter. -/
def taken? (p : Parameter) : Option (List Char) :=
  (Text.splitOn ';' p.text).findSome? charsetOf?

/-- The first piece of a parameter is its name with the first piece of its value. -/
theorem splitOn_text {p : Parameter} {piece : List Char} {pieces : List (List Char)}
    (h : Text.splitOn ';' (p.value.text ++ p.after.chars) = piece :: pieces) :
    Text.splitOn ';' p.text = (p.before.chars ++ p.name.chars ++ '=' :: piece) :: pieces := by
  have hfront : ';' ∉ p.before.chars ++ p.name.chars ++ ['='] := by
    simp only [List.mem_append, List.mem_singleton, not_or]
    exact ⟨⟨p.before.notMem (by decide), Token.notMem (by decide)⟩, by decide⟩
  have htext : p.text =
      p.before.chars ++ p.name.chars ++ ['='] ++ (p.value.text ++ p.after.chars) := by
    simp [text]
  rw [htext, Text.splitOn_append_of_notMem hfront h]
  simp

/-- Without semicolons in its value a parameter is one piece. -/
theorem splitOn_text_of_notMem {p : Parameter} (h : ';' ∉ p.value.text) :
    Text.splitOn ';' p.text = [p.text] := by
  apply splitOn_text
  apply Text.splitOn_of_notMem
  rw [List.mem_append, not_or]
  exact ⟨h, p.after.notMem (by decide)⟩

/-- What stands after the equals sign has a first piece. -/
theorem exists_splitOn (p : Parameter) :
    ∃ piece pieces, Text.splitOn ';' (p.value.text ++ p.after.chars) = piece :: pieces := by
  cases h : Text.splitOn ';' (p.value.text ++ p.after.chars) with
  | nil => exact absurd h (Text.splitOn_ne_nil _)
  | cons piece pieces => exact ⟨piece, pieces, rfl⟩

/-- A parameter names a character set if it is called so and its value is not empty. -/
theorem isCharset_iff (p : Parameter) :
    p.isCharset = true ↔
      p.name.chars.map Char.toLower = "charset".toList ∧ p.value.content ≠ [] := by
  simp [isCharset]

/-- Without semicolons the scan takes the value without the quotation marks around it. -/
theorem taken?_of_notMem {p : Parameter} (h : ';' ∉ p.value.text) :
    p.taken? =
      if p.name.chars.map Char.toLower = "charset".toList ∧
          Text.trimBy (· == '"') p.value.text ≠ [] then
        some (Text.trimBy (· == '"') p.value.text)
      else none := by
  rw [taken?, splitOn_text_of_notMem h, List.findSome?_singleton, text, charsetOf?_parameter,
    Value.trim_text]

/-- In a parameter that names no character set the scan finds only what is hidden. -/
theorem taken?_eq_hidden? {p : Parameter} (h : p.isCharset = false) : p.taken? = p.hidden? := by
  have hnot : ¬(p.name.chars.map Char.toLower = "charset".toList ∧ p.value.content ≠ []) := by
    rw [← isCharset_iff, h]
    exact Bool.false_ne_true
  by_cases hname : p.name.chars.map Char.toLower = "charset".toList
  · have hempty : p.value.content = [] := by
      by_contra hne
      exact hnot ⟨hname, hne⟩
    have htext := Value.text_of_content_eq_nil hempty
    have hsemicolon : ';' ∉ p.value.text := by
      rw [htext]
      decide
    have hnone : p.taken? = none := by
      rw [taken?_of_notMem hsemicolon, htext]
      exact if_neg fun hne => hne.2 rfl
    rw [hnone, hidden?, splitOn_text_of_notMem hsemicolon]
    rfl
  · obtain ⟨piece, pieces, hsplit⟩ := p.exists_splitOn
    rw [taken?, hidden?, splitOn_text hsplit, List.findSome?_cons, charsetOf?_parameter,
      if_neg fun hboth => hname hboth.1]
    rfl

/-- The scan takes a plain value as it is meant. -/
theorem taken?_of_isPlain {p : Parameter} (h : p.isCharset = true) (hplain : p.value.IsPlain) :
    p.taken? = some p.value.content := by
  rw [taken?_of_notMem hplain.1, Value.trimBy_text_of_notMem hplain.2]
  exact if_pos ((isCharset_iff p).1 h)

/-- The scan never takes a value as it is meant that is not plain. -/
theorem taken?_ne_of_not_isPlain {p : Parameter} (h : p.isCharset = true)
    (hplain : ¬p.value.IsPlain) (hsemicolon : ';' ∉ p.value.text) :
    ∃ label, p.taken? = some label ∧ label ≠ p.value.content := by
  have hslash : '\\' ∈ p.value.text := by
    by_contra hslash
    exact hplain ⟨hsemicolon, hslash⟩
  have hcount : (Text.trimBy (· == '"') p.value.text).count '\\' = p.value.text.count '\\' :=
    Text.count_trimBy (by decide) _
  have hlt := Value.count_content_lt hslash
  refine ⟨Text.trimBy (· == '"') p.value.text, ?_, ?_⟩
  · rw [taken?_of_notMem hsemicolon]
    apply if_pos
    refine ⟨((isCharset_iff p).1 h).1, ?_⟩
    intro hnil
    rw [hnil, List.count_nil] at hcount
    omega
  · intro heq
    rw [heq] at hcount
    omega

/-- The scan never takes a semicolon. -/
theorem semicolon_notMem_of_taken? {p : Parameter} {label : List Char}
    (h : p.taken? = some label) : ';' ∉ label := by
  obtain ⟨piece, hpiece, hlabel⟩ := List.exists_of_findSome?_eq_some h
  exact notMem_of_charsetOf? hlabel (Text.notMem_of_mem_splitOn hpiece)

/-- So the scan comes to another encoding, also where it goes on to the parameters after that. -/
theorem findSome?_taken?_ne {p : Parameter} (h : p.isCharset = true) (hplain : ¬p.value.IsPlain)
    (rest : List Parameter) :
    (((p :: rest).findSome? taken?).map String.ofList).getD Encoding.defaultLabel ≠
      String.ofList p.value.content := by
  by_cases hsemicolon : ';' ∈ p.value.text
  · -- the value says a semicolon, and the scan never finds one
    have hcontent := Value.semicolon_mem_content hsemicolon
    intro heq
    cases hfound : (p :: rest).findSome? taken? with
    | none =>
      rw [hfound] at heq
      have hdefault : Encoding.defaultLabel = String.ofList p.value.content := heq
      rw [← String.toList_ofList (l := p.value.content), ← hdefault] at hcontent
      exact absurd hcontent (by decide)
    | some label =>
      rw [hfound] at heq
      obtain ⟨q, -, hq⟩ := List.exists_of_findSome?_eq_some hfound
      obtain rfl : label = p.value.content := String.ofList_injective heq
      exact semicolon_notMem_of_taken? hq hcontent
  · obtain ⟨label, htaken, hne⟩ := taken?_ne_of_not_isPlain h hplain hsemicolon
    rw [List.findSome?_cons, htaken]
    exact fun heq => hne (String.ofList_injective heq)

/-- The scan of several parameters finds first what is hidden before the first character set. -/
theorem findSome?_taken? (ps : List Parameter) :
    ps.findSome? taken? =
      ((ps.takeWhile fun p => !p.isCharset).findSome? hidden?).or
        ((ps.dropWhile fun p => !p.isCharset).findSome? taken?) := by
  induction ps with
  | nil => rfl
  | cons p rest ih =>
    cases h : p.isCharset with
    | true => simp [h]
    | false =>
      rw [List.findSome?_cons, taken?_eq_hidden? h, List.takeWhile_cons_of_pos (by simp [h]),
        List.dropWhile_cons_of_pos (by simp [h]), List.findSome?_cons]
      cases p.hidden? with
      | some label => rfl
      | none => exact ih

/-- The pieces of parameters, with a semicolon before each. -/
theorem splitOn_flatMap (front : List Char) (ps : List Parameter) :
    Text.splitOn ';' (front ++ ps.flatMap fun p => ';' :: p.text) =
      Text.splitOn ';' front ++ ps.flatMap fun p => Text.splitOn ';' p.text := by
  induction ps generalizing front with
  | nil => simp
  | cons p rest ih =>
    rw [List.flatMap_cons, List.flatMap_cons, List.cons_append, Text.splitOn_append, ih]

/-- The scan of the pieces of several parameters goes parameter by parameter. -/
theorem findSome?_flatMap_splitOn (ps : List Parameter) :
    (ps.flatMap fun p => Text.splitOn ';' p.text).findSome? charsetOf? = ps.findSome? taken? := by
  induction ps with
  | nil => rfl
  | cons p rest ih =>
    rw [List.flatMap_cons, List.findSome?_append, ih, List.findSome?_cons, taken?]
    cases (Text.splitOn ';' p.text).findSome? charsetOf? with
    | some label => rfl
    | none => rfl

end Parameter

/-- What the scan of a whole media type finds. -/
theorem charset?_text (m : MediaType) :
    charset? m.text = (m.parameters.findSome? Parameter.taken?).map String.ofList := by
  have hfront : ';' ∉ m.type.chars ++ '/' :: (m.subtype.chars ++ m.after.chars) := by
    simp only [List.mem_append, List.mem_cons, not_or]
    refine ⟨Token.notMem (by decide), by decide, Token.notMem (by decide), ?_⟩
    exact m.after.notMem (by decide)
  rw [charset?, text, String.toList_ofList, Parameter.splitOn_flatMap,
    Text.splitOn_of_notMem hfront, List.singleton_append, List.drop_one, List.tail_cons,
    Parameter.findSome?_flatMap_splitOn]

end MediaType

namespace Request

/-- The encoding is what the scan of the parameters finds. -/
theorem inputEncoding_ofFormOfType (m : MediaType) (body : List UInt8) :
    (ofFormOfType body m.text).inputEncoding =
      ((m.parameters.findSome? MediaType.Parameter.taken?).map String.ofList).getD
        Encoding.defaultLabel := by
  rw [← MediaType.charset?_text, ofFormOfType]
  cases MediaType.charset? m.text with
  | some label => rfl
  | none => rfl

/-- **The character set of a media type.**  Take any media type, and see whether a parameter before
the first one that names a character set has a quoted value with a piece after a semicolon that
reads like such a parameter.  If there is one, the first of them is taken for the encoding.  If
there is none, the encoding is the one that the media type asks for exactly if the value that names
it, if there is one, is written without semicolons and backslashes. -/
theorem inputEncoding_ofFormOfType_iff (m : MediaType) (body : List UInt8) :
    match m.leading.findSome? MediaType.Parameter.hidden? with
    | some label => (ofFormOfType body m.text).inputEncoding = String.ofList label
    | none =>
      (ofFormOfType body m.text).inputEncoding = m.encoding ↔
        ∀ p ∈ m.charsetParameter?, p.value.IsPlain := by
  have hscan : m.parameters.findSome? MediaType.Parameter.taken? =
      (m.leading.findSome? MediaType.Parameter.hidden?).or
        ((m.parameters.dropWhile fun p => !p.isCharset).findSome? MediaType.Parameter.taken?) :=
    MediaType.Parameter.findSome?_taken? m.parameters
  have hfirst : m.charsetParameter? = (m.parameters.dropWhile fun p => !p.isCharset).head? :=
    List.find?_eq_head?_dropWhile_not _ _
  rw [inputEncoding_ofFormOfType, hscan, MediaType.encoding]
  cases hhidden : m.leading.findSome? MediaType.Parameter.hidden? with
  | some label => rfl
  | none =>
    -- Nothing is hidden, so the first parameter that names a character set decides.
    rw [Option.none_or]
    cases hrest : m.parameters.dropWhile fun p => !p.isCharset with
    | nil =>
      rw [hrest] at hfirst
      rw [hfirst]
      exact iff_of_true rfl (by simp)
    | cons p rest =>
      rw [hrest] at hfirst
      have hcharset : p.isCharset = true := List.find?_some hfirst
      rw [hfirst]
      constructor
      · intro heq q hq
        obtain rfl := Option.some.inj hq
        by_contra hplain
        exact MediaType.Parameter.findSome?_taken?_ne hcharset hplain rest heq
      · intro hplain
        have htaken := MediaType.Parameter.taken?_of_isPlain hcharset (hplain p rfl)
        rw [List.findSome?_cons, htaken]
        rfl

/-- A media type whose one parameter is `x`. -/
def hidingMediaType : MediaType where
  type := { chars := "text".toList }
  subtype := { chars := "plain".toList }
  after := { chars := [] }
  parameters :=
    [{ before := { chars := [' '] }
       name := { chars := ['x'] }
       value := .ofChars "; charset=ISO-8859-1".toList (by decide)
       after := { chars := [] } }]

/-- What a parameter hides in quotation marks is taken for the encoding, though no parameter names
one. -/
theorem inputEncoding_ne_encoding_of_hidden :
    hidingMediaType.text = "text/plain; x=\"; charset=ISO-8859-1\"" ∧
      hidingMediaType.encoding = "UTF-8" ∧
      (ofFormOfType [] hidingMediaType.text).inputEncoding = "ISO-8859-1" := by
  decide +kernel

end Request

end FieldRules
