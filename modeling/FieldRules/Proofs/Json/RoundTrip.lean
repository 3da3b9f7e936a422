import FieldRules.Json.Reader
import FieldRules.Proofs.Entries
import FieldRules.Proofs.Json.Scanning

/-!
# Values and their texts

A value without numbers, in which no object has a key twice, is read back from its text
(`Json.Plain.parse?_render`).
-/

set_option autoImplicit false

namespace FieldRules

namespace Json

/-- Whether a value has no numbers and no object with a key twice, and nests arrays and objects at
most `depth` deep. -/
inductive Plain : (depth : Nat) → Json → Prop where
  | null (depth : Nat) : Plain depth .null
  | bool (depth : Nat) (b : Bool) : Plain depth (.bool b)
  | string (depth : Nat) (s : String) : Plain depth (.string s)
  | array {depth : Nat} {items : List Json} (hitems : ∀ item ∈ items, Plain depth item) :
    Plain (depth + 1) (.array items)
  | object {depth : Nat} {entries : Entries Json} (hkeys : (Entries.keys entries).Nodup)
      (hentries : ∀ p ∈ entries, Plain depth p.2) : Plain (depth + 1) (.object entries)

/-- Whether tokens are read as a value, whatever comes after them, where arrays and objects may nest
`depth` deep. -/
def Spells (depth : Nat) (tokens : List Token) (v : Json) : Prop :=
  ∀ fuel rest, tokens.length ≤ fuel → ∀ depth' ≥ depth,
    readValue fuel depth' (tokens ++ rest) = some (v, rest)

/-- Whether the text of a value gives tokens that are read as the value. -/
def IsReadable (depth : Nat) (v : Json) : Prop :=
  ∃ tokens, Token.Yields (render v).toList tokens ∧ Spells depth tokens v

/-! ## Scalars -/

/-- A scalar is read from its token, however deep it may stand. -/
theorem spells_atom (depth : Nat) (v : Json) : Spells depth [.atom v] v := by
  intro fuel rest hfuel depth' _
  cases fuel with
  | zero => simp at hfuel
  | succ fuel => rfl

/-- No value begins with a closing bracket. -/
theorem readValue_closeBracket (fuel depth : Nat) (rest : List Token) :
    readValue fuel depth (.closeBracket :: rest) = none := by
  cases fuel with
  | zero => rfl
  | succ fuel => cases depth <;> rfl

/-- No value begins with a closing bracket. -/
theorem Spells.ne_closeBracket {depth : Nat} {tokens : List Token} {v : Json}
    (h : Spells depth tokens v) (rest more : List Token) :
    tokens ++ rest ≠ .closeBracket :: more := by
  intro heq
  have hread := h tokens.length rest (Nat.le_refl _) depth (Nat.le_refl _)
  rw [heq, readValue_closeBracket] at hread
  cases hread

/-- What begins with a bracket or a brace takes one step and one level for it. -/
theorem spells_cons {depth : Nat} {t : Token} {tokens : List Token} {v : Json}
    (h : ∀ fuel rest, tokens.length ≤ fuel → ∀ depth' ≥ depth,
      readValue (fuel + 1) (depth' + 1) (t :: (tokens ++ rest)) = some (v, rest)) :
    Spells (depth + 1) (t :: tokens) v := by
  intro fuel rest hfuel depth' hdepth
  rw [List.length_cons] at hfuel
  cases fuel with
  | zero => omega
  | succ fuel =>
    cases depth' with
    | zero => omega
    | succ depth' => exact h fuel rest (by omega) depth' (by omega)

/-! ## Arrays -/

/-- The values of an array, up to the closing bracket. -/
theorem exists_readItems {depth : Nat} {item : Json} {items : List Json}
    (h : ∀ v ∈ item :: items, IsReadable depth v) :
    ∃ tokens,
      Token.Yields (String.intercalate "," (renderItems (item :: items))).toList tokens ∧
        (∀ rest more, tokens ++ rest ≠ .closeBracket :: more) ∧
        ∀ fuel done rest, tokens.length < fuel → ∀ depth' ≥ depth,
          readItems fuel depth' done (tokens ++ .closeBracket :: rest) =
            some (.array (done.reverse ++ item :: items), rest) := by
  induction items generalizing item with
  | nil =>
    obtain ⟨tokens, hyields, hspells⟩ := h item List.mem_cons_self
    refine ⟨tokens, by simpa [renderItems] using hyields, hspells.ne_closeBracket, ?_⟩
    intro fuel done rest hfuel depth' hdepth
    -- Each item takes one step of fuel, and at least one token.
    cases fuel with
    | zero => omega
    | succ fuel =>
      rw [readItems, hspells fuel _ (by omega) depth' hdepth]
      simp
  | cons next items ih =>
    obtain ⟨tokens, hyields, hspells⟩ := h item List.mem_cons_self
    obtain ⟨others, hothers, -, hread⟩ := ih fun v hv => h v (List.mem_cons_of_mem _ hv)
    refine ⟨tokens ++ .comma :: others, ?_, ?_, ?_⟩
    · have htext : (String.intercalate "," (renderItems (item :: next :: items))).toList =
          (render item).toList ++ ([','] ++
            (String.intercalate "," (renderItems (next :: items))).toList) := by
        simp [renderItems, String.toList_intercalate]
      rw [htext]
      exact hyields.append (Token.yields_comma.append hothers)
    · intro rest more
      rw [List.append_assoc]
      exact hspells.ne_closeBracket _ more
    · intro fuel done rest hfuel depth' hdepth
      rw [List.length_append, List.length_cons] at hfuel
      cases fuel with
      | zero => omega
      | succ fuel =>
        rw [readItems, List.append_assoc, hspells fuel _ (by omega) depth' hdepth]
        simp only [List.cons_append]
        rw [hread fuel _ rest (by omega) depth' hdepth]
        simp

/-- After an opening bracket items are read, unless the array is empty. -/
theorem readValue_openBracket {tokens : List Token} (h : ∀ more, tokens ≠ .closeBracket :: more)
    (fuel depth : Nat) :
    readValue (fuel + 1) (depth + 1) (.openBracket :: tokens) = readItems fuel depth [] tokens := by
  rw [readValue]
  exact h

/-- An array of readable items is readable. -/
theorem isReadable_array {depth : Nat} {items : List Json}
    (h : ∀ item ∈ items, IsReadable depth item) : IsReadable (depth + 1) (.array items) := by
  cases items with
  | nil =>
    refine ⟨[.openBracket, .closeBracket], ?_, ?_⟩
    · exact Token.yields_openBracket.append Token.yields_closeBracket
    · apply spells_cons
      intro fuel rest _ depth' _
      rfl
  | cons item items =>
    obtain ⟨tokens, hyields, hhead, hread⟩ := exists_readItems h
    refine ⟨.openBracket :: (tokens ++ [.closeBracket]), ?_, ?_⟩
    · have htext : (render (.array (item :: items))).toList =
          ['['] ++ ((String.intercalate "," (renderItems (item :: items))).toList ++ [']']) := by
        simp [render]
      rw [htext]
      exact Token.yields_openBracket.append (hyields.append Token.yields_closeBracket)
    · apply spells_cons
      intro fuel rest hfuel depth' hdepth
      rw [List.length_append, List.length_singleton] at hfuel
      rw [List.append_assoc, List.singleton_append, readValue_openBracket (hhead _),
        hread fuel [] rest (by omega) depth' hdepth]
      rfl

/-! ## Objects -/

/-- An entry of an object: its key, a colon, and its value. -/
theorem exists_readEntry {depth : Nat} {p : String × Json} (h : IsReadable depth p.2) :
    ∃ tokens,
      Token.Yields (quote p.1 ++ ":" ++ render p.2).toList
          (.atom (.string p.1) :: .colon :: tokens) ∧ Spells depth tokens p.2 := by
  obtain ⟨tokens, hyields, hspells⟩ := h
  refine ⟨tokens, ?_, hspells⟩
  have htext : (quote p.1 ++ ":" ++ render p.2).toList =
      (quote p.1).toList ++ ([':'] ++ (render p.2).toList) := by simp
  rw [htext]
  exact (Token.yields_quote p.1).append (Token.yields_colon.append hyields)

/-- The entries of an object, up to the closing brace. -/
theorem exists_readEntries {depth : Nat} {p : String × Json} {entries : Entries Json}
    (h : ∀ q ∈ p :: entries, IsReadable depth q.2) :
    ∃ tokens,
      Token.Yields (String.intercalate "," (renderEntries (p :: entries))).toList
          (.atom (.string p.1) :: tokens) ∧
        ∀ fuel done rest, tokens.length < fuel → ∀ depth' ≥ depth,
          readEntries fuel depth' done (.atom (.string p.1) :: tokens ++ .closeBrace :: rest) =
            some (.object (Entries.ofPairs (done.reverse ++ p :: entries)), rest) := by
  obtain ⟨tokens, hyields, hspells⟩ := exists_readEntry (h p List.mem_cons_self)
  induction entries generalizing p tokens with
  | nil =>
    refine ⟨.colon :: tokens, by simpa [renderEntries] using hyields, ?_⟩
    intro fuel done rest hfuel depth' hdepth
    rw [List.length_cons] at hfuel
    cases fuel with
    | zero => omega
    | succ fuel =>
      rw [List.cons_append, List.cons_append, readEntries,
        hspells fuel _ (by omega) depth' hdepth]
      simp
  | cons next entries ih =>
    obtain ⟨tokens', hyields', hspells'⟩ := exists_readEntry (h next (by simp))
    obtain ⟨others, hothers, hread⟩ :=
      ih (fun q hq => h q (List.mem_cons_of_mem _ hq)) tokens' hyields' hspells'
    refine ⟨.colon :: (tokens ++ .comma :: .atom (.string next.1) :: others), ?_, ?_⟩
    · have htext : (String.intercalate "," (renderEntries (p :: next :: entries))).toList =
          (quote p.1 ++ ":" ++ render p.2).toList ++ ([','] ++
            (String.intercalate "," (renderEntries (next :: entries))).toList) := by
        simp [renderEntries, String.toList_intercalate]
      rw [htext]
      exact hyields.append (Token.yields_comma.append hothers)
    · intro fuel done rest hfuel depth' hdepth
      simp only [List.length_cons, List.length_append] at hfuel
      cases fuel with
      | zero => omega
      | succ fuel =>
        rw [List.cons_append, List.cons_append, readEntries, List.append_assoc,
          hspells fuel _ (by omega) depth' hdepth]
        simp only [List.cons_append]
        rw [← List.cons_append, hread fuel _ rest (by omega) depth' hdepth]
        simp

/-- After an opening brace entries are read from their first key on. -/
theorem readValue_openBrace (key : String) (tokens : List Token) (fuel depth : Nat) :
    readValue (fuel + 1) (depth + 1) (.openBrace :: .atom (.string key) :: tokens) =
      readEntries fuel depth [] (.atom (.string key) :: tokens) := by
  rw [readValue]
  simp

/-- An object of readable entries is readable if its keys are distinct. -/
theorem isReadable_object {depth : Nat} {entries : Entries Json}
    (hkeys : (Entries.keys entries).Nodup) (h : ∀ p ∈ entries, IsReadable depth p.2) :
    IsReadable (depth + 1) (.object entries) := by
  cases entries with
  | nil =>
    refine ⟨[.openBrace, .closeBrace], ?_, ?_⟩
    · exact Token.yields_openBrace.append Token.yields_closeBrace
    · apply spells_cons
      intro fuel rest _ depth' _
      rfl
  | cons p entries =>
    obtain ⟨tokens, hyields, hread⟩ := exists_readEntries h
    refine ⟨.openBrace :: (.atom (.string p.1) :: tokens ++ [.closeBrace]), ?_, ?_⟩
    · have htext : (render (.object (p :: entries))).toList =
          ['{'] ++ ((String.intercalate "," (renderEntries (p :: entries))).toList ++ ['}']) := by
        simp [render]
      rw [htext]
      exact Token.yields_openBrace.append (hyields.append Token.yields_closeBrace)
    · apply spells_cons
      intro fuel rest hfuel depth' hdepth
      simp only [List.length_cons, List.length_append, List.length_nil] at hfuel
      rw [List.append_assoc, List.singleton_append, List.cons_append, readValue_openBrace,
        ← List.cons_append, hread fuel [] rest (by omega) depth' hdepth, List.reverse_nil,
        List.nil_append, Entries.ofPairs_of_nodup hkeys]

/-! ## Whole texts -/

/-- Plain values are readable. -/
theorem Plain.isReadable {depth : Nat} {v : Json} (h : v.Plain depth) : IsReadable depth v := by
  induction h with
  | null depth => exact ⟨_, Token.yields_null, spells_atom depth .null⟩
  | bool depth b => exact ⟨_, Token.yields_bool b, spells_atom depth (.bool b)⟩
  | string depth s => exact ⟨_, Token.yields_quote s, spells_atom depth (.string s)⟩
  | array _ ih => exact isReadable_array ih
  | object hkeys _ ih => exact isReadable_object hkeys ih

/-- A value without numbers and without repeated keys is read back from its text. -/
theorem Plain.parse?_render {depth depth' : Nat} {v : Json} (h : v.Plain depth)
    (hdepth : depth ≤ depth') : parse? depth' (render v) = some v := by
  obtain ⟨tokens, hyields, hspells⟩ := h.isReadable
  have hread := hspells (2 * tokens.length + 1) [] (by omega) depth' hdepth
  rw [List.append_nil] at hread
  simp only [parse?, Token.scan_of_yields hyields, hread]

end Json

end FieldRules
