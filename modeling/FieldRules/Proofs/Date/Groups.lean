import FieldRules.Proofs.Date.Concatenation
import FieldRules.Proofs.Pattern.GroupNames
import Mathlib.Data.List.Nodup

/-!
# The groups of a template

`Template.expanded` is the text of a template with the letters that stand for several written out.
The pattern of the template has one piece for each character or escape of this text, and is read as
one part for each piece (`Template.IsRow`).  A token is in a group with the name of its component if
no token before it has the component, so that no two groups have one name, and the pattern is
refused for its room alone (`Template.groups_source`).
-/

set_option autoImplicit false

namespace FieldRules.Date

open Pattern (Ast CharSet Regex TextRegex)

/-! ## Names of groups -/

/-- A fragment has no groups with names. -/
theorem Token.groupNames_ast {t : Token} (ht : t.IsSound) : t.ast.groupNames = [] := by
  rw [← Ast.groupNames_of_meaning ht.meaning_eq, Regex.groupNames_eq_nil_of_isPlain ht.isPlain]

/-- The pattern of an item has the names of the components that are captured with it. -/
theorem Item.map_group_capturedAfter {item : Item} (hitem : item.IsLettered)
    (captured : List Component) :
    (item.capturedAfter captured).map Component.group =
      captured.map Component.group ++ (item.ast captured).groupNames := by
  cases item with
  | literal c => exact (List.append_nil _).symm
  | token t =>
    obtain ⟨c, hc⟩ := hitem
    have hnone := Token.groupNames_ast (isSound_of_token? hc)
    rw [Item.capturedAfter, Item.ast]
    obtain ⟨k, -, -, hgroup, hpattern⟩ | ⟨-, hgroup, hpattern⟩ := group_cases captured t
    · rw [hgroup, hpattern, Ast.groupNames, hnone, List.map_append]
      rfl
    · rw [hgroup, hpattern, Ast.groupNames, hnone, List.append_nil]

/-- Captured components stay distinct as an item is added. -/
theorem Item.nodup_capturedAfter {captured : List Component} (h : captured.Nodup) (item : Item) :
    (item.capturedAfter captured).Nodup := by
  cases item with
  | literal c => exact h
  | token t =>
    rw [Item.capturedAfter]
    obtain ⟨k, -, hfree, -, hpattern⟩ | ⟨-, -, hpattern⟩ := group_cases captured t
    · have hne : ∀ k' ∈ captured, k' ≠ k := fun k' hk' heq => hfree (heq ▸ hk')
      rw [hpattern]
      simpa [List.nodup_append, h] using hne
    · rw [hpattern]
      exact h

namespace Template

/-- The patterns of several items have the names of the components that are captured with them. -/
theorem map_group_itemPatterns {items : List Item} (hitems : ∀ item ∈ items, item.IsLettered)
    (captured : List Component) :
    (itemPatterns captured items).2.map Component.group =
      captured.map Component.group ++ Ast.groupNamesAll (asts captured items) := by
  induction items generalizing captured with
  | nil => exact (List.append_nil _).symm
  | cons item rest ih =>
    obtain ⟨hitem, hrest⟩ := List.forall_mem_cons.1 hitems
    rw [itemPatterns_cons, ih hrest, Item.map_group_capturedAfter hitem, asts, Ast.groupNamesAll,
      List.append_assoc]

/-- The names of the groups are those of the components that are captured. -/
theorem groupNames_ast (template : String) :
    (ast template).groupNames = (itemPatterns [] (items template)).2.map Component.group := by
  rw [map_group_itemPatterns (isLettered_of_mem_items template)]
  simp [ast, Ast.groupNames, Ast.groupNamesAll, Ast.groupNames_ofParts]

/-- Captured components stay distinct as items are added. -/
theorem nodup_itemPatterns {captured : List Component} (h : captured.Nodup) (items : List Item) :
    (itemPatterns captured items).2.Nodup := by
  induction items generalizing captured with
  | nil => exact h
  | cons item rest ih => exact ih (Item.nodup_capturedAfter h item)

/-- Each part as which items are read means the expression of its item, and leaves the flags as they
are. -/
theorem forall₂_meaning_asts {items : List Item} (hitems : ∀ item ∈ items, item.IsLettered)
    (captured : List Component) :
    List.Forall₂ (fun part r => part.meaning .initial = .ok (r, .initial)) (asts captured items)
      (regexes captured items) := by
  induction items generalizing captured with
  | nil => exact .nil
  | cons item rest ih =>
    obtain ⟨hitem, hrest⟩ := List.forall_mem_cons.1 hitems
    exact .cons (Item.meaning_ast hitem captured) (ih hrest _)

/-! ## Letters written out -/

/-- A template with the letters that stand for several written out. -/
def expanded : List Char → List Char
  | [] => []
  | ['\\'] => ['\\']
  | '\\' :: c :: rest => '\\' :: c :: expanded rest
  | c :: rest => ((written? c).map String.toList).getD [c] ++ expanded rest

/-- What a letter stands for does not end inside an escape. -/
theorem even_trailingBackslashes_written {c : Char} {template : String}
    (h : written? c = some template) : Even (trailingBackslashes template.toList) := by
  unfold written? at h
  split at h <;> cases h <;> decide

/-- A character outside of an escape is written out by itself. -/
theorem expanded_cons_of_ne {c : Char} (h : c ≠ '\\') (cs : List Char) :
    expanded (c :: cs) = ((written? c).map String.toList).getD [c] ++ expanded cs := by
  rw [expanded]
  · exact fun hc _ => h hc
  · exact fun _ _ hc _ => h hc

/-- A character outside of an escape is an item of its own. -/
theorem plainItems_cons_of_ne {c : Char} (h : c ≠ '\\') (cs : List Char) :
    plainItems (c :: cs) = itemOf c :: plainItems cs :=
  itemsWith_cons_of_ne h cs

/-- Writing letters out does not change the items. -/
theorem plainItems_expanded (cs : List Char) :
    plainItems (expanded cs) = itemsWith composite? cs := by
  induction cs using text_induction with
  | nil => rfl
  | backslash => rfl
  | escaped c rest ih =>
    unfold plainItems at ih ⊢
    rw [expanded, itemsWith, itemsWith, ih]
  | plain c rest hc ih =>
    rw [expanded_cons_of_ne hc, itemsWith_cons_of_ne hc, composite?, ← ih]
    cases hwritten : written? c with
    | none => exact plainItems_cons_of_ne hc _
    | some template => exact itemsWith_append (even_trailingBackslashes_written hwritten) _

/-! ## Components that are written -/

/-- Whether a letter of a component stands in a text outside of any escape. -/
def IsWritten (k : Component) (cs : List Char) : Prop :=
  ∃ before c after t, cs = before ++ c :: after ∧ Even (trailingBackslashes before) ∧
    token? c = some t ∧ t.component = some k

/-- A literal has no component. -/
theorem not_hasComponent_literal (k : Component) (c : Char) : ¬HasComponent k [.literal c] := by
  simp [HasComponent]

/-- The item of a character has the component of the token of that letter. -/
theorem hasComponent_itemOf {k : Component} {c : Char} :
    HasComponent k [itemOf c] ↔ ∃ t, token? c = some t ∧ t.component = some k := by
  unfold itemOf
  cases token? c with
  | none => simp [HasComponent]
  | some t => simp [HasComponent]

/-- A component of the items of a text has a letter in the text. -/
theorem isWritten_of_hasComponent {k : Component} {cs : List Char}
    (h : HasComponent k (plainItems cs)) : IsWritten k cs := by
  induction cs using text_induction with
  | nil =>
    obtain ⟨t, ht, -⟩ := h
    cases ht
  | backslash => exact absurd h (not_hasComponent_literal k '\\')
  | escaped c rest ih =>
    obtain ⟨before, d, after, t, rfl, heven, ht⟩ :=
      ih (((hasComponent_cons k _ _).1 h).resolve_left (not_hasComponent_literal k c))
    have heven' := (even_trailingBackslashes_escape c before).2 heven
    exact ⟨'\\' :: c :: before, d, after, t, rfl, heven', ht⟩
  | plain c rest hc ih =>
    rw [plainItems_cons_of_ne hc, hasComponent_cons, hasComponent_itemOf] at h
    rcases h with ⟨t, ht⟩ | hrest
    · exact ⟨[], c, rest, t, rfl, by decide, ht⟩
    · obtain ⟨before, d, after, t, rfl, heven, ht⟩ := ih hrest
      rw [← trailingBackslashes_cons_of_ne hc] at heven
      exact ⟨c :: before, d, after, t, rfl, heven, ht⟩

/-- The components of the items of a text are those that are written in it. -/
theorem hasComponent_plainItems_iff {k : Component} {cs : List Char} :
    HasComponent k (plainItems cs) ↔ IsWritten k cs := by
  refine ⟨isWritten_of_hasComponent, ?_⟩
  rintro ⟨before, c, after, t, rfl, heven, ht⟩
  have hitem : HasComponent k [itemOf c] := hasComponent_itemOf.2 ⟨t, ht⟩
  obtain ⟨t', hmem, hcomponent⟩ := hitem
  rw [plainItems, itemsWith_append heven, itemsWith_cons_of_ne (ne_backslash_of_token? ht.1)]
  exact ⟨t', by simp [List.mem_singleton.1 hmem], hcomponent⟩

/-! ## Rows -/

/-- The pieces of a pattern for a text, some text standing before it, and the parts as which they
are read: each character or escape has a piece, and a token is captured unless a letter of its
component is written before it. -/
inductive IsRow : List Char → List Char → List (List Char) → List Ast → Prop where
  | nil {before : List Char} : IsRow before [] [] []
  | backslash {before : List Char} : IsRow before ['\\'] [escape '\\'] [.literal ⟨'\\', false⟩]
  | escaped {before : List Char} {c : Char} {rest : List Char} {pieces : List (List Char)}
      {parts : List Ast} (hrest : IsRow (before ++ ['\\', c]) rest pieces parts) :
      IsRow before ('\\' :: c :: rest) (escape c :: pieces) (.literal ⟨c, false⟩ :: parts)
  | literal {before : List Char} {c : Char} {rest : List Char} {pieces : List (List Char)}
      {parts : List Ast} (hc : c ≠ '\\') (hnone : token? c = none)
      (hrest : IsRow (before ++ [c]) rest pieces parts) :
      IsRow before (c :: rest) (escape c :: pieces) (.literal ⟨c, false⟩ :: parts)
  | captured {before : List Char} {c : Char} {rest : List Char} {pieces : List (List Char)}
      {parts : List Ast} {t : Token} {k : Component} {body : Ast} (ht : token? c = some t)
      (hbody : Ast.ofChars t.fragment.toList = .ok body) (hk : t.component = some k)
      (hfirst : ¬IsWritten k before) (hrest : IsRow (before ++ [c]) rest pieces parts) :
      IsRow before (c :: rest)
        (("(?P<".toList ++ k.group.toList ++ '>' :: t.fragment.toList ++ [')']) :: pieces)
        (.group (.capture (some k.group)) body :: parts)
  | plain {before : List Char} {c : Char} {rest : List Char} {pieces : List (List Char)}
      {parts : List Ast} {t : Token} {body : Ast} (ht : token? c = some t)
      (hbody : Ast.ofChars t.fragment.toList = .ok body)
      (hearlier : ∀ k, t.component = some k → IsWritten k before)
      (hrest : IsRow (before ++ [c]) rest pieces parts) :
      IsRow before (c :: rest) (("(?:".toList ++ t.fragment.toList ++ [')']) :: pieces)
        (.group (.plain []) body :: parts)

/-- What is captured after a text: the components that are written in it. -/
def IsCapturedAfter (captured : List Component) (before : List Char) : Prop :=
  ∀ k rest, IsWritten k (before ++ rest) ↔ k ∈ captured ∨ IsWritten k rest

/-- In the text itself the captured components are written. -/
theorem IsCapturedAfter.isWritten_iff {captured : List Component} {before : List Char}
    (h : IsCapturedAfter captured before) (k : Component) : IsWritten k before ↔ k ∈ captured := by
  have hnil : ¬IsWritten k [] := by simp [IsWritten]
  have hiff := h k []
  rwa [List.append_nil, or_iff_left hnil] at hiff

/-- Reading an item keeps what is captured and what is written in step. -/
theorem IsCapturedAfter.append {captured : List Component} {before cs : List Char} {item : Item}
    (h : IsCapturedAfter captured before)
    (hitem : ∀ rest, plainItems (cs ++ rest) = item :: plainItems rest) :
    IsCapturedAfter (item.capturedAfter captured) (before ++ cs) := by
  intro k rest
  rw [List.append_assoc, h, ← hasComponent_plainItems_iff, hitem, hasComponent_cons,
    mem_capturedAfter_iff, or_assoc, hasComponent_plainItems_iff]

/-- A character outside of an escape adds its piece and its part to a row. -/
theorem isRow_cons {captured : List Component} {before rest : List Char} {c : Char} (hc : c ≠ '\\')
    (hcaptured : IsCapturedAfter captured before) {pieces : List (List Char)} {parts : List Ast}
    (hrest : IsRow (before ++ [c]) rest pieces parts) :
    IsRow before (c :: rest) ((itemPattern captured (itemOf c)).1 :: pieces)
      ((itemOf c).ast captured :: parts) := by
  unfold itemOf
  cases ht : token? c with
  | none => exact .literal hc ht hrest
  | some t =>
    have hbody := (isSound_of_token? ht).ofChars_eq
    dsimp only
    rw [Item.ast]
    obtain ⟨k, hk, hfree, hgroup, hpattern⟩ | ⟨hall, hgroup, hpattern⟩ := group_cases captured t
    · rw [hgroup, hpattern]
      have hfirst : ¬IsWritten k before := by rwa [hcaptured.isWritten_iff]
      simpa using IsRow.captured ht hbody hk hfirst hrest
    · rw [hgroup, hpattern]
      exact .plain ht hbody (fun k hk => (hcaptured.isWritten_iff k).2 (hall k hk)) hrest

/-- The pattern of the items of a text is a row of pieces for the text, whatever stands before it.
-/
theorem exists_isRow (cs before : List Char) (captured : List Component)
    (hcaptured : IsCapturedAfter captured before) :
    ∃ pieces, pieces.flatten = (itemPatterns captured (plainItems cs)).1 ∧
      IsRow before cs pieces (asts captured (plainItems cs)) := by
  induction cs using text_induction generalizing before captured with
  | nil => exact ⟨[], rfl, .nil⟩
  | backslash => exact ⟨[escape '\\'], rfl, .backslash⟩
  | escaped c rest ih =>
    have hitem (rest : List Char) :
        plainItems (['\\', c] ++ rest) = .literal c :: plainItems rest := rfl
    obtain ⟨pieces, hpieces, hrow⟩ := ih _ _ (hcaptured.append hitem)
    refine ⟨escape c :: pieces, ?_, .escaped hrow⟩
    rw [List.flatten_cons, hpieces]
    rfl
  | plain c rest hc ih =>
    have hitem (rest : List Char) : plainItems ([c] ++ rest) = itemOf c :: plainItems rest :=
      plainItems_cons_of_ne hc rest
    obtain ⟨pieces, hpieces, hrow⟩ := ih _ _ (hcaptured.append hitem)
    rw [plainItems_cons_of_ne hc, itemPatterns_cons]
    exact ⟨_, by rw [List.flatten_cons, hpieces], isRow_cons hc hcaptured hrow⟩

/-- **Groups.**  The pattern of a template is, between the start and the end of the text, one piece
for each character or escape of the template with the letters that stand for several written out:
the character, or the fragment of its token in a group.  The group has the name of the component of
the token if no letter of the component is written before it.  So the names of the groups are those
of the components that are written, each once.  The pattern can always be read, with one part for
each piece; it means its parts one after the other, each as it is on its own, and a character means
just itself.  It is refused only if it takes too much room. -/
theorem groups_source (template : String) :
    ∃ pieces parts rs, IsRow [] (expanded template.toList) pieces parts ∧
      (source template).toList = "\\A(?:".toList ++ pieces.flatten ++ ")\\z".toList ∧
      Ast.ofChars (source template).toList = .ok (ast template) ∧
      ast template = .concat
        [.anchor .textStart, .group (.plain []) (.ofParts parts), .anchor .textEnd] ∧
      (ast template).groupNames.Nodup ∧
      (∀ name, name ∈ (ast template).groupNames ↔
        ∃ k : Component, k.group = name ∧ IsWritten k (expanded template.toList)) ∧
      List.Forall₂ (fun part r => part.meaning .initial = .ok (r, .initial)) parts rs ∧
      (∀ c, (Ast.literal ⟨c, false⟩).meaning .initial = .ok (.step (.single c), .initial) ∧
        ∀ w, TextRegex.HasWord (.step (.single c)) w ↔ w = [c]) ∧
      Format.compile template =
        if TextRegex.fits (.anchored (.seqAll rs)) then
          .ok ⟨template, ⟨source template, .anchored (.seqAll rs)⟩⟩
        else .error .tooLarge := by
  have hitems : plainItems (expanded template.toList) = items template :=
    plainItems_expanded template.toList
  have hlettered := isLettered_of_mem_items template
  have hstart : IsCapturedAfter [] [] := fun k rest => by simp
  -- The items of the template are those of the text without composites, which the row is about.
  obtain ⟨pieces, hpieces, hrow⟩ := exists_isRow (expanded template.toList) [] [] hstart
  rw [hitems] at hpieces hrow
  refine ⟨pieces, asts [] (items template), regexes [] (items template), hrow, ?_, ?_, rfl, ?_, ?_,
    ?_, ?_, ?_⟩
  · rw [hpieces, toList_source]
  · exact ofChars_source template
  · rw [groupNames_ast]
    exact List.Nodup.map (fun _ _ => Component.group_injective)
      (nodup_itemPatterns List.nodup_nil _)
  · intro name
    rw [groupNames_ast, List.mem_map]
    refine exists_congr fun k => ?_
    rw [mem_itemPatterns_iff, ← hitems, hasComponent_plainItems_iff, and_comm]
    simp
  · exact forall₂_meaning_asts hlettered []
  · intro c
    refine ⟨rfl, fun w => ?_⟩
    simp [TextRegex.HasWord, Regex.IsWord, CharSet.contains_single_iff]
  · exact Format.compile_eq template

/-- Two letters have the day, and one that is escaped has not. -/
example : source "\\dj/d" =
    "\\A(?:d(?P<day>[1-9]|[12][0-9]|3[01])/(?:0[1-9]|[12][0-9]|3[01]))\\z" := by
  rw [← String.toList_inj, toList_source]
  decide

end Template

end FieldRules.Date
