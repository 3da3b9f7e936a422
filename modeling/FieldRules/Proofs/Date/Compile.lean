import FieldRules.Proofs.Date.Fragment
import FieldRules.Proofs.Date.Items
import FieldRules.Proofs.Pattern.Whole

/-!
# The pattern of a template

What the pattern of a template is read as: the start of the text, one part for each item, and the
end of the text (`Template.reads_source`).  So the pattern is always well-formed, whatever the
template (`Format.compile_eq`), and its parts are the fragments as they are on their own.
-/

set_option autoImplicit false

namespace FieldRules.Date

open Pattern (Ast TextRegex Regex GroupKind OpenGroup ReadState)

/-! ## Items -/

/-- Whether the token of an item, if it is one, is that of a letter. -/
def Item.IsLettered : Item → Prop
  | .token t => ∃ c, token? c = some t
  | .literal _ => True

namespace Template

/-- The item of a character is lettered. -/
theorem isLettered_itemOf (c : Char) : (itemOf c).IsLettered := by
  unfold itemOf
  split
  · rename_i t h
    exact ⟨c, h⟩
  · trivial

/-- The items of a template are lettered if those of its expansions are. -/
theorem isLettered_of_mem_itemsWith {expand : Char → Option (List Item)}
    (hexpand : ∀ c, ∀ items ∈ expand c, ∀ item ∈ items, item.IsLettered) {cs : List Char} :
    ∀ item ∈ itemsWith expand cs, item.IsLettered := by
  fun_induction itemsWith expand cs with
  | case1 => simp
  | case2 => simp [Item.IsLettered]
  | case3 c rest ih =>
    intro item hitem
    rcases List.mem_cons.1 hitem with rfl | hrest
    · trivial
    · exact ih item hrest
  | case4 c rest hescape hend ih =>
    intro item hitem
    rcases List.mem_append.1 hitem with hfirst | hrest
    · cases h : expand c with
      | none =>
        rw [h, Option.getD_none, List.mem_singleton] at hfirst
        rw [hfirst]
        exact isLettered_itemOf c
      | some items =>
        rw [h, Option.getD_some] at hfirst
        exact hexpand c items h item hfirst
    · exact ih item hrest

/-- The items of a letter that stands for several are lettered. -/
theorem isLettered_of_mem_composite? (c : Char) :
    ∀ items ∈ composite? c, ∀ item ∈ items, item.IsLettered := by
  intro items h
  have hnone : ∀ c : Char, ∀ items ∈ (none : Option (List Item)), ∀ item ∈ items,
      item.IsLettered := by simp
  obtain ⟨template, -, rfl⟩ := Option.map_eq_some_iff.1 h
  exact isLettered_of_mem_itemsWith hnone

/-- The items of a template are lettered. -/
theorem isLettered_of_mem_items (template : String) :
    ∀ item ∈ items template, item.IsLettered :=
  isLettered_of_mem_itemsWith isLettered_of_mem_composite?

end Template

/-- The group that holds the fragment of a token, some components being captured already. -/
def Token.group (captured : List Component) (t : Token) : GroupKind :=
  match t.component with
  | some k => if captured.contains k then .plain [] else .capture (some k.group)
  | none => .plain []

/-- The components that are captured after an item. -/
def Item.capturedAfter (captured : List Component) (item : Item) : List Component :=
  (Template.itemPattern captured item).2

/-- What the pattern of an item is read as. -/
def Item.ast (captured : List Component) : Item → Ast
  | .token t => .group (t.group captured) t.ast
  | .literal c => .literal ⟨c, false⟩

/-- The first token of a component is captured, any other token is not. -/
theorem group_cases (captured : List Component) (t : Token) :
    (∃ k, t.component = some k ∧ k ∉ captured ∧ t.group captured = .capture (some k.group) ∧
      Template.itemPattern captured (.token t) =
        ('(' :: '?' :: 'P' :: '<' :: (k.group.toList ++ ['>']) ++ (t.fragment.toList ++ [')']),
          captured ++ [k])) ∨
    ((∀ k, t.component = some k → k ∈ captured) ∧ t.group captured = .plain [] ∧
      Template.itemPattern captured (.token t) =
        ('(' :: '?' :: ':' :: (t.fragment.toList ++ [')']), captured)) := by
  cases hcomponent : t.component with
  | none => simp [Token.group, Template.itemPattern, hcomponent]
  | some k =>
    by_cases h : k ∈ captured
    · right
      simp [Token.group, Template.itemPattern, hcomponent, h]
    · left
      exact ⟨k, rfl, h, by simp [Token.group, hcomponent, h],
        by simp [Template.itemPattern, hcomponent, h]⟩

/-- The names of the groups that capture components, the last one first. -/
def groupNames (captured : List Component) : List String :=
  captured.reverse.map Component.group

/-- Different components have different names. -/
theorem Component.group_injective {k k' : Component} (h : k.group = k'.group) : k = k' := by
  cases k <;> cases k' <;> first | rfl | exact absurd h (by decide)

/-- The group of a component has a name that is free as long as the component is not captured. -/
theorem readName_group {captured : List Component} {k : Component} (h : k ∉ captured)
    (rest : List Char) :
    Pattern.readName (groupNames captured) (k.group.toList ++ '>' :: rest) =
      .ok (k.group, rest) := by
  have hfresh : (groupNames captured).contains k.group = false := by
    rw [List.contains_eq_mem, decide_eq_false_iff_not]
    intro hmem
    obtain ⟨k', hk', hgroup⟩ := List.mem_map.1 hmem
    rw [Component.group_injective hgroup, List.mem_reverse] at hk'
    exact h hk'
  cases k <;>
    exact Pattern.readName_append rfl (by decide) (by decide) (by decide) hfresh rest

namespace Template

/-- The pattern of an item is read as one part. -/
theorem reads_item {item : Item} (hitem : item.IsLettered) (captured : List Component)
    (parts branches : List Ast) (opened : List OpenGroup) :
    ReadState.Reads ⟨parts, branches, opened, false, groupNames captured⟩
      (itemPattern captured item).1
      ⟨item.ast captured :: parts, branches, opened, false,
        groupNames (item.capturedAfter captured)⟩ := by
  cases item with
  | literal c =>
    have hpattern : (itemPattern captured (.literal c)).1 =
        if Pattern.isMeta c then ['\\', c] else [c] := rfl
    rw [hpattern]
    split
    · rename_i hmeta
      exact ReadState.reads_escaped rfl hmeta
    · rename_i hmeta
      exact ReadState.reads_literal rfl (Bool.eq_false_of_not_eq_true hmeta)
  | token t =>
    obtain ⟨c, hc⟩ := hitem
    set s : ReadState := ⟨parts, branches, opened, false, groupNames captured⟩
    rw [Item.ast, Item.capturedAfter]
    obtain ⟨k, -, hfree, hgroup, hpattern⟩ | ⟨-, hgroup, hpattern⟩ := group_cases captured t
    · have hnames : groupNames (captured ++ [k]) = k.group :: groupNames captured := by
        simp [groupNames]
      rw [hgroup, hpattern, hnames]
      exact (ReadState.reads_namedOpening (s := s) rfl (readName_group hfree)).append
        (reads_fragment hc _ parts branches opened _)
    · rw [hgroup, hpattern]
      exact (ReadState.reads_plainOpening (s := s) rfl).append
        (reads_fragment hc _ parts branches opened _)

/-! ## Rows of items -/

/-- What the patterns of several items are read as. -/
def asts (captured : List Component) : List Item → List Ast
  | [] => []
  | item :: rest => item.ast captured :: asts (item.capturedAfter captured) rest

/-- The first item has its pattern, and the others theirs with what is captured after it. -/
theorem itemPatterns_cons (captured : List Component) (item : Item) (rest : List Item) :
    itemPatterns captured (item :: rest) =
      ((itemPattern captured item).1 ++ (itemPatterns (item.capturedAfter captured) rest).1,
        (itemPatterns (item.capturedAfter captured) rest).2) := rfl

/-- The patterns of several items are read as one part each. -/
theorem reads_items {items : List Item} (hitems : ∀ item ∈ items, item.IsLettered)
    (captured : List Component) (parts branches : List Ast) (opened : List OpenGroup) :
    ReadState.Reads ⟨parts, branches, opened, false, groupNames captured⟩
      (itemPatterns captured items).1
      ⟨(asts captured items).reverse ++ parts, branches, opened, false,
        groupNames (itemPatterns captured items).2⟩ := by
  induction items generalizing captured parts with
  | nil => exact ReadState.Reads.refl _
  | cons item rest ih =>
    obtain ⟨hitem, hrest⟩ := List.forall_mem_cons.1 hitems
    have hfirst := reads_item hitem captured parts branches opened
    have hothers := ih hrest (item.capturedAfter captured) (item.ast captured :: parts)
    rw [itemPatterns_cons, asts, List.reverse_cons, List.append_assoc]
    exact hfirst.append hothers

/-! ## The whole pattern -/

/-- What the pattern of a template is read as. -/
def ast (template : String) : Ast :=
  .concat [.anchor .textStart, .group (.plain []) (.ofParts (asts [] (items template))),
    .anchor .textEnd]

/-- The pattern of a template is read to its end, with all groups closed. -/
theorem reads_source (template : String) :
    ReadState.start.Reads (source template).toList
      ⟨[.anchor .textEnd, .group (.plain []) (.ofParts (asts [] (items template))),
        .anchor .textStart], [], [], false, groupNames (itemPatterns [] (items template)).2⟩ := by
  have hends (body : List Char) : "\\A(?:".toList ++ body ++ ")\\z".toList =
      ['\\', 'A'] ++ (['(', '?', ':'] ++ (body ++ ([')'] ++ ['\\', 'z']))) := by
    simp only [List.append_assoc]
    rfl
  rw [toList_source, hends]
  have hitems := reads_items (isLettered_of_mem_items template) [] [] []
    [⟨.plain [], [.anchor .textStart], [], false⟩]
  rw [List.append_nil] at hitems
  set names := groupNames (itemPatterns [] (items template)).2
  set row := asts [] (items template)
  have hclose : ReadState.close ⟨row.reverse, [], [⟨.plain [], [.anchor .textStart], [], false⟩],
      false, names⟩ =
        .ok ⟨[.group (.plain []) (.ofParts row), .anchor .textStart], [], [], false, names⟩ := by
    simp [ReadState.close, ReadState.body, Ast.ofBranches]
  refine (ReadState.reads_textStart rfl).append ?_
  refine (ReadState.reads_plainOpening rfl).append ?_
  refine hitems.append ?_
  exact (ReadState.reads_close rfl hclose).append (ReadState.reads_textEnd rfl)

/-- Parts nest no deeper than some depth if none of them does. -/
theorem depthAll_le_iff {parts : List Ast} {d : Nat} :
    Ast.depthAll parts ≤ d ↔ ∀ part ∈ parts, part.depth ≤ d := by
  induction parts with
  | nil => simp [Ast.depthAll]
  | cons part rest ih => simp [Ast.depthAll, ih]

/-- The parts of a row nest as deep as the fragments do, in one group each. -/
theorem depth_le_of_mem_asts {items : List Item} (hitems : ∀ item ∈ items, item.IsLettered)
    (captured : List Component) :
    ∀ part ∈ asts captured items, part.depth ≤ maxFragmentDepth + 1 := by
  induction items generalizing captured with
  | nil => simp [asts]
  | cons item rest ih =>
    obtain ⟨hitem, hrest⟩ := List.forall_mem_cons.1 hitems
    rw [asts, List.forall_mem_cons]
    refine ⟨?_, ih hrest _⟩
    cases item with
    | literal c => exact Nat.zero_le _
    | token t =>
      obtain ⟨c, hc⟩ := hitem
      exact Nat.succ_le_succ (isSound_of_token? hc).depth_le

/-- A row nests one level deeper than its parts at most. -/
theorem depth_ofParts_le {parts : List Ast} {d : Nat} (h : ∀ part ∈ parts, part.depth ≤ d) :
    (Ast.ofParts parts).depth ≤ d + 1 := by
  unfold Ast.ofParts
  split
  · exact Nat.zero_le _
  · exact (h _ List.mem_cons_self).trans (Nat.le_succ d)
  · exact Nat.succ_le_succ (depthAll_le_iff.2 h)

/-- The pattern of a template can be read. -/
theorem ofChars_source (template : String) :
    Ast.ofChars (source template).toList = .ok (ast template) := by
  have hbody := depth_ofParts_le
    (depth_le_of_mem_asts (isLettered_of_mem_items template) [])
  have hdepth : (ast template).depth ≤ maxFragmentDepth + 4 := by
    refine Nat.succ_le_succ (depthAll_le_iff.2 ?_)
    simpa [Ast.depth] using hbody
  exact Ast.ofChars_of_reads (reads_source template) rfl (hdepth.trans (by decide))

end Template

/-! ## Expressions -/

/-- The expression of an item: that of the fragment on its own, captured or not. -/
def Item.regex (captured : List Component) : Item → TextRegex
  | .token t =>
    match t.group captured with
    | .plain _ => t.regex
    | .capture name => .capture name t.regex
  | .literal c => .step (.single c)

/-- The part as which an item is read means the expression of the item. -/
theorem Item.meaning_ast {item : Item} (hitem : item.IsLettered) (captured : List Component) :
    (item.ast captured).meaning .initial = .ok (item.regex captured, .initial) := by
  cases item with
  | literal c => rfl
  | token t =>
    obtain ⟨c, hc⟩ := hitem
    have hmeaning := (isSound_of_token? hc).meaning_eq
    obtain ⟨k, -, -, hgroup, -⟩ | ⟨-, hgroup, -⟩ := group_cases captured t
    · simp [Item.ast, Item.regex, hgroup, Ast.meaning, hmeaning, bind, Except.bind]
    · simp [Item.ast, Item.regex, hgroup, Ast.meaning, Pattern.Flags.apply, hmeaning, bind,
        Except.bind]

namespace Template

/-- The expressions of several items. -/
def regexes (captured : List Component) : List Item → List TextRegex
  | [] => []
  | item :: rest => item.regex captured :: regexes (item.capturedAfter captured) rest

/-- The parts as which items are read mean the expressions of the items. -/
theorem meanings_asts {items : List Item} (hitems : ∀ item ∈ items, item.IsLettered)
    (captured : List Component) :
    Ast.meanings .initial (asts captured items) = .ok (regexes captured items, .initial) := by
  induction items generalizing captured with
  | nil => rfl
  | cons item rest ih =>
    obtain ⟨hitem, hrest⟩ := List.forall_mem_cons.1 hitems
    simp only [asts, regexes, Ast.meanings, Item.meaning_ast hitem, ih hrest, bind, Except.bind]

/-- A row means its parts one after the other. -/
theorem meaning_ofParts {parts : List Ast} {flags flags' : Pattern.Flags} {rs : List TextRegex}
    (h : Ast.meanings flags parts = .ok (rs, flags')) :
    (Ast.ofParts parts).meaning flags = .ok (.seqAll rs, flags') := by
  unfold Ast.ofParts
  split
  · cases h
    rfl
  · rename_i part
    cases hpart : part.meaning flags with
    | error e => simp [Ast.meanings, hpart, bind, Except.bind] at h
    | ok result =>
      simp only [Ast.meanings, hpart, bind, Except.bind, Except.ok.injEq, Prod.mk.injEq] at h
      obtain ⟨rfl, rfl⟩ := h
      rfl
  · simp only [Ast.meaning, h, bind, Except.bind]

/-- The expression that a template stands for. -/
def regex (template : String) : TextRegex :=
  TextRegex.anchored (.seqAll (regexes [] (items template)))

/-- What the pattern of a template is read as means the expression of the template. -/
theorem meaning_ast (template : String) :
    (ast template).meaning .initial = .ok (regex template, .initial) := by
  have hrow := meaning_ofParts
    (meanings_asts (isLettered_of_mem_items template) [])
  simp [ast, regex, TextRegex.anchored, Ast.meaning, Ast.meanings, Pattern.Flags.apply, hrow, bind,
    Except.bind, Pattern.Anchor.condition]

end Template

/-- A template is compiled to its expression, unless that takes too much room. -/
theorem Format.compile_eq (template : String) :
    compile template =
      if TextRegex.fits (Template.regex template) then
        .ok ⟨template, ⟨Template.source template, Template.regex template⟩⟩
      else .error .tooLarge := by
  have hpattern : Pattern.compile (Template.source template) =
      if TextRegex.fits (Template.regex template) then
        .ok ⟨Template.source template, Template.regex template⟩
      else .error .tooLarge := by
    simp only [Pattern.compile, Pattern.expression, Template.ofChars_source, Template.meaning_ast,
      bind, Except.bind]
  rw [compile, hpattern]
  cases TextRegex.fits (Template.regex template) <;> rfl

/-- Nothing else is wrong with any template. -/
theorem Format.exists_compile_eq_ok {template : String} (h : compile template ≠ .error .tooLarge) :
    ∃ f, compile template = .ok f := by
  rw [compile_eq] at h ⊢
  by_cases hfits : TextRegex.fits (Template.regex template) = true
  · exact ⟨_, if_pos hfits⟩
  · exact absurd (if_neg hfits) h

end FieldRules.Date
