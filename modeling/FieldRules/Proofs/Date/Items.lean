import FieldRules.Date.Template

/-!
# The items of a template

A template is cut into items: the tokens, and the characters that stand for themselves.  How it is
cut is said by the relation `Template.IsCut`, and `Template.items` is the one cut that there is
(`Template.isCut_iff`).  Compiling a template in one pass adds the pattern of each item to what has
been compiled so far, and nothing else (`Template.push_eq`).
-/

set_option autoImplicit false

namespace FieldRules.Date

/-- A letter with a meaning, or a character that stands for itself. -/
inductive Item where
  | token (t : Token)
  | literal (c : Char)
deriving DecidableEq, Repr

namespace Template

/-! ## Cuts -/

/-- The cut of a text into items: a backslash makes the next character a literal, or itself at the
end; a letter that stands for several gives the items of what it stands for, a letter of a token
gives the token, and any other character is a literal. -/
inductive IsCut : List Char → List Item → Prop where
  | nil : IsCut [] []
  | backslash : IsCut ['\\'] [.literal '\\']
  | escaped {c : Char} {rest : List Char} {items : List Item} (hrest : IsCut rest items) :
      IsCut ('\\' :: c :: rest) (.literal c :: items)
  | written {c : Char} {template : String} {rest : List Char} {first items : List Item}
      (hwritten : written? c = some template) (hfirst : IsCut template.toList first)
      (hrest : IsCut rest items) : IsCut (c :: rest) (first ++ items)
  | token {c : Char} {t : Token} {rest : List Char} {items : List Item} (ht : token? c = some t)
      (hrest : IsCut rest items) : IsCut (c :: rest) (.token t :: items)
  | literal {c : Char} {rest : List Char} {items : List Item} (hc : c ≠ '\\')
      (hwritten : written? c = none) (ht : token? c = none) (hrest : IsCut rest items) :
      IsCut (c :: rest) (.literal c :: items)

/-- The item of a character without a backslash before it. -/
def itemOf (c : Char) : Item :=
  match token? c with
  | some t => .token t
  | none => .literal c

/-- The items of a text, `expand` giving those of the letters that stand for several. -/
def itemsWith (expand : Char → Option (List Item)) : List Char → List Item
  | [] => []
  | ['\\'] => [.literal '\\']
  | '\\' :: c :: rest => .literal c :: itemsWith expand rest
  | c :: rest => (expand c).getD [itemOf c] ++ itemsWith expand rest

/-- The items of a text in which every letter stands for itself or for one token. -/
def plainItems : List Char → List Item :=
  itemsWith fun _ => none

/-- The items of a letter that stands for several. -/
def composite? (c : Char) : Option (List Item) :=
  (written? c).map fun template => plainItems template.toList

/-- The items of a template. -/
def items (template : String) : List Item :=
  itemsWith composite? template.toList

/-- Induction as a template is read, an escape being two characters at once. -/
@[elab_as_elim]
theorem text_induction {motive : List Char → Prop} (nil : motive []) (backslash : motive ['\\'])
    (escaped : ∀ c rest, motive rest → motive ('\\' :: c :: rest))
    (plain : ∀ c rest, c ≠ '\\' → motive rest → motive (c :: rest)) (cs : List Char) :
    motive cs := by
  fun_induction itemsWith (fun _ => none) cs with
  | case1 => exact nil
  | case2 => exact backslash
  | case3 c rest ih => exact escaped c rest ih
  | case4 c rest hend hescape ih =>
    refine plain c rest (fun hc => ?_) ih
    cases rest with
    | nil => exact hend hc rfl
    | cons d rest => exact hescape d rest hc rfl

/-- The items of a text that begins with a character and no escape. -/
theorem itemsWith_cons_of_ne {expand : Char → Option (List Item)} {c : Char} (h : c ≠ '\\')
    (cs : List Char) :
    itemsWith expand (c :: cs) = (expand c).getD [itemOf c] ++ itemsWith expand cs := by
  rw [itemsWith]
  · exact fun hc _ => h hc
  · exact fun _ _ hc _ => h hc

/-- A backslash is not the letter of a token. -/
theorem ne_backslash_of_token? {c : Char} {t : Token} (h : token? c = some t) : c ≠ '\\' := by
  rintro rfl
  cases h

/-- A backslash does not stand for several items. -/
theorem ne_backslash_of_written? {c : Char} {template : String} (h : written? c = some template) :
    c ≠ '\\' := by
  rintro rfl
  cases h

/-- What a letter stands for has no such letter in it. -/
theorem written?_eq_none_of_mem {c d : Char} {template : String} (h : written? c = some template)
    (hd : d ∈ template.toList) : written? d = none := by
  have hall : template.toList.all (fun d => (written? d).isNone) = true := by
    unfold written? at h
    split at h <;> cases h <;> decide
  exact Option.isNone_iff_eq_none.1 (List.all_eq_true.1 hall d hd)

/-- A letter does not stand for one token and for several. -/
theorem written?_eq_none_of_token? {c : Char} {t : Token} (h : token? c = some t) :
    written? c = none := by
  unfold written?
  split
  · cases h
  · cases h
  · rfl

/-- The items of what a letter stands for, cut as any other template. -/
theorem items_of_written? {c : Char} {template : String} (h : written? c = some template) :
    items template = plainItems template.toList := by
  unfold written? at h
  split at h <;> cases h <;> decide

/-- A text has a cut if what its letters stand for has one. -/
theorem isCut_itemsWith {cs : List Char}
    (h : ∀ c ∈ cs, ∀ template, written? c = some template →
      IsCut template.toList (items template)) :
    IsCut cs (itemsWith composite? cs) := by
  induction cs using text_induction with
  | nil => exact .nil
  | backslash => exact .backslash
  | escaped c rest ih =>
    exact .escaped (ih fun d hd => h d (List.mem_cons_of_mem _ (List.mem_cons_of_mem _ hd)))
  | plain c rest hc ih =>
    have hrest := ih fun d hd => h d (List.mem_cons_of_mem _ hd)
    rw [itemsWith_cons_of_ne hc, composite?]
    cases hwritten : written? c with
    | some template =>
      have hfirst := h c List.mem_cons_self template hwritten
      rw [items_of_written? hwritten] at hfirst
      exact .written hwritten hfirst hrest
    | none =>
      rw [Option.map_none, Option.getD_none, itemOf]
      cases ht : token? c with
      | some t => exact .token ht hrest
      | none => exact .literal hc hwritten ht hrest

/-- The items of a template are its only cut. -/
theorem isCut_iff {template : String} {cut : List Item} :
    IsCut template.toList cut ↔ cut = items template := by
  constructor
  · unfold items
    generalize template.toList = cs
    intro h
    induction h with
    | nil => rfl
    | backslash => rfl
    | escaped _ ih => rw [ih, itemsWith]
    | written hwritten _ _ ihfirst ih =>
      rw [itemsWith_cons_of_ne (ne_backslash_of_written? hwritten), composite?, hwritten,
        Option.map_some, Option.getD_some, ← items_of_written? hwritten, ih, ihfirst, items]
    | token ht _ ih =>
      rw [itemsWith_cons_of_ne (ne_backslash_of_token? ht), composite?,
        written?_eq_none_of_token? ht, Option.map_none, Option.getD_none, itemOf, ht, ih]
      rfl
    | literal hc hwritten ht _ ih =>
      rw [itemsWith_cons_of_ne hc, composite?, hwritten, Option.map_none, Option.getD_none, itemOf,
        ht, ih]
      rfl
  · rintro rfl
    -- What a letter stands for has no such letters, so cutting it does not go on.
    refine isCut_itemsWith fun c _ template hwritten => isCut_itemsWith fun d hd other hother => ?_
    rw [written?_eq_none_of_mem hwritten hd] at hother
    cases hother

/-! ## The patterns of items -/

/-- The pattern of one item, and the components captured after it.  A component that is captured
already is not captured again. -/
def itemPattern (captured : List Component) : Item → List Char × List Component
  | .literal c => (escape c, captured)
  | .token t =>
    match t.component with
    | some k =>
      if captured.contains k then
        ("(?:".toList ++ t.fragment.toList ++ [')'], captured)
      else
        ("(?P<".toList ++ k.group.toList ++ '>' :: t.fragment.toList ++ [')'], captured ++ [k])
    | none => ("(?:".toList ++ t.fragment.toList ++ [')'], captured)

/-- The patterns of several items, one after the other, and the components captured after them. -/
def itemPatterns (captured : List Component) : List Item → List Char × List Component
  | [] => ([], captured)
  | item :: rest =>
    let (first, captured) := itemPattern captured item
    let (others, captured) := itemPatterns captured rest
    (first ++ others, captured)

end Template

/-! ## One pass -/

/-- Adds an item to what has been compiled so far. -/
def Draft.item : Item → Draft → Draft
  | .token t, d => d.token t
  | .literal c, d => d.literal c

/-- An item adds its pattern, and captures what the pattern does. -/
theorem Draft.item_eq (item : Item) (d : Draft) :
    d.item item =
      ⟨d.pattern ++ .ofList (Template.itemPattern d.captured item).1,
        (Template.itemPattern d.captured item).2⟩ := by
  have hplain (fragment : String) : "(?:" ++ fragment ++ ")" =
      .ofList ("(?:".toList ++ fragment.toList ++ [')']) := by
    rw [← String.toList_inj]
    simp
  have hcapture (name fragment : String) : "(?P<" ++ name ++ ">" ++ fragment ++ ")" =
      .ofList ("(?P<".toList ++ name.toList ++ '>' :: fragment.toList ++ [')']) := by
    rw [← String.toList_inj]
    simp
  cases item with
  | literal c => rfl
  | token t =>
    rw [item, token, Template.itemPattern]
    cases t.component with
    | none => rw [plain, push, hplain]
    | some k =>
      dsimp only
      split
      · rw [plain, push, hplain]
      · rw [capture, push, hcapture]

namespace Template

/-- Adds several items, from left to right. -/
def pushItems (items : List Item) (d : Draft) : Draft :=
  items.foldl (fun d item => d.item item) d

/-- Items add their patterns, each with what is captured by then. -/
theorem pushItems_eq (items : List Item) (d : Draft) :
    pushItems items d =
      ⟨d.pattern ++ .ofList (itemPatterns d.captured items).1,
        (itemPatterns d.captured items).2⟩ := by
  unfold pushItems
  induction items generalizing d with
  | nil => rw [itemPatterns, String.ofList_nil, String.append_empty, List.foldl_nil]
  | cons item rest ih =>
    rw [List.foldl_cons, ih, Draft.item_eq, String.append_assoc, ← String.ofList_append,
      itemPatterns]

/-- A character adds its item. -/
theorem character_eq_item (c : Char) (d : Draft) : d.character c = d.item (itemOf c) := by
  unfold Draft.character itemOf
  cases token? c <;> rfl

/-- Compiling a text adds its items, if what a letter adds are the items that it stands for. -/
theorem pushWith_eq_pushItems {expand : Char → Option (Draft → Draft)}
    {expanded : Char → Option (List Item)} (h : ∀ c, expand c = (expanded c).map pushItems)
    (cs : List Char) (d : Draft) : pushWith expand cs d = pushItems (itemsWith expanded cs) d := by
  induction cs using text_induction generalizing d with
  | nil => rfl
  | backslash => rfl
  | escaped c rest ih => exact ih (d.literal c)
  | plain c rest hc ih =>
    have hpush : pushWith expand (c :: rest) d =
        pushWith expand rest ((expand c).getD (Draft.character c) d) := by
      rw [pushWith]
      · exact fun hc' _ => hc hc'
      · exact fun _ _ hc' _ => hc hc'
    rw [hpush, ih, itemsWith_cons_of_ne hc, h]
    unfold pushItems
    rw [List.foldl_append]
    cases expanded c with
    | some items => rfl
    | none => rw [Option.map_none, Option.getD_none, Option.getD_none, character_eq_item]; rfl

/-- **One pass.**  Compiling a template in one pass, where a letter that stands for several is
compiled on the way, adds the patterns of the items of the template. -/
theorem push_eq (cs : List Char) (d : Draft) :
    push cs d =
      ⟨d.pattern ++ .ofList (itemPatterns d.captured (itemsWith composite? cs)).1,
        (itemPatterns d.captured (itemsWith composite? cs)).2⟩ := by
  have hnone (_ : Char) :
      (none : Option (Draft → Draft)) = (none : Option (List Item)).map pushItems := rfl
  have hplain (template : String) :
      pushPlain template.toList = pushItems (plainItems template.toList) :=
    funext (pushWith_eq_pushItems hnone template.toList)
  have hexpand (c : Char) :
      ((written? c).map fun template => pushPlain template.toList) =
        (composite? c).map pushItems := by
    rw [composite?, Option.map_map]
    exact congrArg (Option.map · (written? c)) (funext hplain)
  rw [push, pushWith_eq_pushItems hexpand, pushItems_eq]

/-- The pattern of a template has the patterns of its items in it, and a start and an end. -/
theorem toList_source (template : String) :
    (source template).toList =
      "\\A(?:".toList ++ (itemPatterns [] (items template)).1 ++ ")\\z".toList := by
  rw [source, push_eq, String.toList_append, String.toList_append]
  exact congrArg (fun body => "\\A(?:".toList ++ body ++ ")\\z".toList) String.toList_ofList

end Template

end FieldRules.Date
