import FieldRules.Pattern.Reader

/-!
# Reading a pattern piece by piece

A piece of a pattern takes the reader from one state to another, whatever comes after the piece, if
it ends where a part of the pattern ends (`ReadState.Reads`).  Pieces that follow each other are
read one after the other (`ReadState.Reads.append`), so that the reading of a whole pattern is put
together from those of its pieces (`Ast.ofChars_of_reads`).
-/

set_option autoImplicit false

namespace FieldRules.Pattern

/-! ## Runs of characters -/

/-- Where blanks count, characters are taken as long as they fit. -/
theorem takeAll_false (p : Char → Bool) (cs : List Char) :
    takeAll false p cs = (cs.takeWhile p, cs.dropWhile p) := by
  induction cs with
  | nil => rfl
  | cons c rest ih =>
    have hstep : takeAll false p (c :: rest) =
        if p c then (c :: (takeAll false p rest).1, (takeAll false p rest).2)
        else ([], c :: rest) := by
      simp [takeAll, takeRun]
    rw [hstep, ih]
    cases h : p c <;> simp [h]

/-- Where blanks count, none are skipped. -/
@[simp] theorem skipBlanks_false (cs : List Char) : skipBlanks false cs = cs := by
  rw [skipBlanks, takeAll_false]
  cases cs <;> rfl

/-! ## Names of groups -/

/-- The name of a group is read up to the bracket that closes it. -/
theorem readName_append {names : List String} {name : String} {c : Char} {more : List Char}
    (hname : name.toList = c :: more) (hstart : isNameStart c = true)
    (hrest : more.all isNameRest = true) (hclosing : '>' ∉ name.toList)
    (hfresh : names.contains name = false) (rest : List Char) :
    readName names (name.toList ++ '>' :: rest) = .ok (name, rest) := by
  have hne : ∀ d ∈ name.toList, (d != '>') = true := by
    intro d hd
    exact bne_iff_ne.2 fun h => hclosing (h ▸ hd)
  have hdrop : (name.toList ++ '>' :: rest).dropWhile (· != '>') = '>' :: rest := by
    rw [List.dropWhile_append_of_pos hne]
    rfl
  have htake : (name.toList ++ '>' :: rest).takeWhile (· != '>') = c :: more := by
    rw [List.takeWhile_append_of_pos hne, ← hname]
    exact List.append_nil _
  have hback : String.ofList (c :: more) = name := by rw [← hname, String.ofList_toList]
  simp only [readName, hdrop, htake, hback, hstart, hrest, hfresh]
  rfl

namespace ReadState

/-! ## Pieces -/

/-- Whether a piece of a pattern takes the reader from one state to another, whatever comes after
it.  A part of several characters takes the fuel of one, so the piece may leave some to spare. -/
def Reads (s : ReadState) (piece : List Char) (s' : ReadState) : Prop :=
  ∃ spare, ∀ fuel rest, s.run (fuel + piece.length) (piece ++ rest) = s'.run (fuel + spare) rest

/-- Reading nothing changes nothing. -/
theorem Reads.refl (s : ReadState) : Reads s [] s :=
  ⟨0, fun _ _ => rfl⟩

/-- Pieces that follow each other. -/
theorem Reads.append {s s' s'' : ReadState} {piece piece' : List Char} (h : Reads s piece s')
    (h' : Reads s' piece' s'') : Reads s (piece ++ piece') s'' := by
  obtain ⟨spare, hrun⟩ := h
  obtain ⟨spare', hrun'⟩ := h'
  refine ⟨spare + spare', ?_⟩
  intro fuel rest
  have hlength : fuel + (piece ++ piece').length = fuel + piece'.length + piece.length := by
    rw [List.length_append]
    omega
  have hfuel : fuel + piece'.length + spare = fuel + spare + piece'.length := by omega
  rw [hlength, List.append_assoc, hrun, hfuel, hrun', Nat.add_assoc]

/-- A piece that is one part. -/
theorem reads_of_step {s s' : ReadState} (hverbose : s.verbose = false) {c : Char}
    {more : List Char} (h : ∀ fuel rest, s.step fuel c (more ++ rest) = .ok (s', rest)) :
    Reads s (c :: more) s' := by
  refine ⟨more.length, ?_⟩
  intro fuel rest
  rw [List.length_cons, ← Nat.add_assoc, run, hverbose, skipBlanks_false, List.cons_append]
  simp only [h]
  rfl

/-! ## Characters -/

/-- A character that means nothing in a pattern stands for itself. -/
theorem reads_literal {s : ReadState} (hverbose : s.verbose = false) {c : Char}
    (h : isMeta c = false) : Reads s [c] (s.push (.literal ⟨c, false⟩)) := by
  refine reads_of_step hverbose ?_
  intro fuel rest
  unfold step
  split
  case h_13 => rfl
  all_goals exact absurd h (by decide)

/-- A character with a backslash before it stands for itself if it means something without. -/
theorem reads_escaped {s : ReadState} (hverbose : s.verbose = false) {c : Char}
    (h : isMeta c = true) : Reads s ['\\', c] (s.push (.literal ⟨c, false⟩)) := by
  refine reads_of_step hverbose ?_
  intro fuel rest
  have hescape : readEscape s.verbose (c :: rest) = .ok (.literal ⟨c, false⟩, rest) := by
    simp [readEscape, isEscapable, h]
  simp [step, hescape]
  rfl

/-- The start of the text is read as its anchor. -/
theorem reads_textStart {s : ReadState} (hverbose : s.verbose = false) :
    Reads s ['\\', 'A'] (s.push (.anchor .textStart)) :=
  reads_of_step hverbose fun _ _ => rfl

/-- The end of the text is read as its anchor. -/
theorem reads_textEnd {s : ReadState} (hverbose : s.verbose = false) :
    Reads s ['\\', 'z'] (s.push (.anchor .textEnd)) :=
  reads_of_step hverbose fun _ _ => rfl

/-! ## Groups -/

/-- A group that only groups begins. -/
theorem reads_plainOpening {s : ReadState} (hverbose : s.verbose = false) :
    Reads s ['(', '?', ':'] (s.openWith (.group (.plain []))) := by
  refine reads_of_step hverbose ?_
  intro fuel rest
  simp only [step, readOpening, hverbose, skipBlanks_false]
  rfl

/-- A group with a name that can be read begins. -/
theorem reads_namedOpening {s : ReadState} (hverbose : s.verbose = false) {name : String}
    (hname : ∀ rest, readName s.names (name.toList ++ '>' :: rest) = .ok (name, rest)) :
    Reads s ('(' :: '?' :: 'P' :: '<' :: (name.toList ++ ['>']))
      (s.openWith (.group (.capture (some name)))) := by
  refine reads_of_step hverbose ?_
  intro fuel rest
  have hpiece : name.toList ++ ['>'] ++ rest = name.toList ++ '>' :: rest := List.append_assoc ..
  simp only [step, readOpening, hverbose, skipBlanks_false, List.cons_append, hpiece, hname]
  rfl

/-- A group ends. -/
theorem reads_close {s s' : ReadState} (hverbose : s.verbose = false) (hclose : s.close = .ok s') :
    Reads s [')'] s' := by
  refine reads_of_step hverbose ?_
  intro fuel rest
  simp only [step, hclose]
  rfl

end ReadState

/-- A pattern that is read to its end, with all groups closed, is what has been read. -/
theorem Ast.ofChars_of_reads {cs : List Char} {s : ReadState} (h : ReadState.start.Reads cs s)
    (hopened : s.opened = []) (hdepth : s.body.depth ≤ maxNesting) :
    Ast.ofChars cs = .ok s.body := by
  obtain ⟨spare, hrun⟩ := h
  have hend : ReadState.start.run (cs.length + 1) cs = .ok s := by
    have hone := hrun 1 []
    rw [List.append_nil, Nat.add_comm 1] at hone
    rw [hone, Nat.add_comm 1, ReadState.run]
    cases s.verbose <;> rfl
  have hbody : Ast.ofChars cs = if s.opened.isEmpty then
      if s.body.depth ≤ maxNesting then .ok s.body else .error .tooDeep
      else .error .unbalanced := by
    simp only [Ast.ofChars, hend]
    rfl
  rw [hbody, hopened, List.isEmpty_nil, if_pos rfl, if_pos hdepth]

end FieldRules.Pattern
