import FieldRules.Pattern.CharSet
import FieldRules.Pattern.Syntax

/-!
# Reading patterns

`Ast.ofChars` reads the text of a pattern.  Each part is read from the head of the characters that
are left and hands on those after it.  In verbose mode blanks and comments between the characters
are passed over.
-/

set_option autoImplicit false

namespace FieldRules.Pattern

/-! ## Runs of characters -/

/-- The longest run of characters that satisfy `p`, at most `limit` of them if there is a limit, and
what follows it.  In verbose mode the blanks and comments in the run and after it are passed over;
`comment` tells that a comment is open. -/
def takeRun (verbose : Bool) (p : Char → Bool) (limit : Option Nat) (comment : Bool) :
    List Char → List Char × List Char
  | [] => ([], [])
  | c :: rest =>
    if comment then takeRun verbose p limit (c != '\n') rest
    else if verbose && Text.isSpace c then takeRun verbose p limit false rest
    else if verbose && c == '#' then takeRun verbose p limit true rest
    else if limit ≠ some 0 ∧ p c then
      let (run, after) := takeRun verbose p (limit.map (· - 1)) false rest
      (c :: run, after)
    else
      ([], c :: rest)

/-- The run of all characters that satisfy `p`, and what follows it. -/
def takeAll (verbose : Bool) (p : Char → Bool) (cs : List Char) : List Char × List Char :=
  takeRun verbose p none false cs

/-- The characters after blanks and comments, in verbose mode. -/
def skipBlanks (verbose : Bool) (cs : List Char) : List Char :=
  (takeAll verbose (fun _ => false) cs).2

/-- The next character, one `#` and the blanks around it passed over in verbose mode. -/
def peekPast (verbose : Bool) (cs : List Char) : Option Char :=
  if verbose then
    match cs.dropWhile Text.isSpace with
    | '#' :: rest => (rest.dropWhile Text.isSpace).head?
    | rest => rest.head?
  else
    cs.head?

/-! ## Escapes -/

/-- What one escape or one plain character is. -/
inductive Atom where
  | literal (l : Literal)
  | anchor (a : Anchor)
  | shorthand (kind : Shorthand) (negated : Bool)
  | property (p : Property) (negated : Bool)

/-- The characters that mean something in a pattern. -/
def isMeta (c : Char) : Bool :=
  "\\.+*?()|[]\x7b\x7d^$#&-~".toList.contains c

/-- Whether a backslash makes the character stand for itself. -/
def isEscapable (c : Char) : Bool :=
  isMeta c || (c.toNat < 128 && !c.isAlphanum && c != '<' && c != '>')

/-- Reads a character given by hexadecimal digits, after the letter: `digits` of them, or any number
in braces. -/
def readHex (verbose : Bool) (digits : Nat) (cs : List Char) :
    Except PatternError (Literal × List Char) :=
  let isHex (c : Char) := (Text.hexValue? c).isSome
  let found (byte : Bool) (run rest : List Char) : Except PatternError (Literal × List Char) :=
    match (Text.hexNumber? run).bind Text.char? with
    | some c => .ok (⟨c, byte⟩, rest)
    | none => .error .badEscape
  match skipBlanks verbose cs with
  | '{' :: rest =>
    match takeAll verbose isHex rest with
    | ([], _) => .error .badEscape
    | (run, '}' :: rest) => found false run rest
    | _ => .error .badEscape
  | rest =>
    let (run, rest) := takeRun verbose isHex (some digits) false rest
    if run.length = digits then found (digits = 2) run rest else .error .badEscape

/-- What stands before and after the first `!=`, if there is one. -/
def splitUnequal? : List Char → Option (List Char × List Char)
  | '!' :: '=' :: rest => some ([], rest)
  | c :: rest => (splitUnequal? rest).map fun (before, after) => (c :: before, after)
  | [] => none

/-- The property that the text between the braces names, and whether the text negates it. -/
def propertyOfName (name : List Char) : Property × Bool :=
  let valued (p : List Char × List Char) : Property :=
    .valued (String.ofList p.1) (String.ofList p.2)
  match splitUnequal? name with
  | some p => (valued p, true)
  | none =>
    match Text.splitFirst? (· == ':') name with
    | some p => (valued p, false)
    | none =>
      match Text.splitFirst? (· == '=') name with
      | some p => (valued p, false)
      | none => (.named (String.ofList name), false)

/-- Reads the name of a property, after `\p` or `\P`. -/
def readProperty (verbose negated : Bool) (cs : List Char) :
    Except PatternError (Atom × List Char) :=
  match skipBlanks verbose cs with
  | [] => .error .badEscape
  | '{' :: rest =>
    match takeAll verbose (· != '}') rest with
    | (name, '}' :: rest) =>
      let (p, unequal) := propertyOfName name
      .ok (.property p (negated != unequal), rest)
    | _ => .error .badEscape
  | c :: rest =>
    if c = '\\' then .error .badEscape
    else .ok (.property (.named (String.singleton c)) negated, rest)

/-- The half or whole word boundary with the given name. -/
def boundaryNamed? (name : List Char) : Option Anchor :=
  if name = "start".toList then some .wordStart
  else if name = "end".toList then some .wordEnd
  else if name = "start-half".toList then some .wordStartHalf
  else if name = "end-half".toList then some .wordEndHalf
  else none

/-- Reads what follows `\b`: a name in braces makes it another boundary.  Braces that begin with
anything but a letter or a hyphen are left to be read as a repetition. -/
def readBoundary (verbose : Bool) (cs : List Char) : Except PatternError (Atom × List Char) :=
  let isNameChar (c : Char) := c.isAlpha || c == '-'
  match cs with
  | '{' :: rest =>
    match skipBlanks verbose rest with
    | [] => .error .unbalanced
    | c :: rest =>
      if isNameChar c then
        match takeAll verbose isNameChar (c :: rest) with
        | (name, '}' :: rest) =>
          match boundaryNamed? name with
          | some a => .ok (.anchor a, rest)
          | none => .error .badEscape
        | _ => .error .unbalanced
      else
        .ok (.anchor .boundary, cs)
  | _ => .ok (.anchor .boundary, cs)

/-- Reads an escape, after its backslash. -/
def readEscape (verbose : Bool) : List Char → Except PatternError (Atom × List Char)
  | [] => .error .badEscape
  | c :: rest =>
    let plain (atom : Atom) : Except PatternError (Atom × List Char) := .ok (atom, rest)
    let control (n : Nat) := plain (.literal ⟨Char.ofNat n, false⟩)
    let hex (digits : Nat) : Except PatternError (Atom × List Char) := do
      let (l, rest) ← readHex verbose digits rest
      .ok (.literal l, rest)
    if isEscapable c then plain (.literal ⟨c, false⟩)
    else
      match c with
      | 'x' => hex 2
      | 'u' => hex 4
      | 'U' => hex 8
      | 'p' => readProperty verbose false rest
      | 'P' => readProperty verbose true rest
      | 'd' => plain (.shorthand .digit false)
      | 'D' => plain (.shorthand .digit true)
      | 's' => plain (.shorthand .space false)
      | 'S' => plain (.shorthand .space true)
      | 'w' => plain (.shorthand .word false)
      | 'W' => plain (.shorthand .word true)
      | 'a' => control 7
      | 't' => control 9
      | 'n' => control 10
      | 'v' => control 11
      | 'f' => control 12
      | 'r' => control 13
      | 'A' => plain (.anchor .textStart)
      | 'z' => plain (.anchor .textEnd)
      | 'b' => readBoundary verbose rest
      | 'B' => plain (.anchor .noBoundary)
      | '<' => plain (.anchor .wordStart)
      | '>' => plain (.anchor .wordEnd)
      | _ => .error .badEscape

/-! ## Classes in brackets -/

/-- The ASCII class with the given name. -/
def asciiClassNamed? (name : List Char) : Option AsciiClass :=
  let names : List (String × AsciiClass) :=
    [("alnum", .alnum), ("alpha", .alpha), ("ascii", .ascii), ("blank", .blank),
      ("cntrl", .cntrl), ("digit", .digit), ("graph", .graph), ("lower", .lower),
      ("print", .print), ("punct", .punct), ("space", .space), ("upper", .upper),
      ("word", .word), ("xdigit", .xdigit)]
  (names.find? (·.1.toList == name)).map (·.2)

/-- Reads an ASCII class after its opening bracket, if there is one. -/
def readAsciiClass? : List Char → Option (ClassTree × List Char)
  | ':' :: rest =>
    let (negated, rest) := match rest with
      | '^' :: rest => (true, rest)
      | rest => (false, rest)
    match rest.dropWhile (· != ':') with
    | ':' :: ']' :: after =>
      (asciiClassNamed? (rest.takeWhile (· != ':'))).map fun kind => (.ascii kind negated, after)
    | _ => none
  | _ => none

/-- Reads one character or escape of a class. -/
def readClassAtom (verbose : Bool) : List Char → Except PatternError (Atom × List Char)
  | [] => .error .unbalanced
  | '\\' :: rest => readEscape verbose rest
  | c :: rest => .ok (.literal ⟨c, false⟩, rest)

/-- A character or escape as an item of a class; a condition on a position is none. -/
def Atom.toClass : Atom → Except PatternError ClassTree
  | .literal l => .ok (.literal l)
  | .shorthand kind negated => .ok (.shorthand kind negated)
  | .property p negated => .ok (.property p negated)
  | .anchor _ => .error .badEscape

/-- Reads one item of a class: a character, an escape, or a range. -/
def readClassRange (verbose : Bool) (cs : List Char) :
    Except PatternError (ClassTree × List Char) := do
  let (first, rest) ← readClassAtom verbose cs
  match skipBlanks verbose rest with
  | [] => .error .unbalanced
  | '-' :: rest' =>
    let next := peekPast verbose rest'
    if next = some ']' ∨ next = some '-' then
      .ok (← first.toClass, '-' :: rest')
    else
      match skipBlanks verbose rest' with
      | [] => .error .unbalanced
      | rest' =>
        let (second, rest') ← readClassAtom verbose rest'
        match first, second with
        | .literal low, .literal high =>
          if low.char ≤ high.char then .ok (.range low high, rest') else .error .badRange
        | _, _ => .error .badRange
  | rest' => .ok (← first.toClass, rest')

/-- The hyphens at the head of a class as items, and what follows them. -/
def leadingHyphens (verbose : Bool) (cs : List Char) : List ClassTree × List Char :=
  let (run, rest) := takeAll verbose (· == '-') cs
  (run.map fun c => .literal ⟨c, false⟩, rest)

/-- Reads the head of a class after its opening bracket: whether it is negated, and the items that
stand for themselves only there. -/
def readClassHead (verbose : Bool) (cs : List Char) :
    Except PatternError ((Bool × List ClassTree) × List Char) := do
  let (negated, rest) := match skipBlanks verbose cs with
    | '^' :: rest => (true, skipBlanks verbose rest)
    | rest => (false, rest)
  let (hyphens, rest) := leadingHyphens verbose rest
  match hyphens, rest with
  | _, [] => .error .unbalanced
  | [], ']' :: rest =>
    match skipBlanks verbose rest with
    | [] => .error .unbalanced
    | rest => .ok ((negated, [.literal ⟨']', false⟩]), rest)
  | items, rest => .ok ((negated, items), rest)

/-- The left side of a set operation with its right side. -/
def joinSides (left : Option (ClassOp × ClassTree)) (right : ClassTree) : ClassTree :=
  match left with
  | some (op, left) => .binary op left right
  | none => right

/-- Reads a class after its head up to and with its closing bracket.  `left` is what stands before
the last set operation and `items` what has been read since, the last item first. -/
def readClassBody (verbose : Bool) :
    (fuel : Nat) → (left : Option (ClassOp × ClassTree)) → (items : List ClassTree) →
    List Char → Except PatternError (ClassTree × List Char)
  | 0, _, _, _ => .error .unbalanced
  | fuel + 1, left, items, cs =>
    let side := ClassTree.ofItems items.reverse
    match skipBlanks verbose cs with
    | [] => .error .unbalanced
    | '[' :: rest =>
      match readAsciiClass? rest with
      | some (item, rest) => readClassBody verbose fuel left (item :: items) rest
      | none => do
        let ((negated, head), rest) ← readClassHead verbose rest
        let (body, rest) ← readClassBody verbose fuel none head.reverse rest
        readClassBody verbose fuel left (.bracketed negated body :: items) rest
    | ']' :: rest => .ok (joinSides left side, rest)
    | '&' :: '&' :: rest =>
      readClassBody verbose fuel (some (.intersection, joinSides left side)) [] rest
    | '-' :: '-' :: rest =>
      readClassBody verbose fuel (some (.difference, joinSides left side)) [] rest
    | '~' :: '~' :: rest =>
      readClassBody verbose fuel (some (.symmetricDifference, joinSides left side)) [] rest
    | rest => do
      let (item, rest) ← readClassRange verbose rest
      readClassBody verbose fuel left (item :: items) rest

/-- Reads a class after its opening bracket, with at most `fuel` items. -/
def readClass (verbose : Bool) (fuel : Nat) (cs : List Char) :
    Except PatternError (Ast × List Char) := do
  let ((negated, head), rest) ← readClassHead verbose cs
  let (body, rest) ← readClassBody verbose fuel none head.reverse rest
  .ok (.bracketed negated body, rest)

/-! ## Repetitions -/

/-- The largest bound of a repetition. -/
def maxBound : Nat := (1 <<< 32) - 1

/-- Reads a bound of a repetition, none if there are no digits. -/
def readBound (verbose : Bool) (cs : List Char) :
    Except PatternError (Option Nat × List Char) :=
  let (run, rest) := takeAll verbose Char.isDigit (cs.dropWhile Text.isSpace)
  let rest := match rest with
    | c :: _ => if Text.isSpace c then skipBlanks verbose (rest.dropWhile Text.isSpace) else rest
    | [] => []
  if run.isEmpty then .ok (none, rest)
  else
    let n := Text.numeralValue run
    if n ≤ maxBound then .ok (some n, rest) else .error .badBounds

/-- Reads the bounds of a repetition after the opening brace, up to and with the closing one. -/
def readBounds (verbose : Bool) (cs : List Char) :
    Except PatternError ((Nat × Option Nat) × List Char) := do
  let (low, rest) ← readBound verbose (skipBlanks verbose cs)
  let some low := low | .error .badBounds
  match rest with
  | '}' :: rest => .ok ((low, some low), rest)
  | ',' :: rest =>
    match skipBlanks verbose rest with
    | '}' :: rest => .ok ((low, none), rest)
    | rest =>
      let (high, rest) ← readBound verbose rest
      let some high := high | .error .badBounds
      match rest with
      | '}' :: rest => if low ≤ high then .ok ((low, some high), rest) else .error .badBounds
      | _ => .error .badBounds
  | _ => .error .badBounds

/-- Repeats the last part that was read, `parts` having the last part first.  A question mark that
follows makes the repetition lazy. -/
def repeatLast (parts : List Ast) (low : Nat) (high : Option Nat) (cs : List Char) :
    Except PatternError (List Ast × List Char) :=
  let (greedy, rest) := match cs with
    | '?' :: rest => (false, rest)
    | rest => (true, rest)
  match parts with
  | [] | .empty :: _ | .flags _ :: _ => .error .nothingToRepeat
  | part :: earlier => .ok (.repeated low high greedy part :: earlier, rest)

/-! ## Groups -/

/-- The flag that a letter denotes. -/
def flagOf? : Char → Option Flag
  | 'i' => some .caseInsensitive
  | 'm' => some .multiLine
  | 's' => some .dotAll
  | 'U' => some .swapGreed
  | 'u' => some .unicode
  | 'R' => some .crlf
  | 'x' => some .verbose
  | _ => none

/-- Reads flags up to a colon or a closing parenthesis, which is left.  `done` has the last flag
first, `negative` tells that a minus sign has been read, and `dangling` that nothing follows it. -/
def readFlags (done : FlagChanges) (negative dangling : Bool) :
    List Char → Except PatternError (FlagChanges × List Char)
  | [] => .error .badFlags
  | c :: rest =>
    if c = ':' ∨ c = ')' then
      if dangling then .error .badFlags else .ok (done.reverse, c :: rest)
    else if c = '-' then
      if negative then .error .badFlags else readFlags done true true rest
    else
      match flagOf? c with
      | some f =>
        if done.any (·.1 == f) then .error .badFlags
        else readFlags ((f, !negative) :: done) negative false rest
      | none => .error .badFlags

/-- Whether a character may begin the name of a group.  The letters of ASCII need no table. -/
def isNameStart (c : Char) : Bool :=
  c == '_' || c.isAlpha || ((CharSet.ofBinaryProperty? "alphabetic").getD .none).contains c

/-- Whether a character may go on the name of a group. -/
def isNameRest (c : Char) : Bool :=
  isNameStart c || c == '.' || c == '[' || c == ']' ||
    (CharSet.unions [.digit, .ofCategoryCode "Nl", .ofCategoryCode "No"]).contains c

/-- Reads the name of a group up to and with the closing angle bracket; `names` are taken. -/
def readName (names : List String) (cs : List Char) : Except PatternError (String × List Char) :=
  match cs.dropWhile (· != '>') with
  | '>' :: rest =>
    match cs.takeWhile (· != '>') with
    | [] => .error .badGroupName
    | first :: more =>
      let name := String.ofList (first :: more)
      if isNameStart first && more.all isNameRest && !names.contains name then .ok (name, rest)
      else .error .badGroupName
  | _ => .error .badGroupName

/-- What an opening parenthesis begins. -/
inductive Opening where
  | group (kind : GroupKind)
  | flags (changes : FlagChanges)

/-- Reads what follows an opening parenthesis up to the body of the group. -/
def readOpening (verbose : Bool) (names : List String) (cs : List Char) :
    Except PatternError (Opening × List Char) :=
  match skipBlanks verbose cs with
  | '?' :: '=' :: _ | '?' :: '!' :: _ | '?' :: '<' :: '=' :: _ | '?' :: '<' :: '!' :: _ =>
    .error .lookAround
  | '?' :: 'P' :: '<' :: rest | '?' :: '<' :: rest => do
    let (name, rest) ← readName names rest
    .ok (.group (.capture (some name)), rest)
  | '?' :: rest => do
    let (changes, rest) ← readFlags [] false false rest
    match rest with
    | ':' :: rest => .ok (.group (.plain changes), rest)
    | ')' :: rest =>
      if changes.isEmpty then .error .nothingToRepeat else .ok (.flags changes, rest)
    | _ => .error .unbalanced
  | rest => .ok (.group (.capture none), rest)

/-! ## Whole patterns -/

/-- An open group and what stood before it. -/
structure OpenGroup where
  kind : GroupKind
  /-- The parts before the group in its branch, the last one first. -/
  parts : List Ast
  /-- The branches before that one, the last one first. -/
  branches : List Ast
  /-- Whether verbose mode was on before the group. -/
  verbose : Bool

/-- What has been read of a pattern. -/
structure ReadState where
  /-- The parts of the current branch, the last one first. -/
  parts : List Ast
  /-- The finished branches of the current group, the last one first. -/
  branches : List Ast
  /-- The open groups, the innermost one first. -/
  opened : List OpenGroup
  /-- Whether verbose mode is on. -/
  verbose : Bool
  /-- The names of the groups so far. -/
  names : List String

namespace ReadState

/-- Nothing has been read. -/
def start : ReadState := ⟨[], [], [], false, []⟩

/-- Adds a part to the current branch. -/
def push (s : ReadState) (part : Ast) : ReadState :=
  { s with parts := part :: s.parts }

/-- The pattern of the current group as far as it has been read. -/
def body (s : ReadState) : Ast :=
  .ofBranches (.ofParts s.parts.reverse :: s.branches).reverse

/-- Begins a group, or sets flags for the rest of the current one. -/
def openWith (s : ReadState) : Opening → ReadState
  | .flags changes =>
    { s.push (.flags changes) with verbose := (changes.lookup .verbose).getD s.verbose }
  | .group kind =>
    let verbose := match kind with
      | .plain changes => (changes.lookup .verbose).getD s.verbose
      | .capture _ => s.verbose
    let names := match kind with
      | .capture (some name) => name :: s.names
      | _ => s.names
    ⟨[], [], ⟨kind, s.parts, s.branches, s.verbose⟩ :: s.opened, verbose, names⟩

/-- Ends the innermost open group. -/
def close (s : ReadState) : Except PatternError ReadState :=
  match s.opened with
  | [] => .error .unbalanced
  | g :: outer => .ok ⟨.group g.kind s.body :: g.parts, g.branches, outer, g.verbose, s.names⟩

/-- Reads one part of a pattern at the head of the characters, which begin with `c`; `fuel` is more
than the number of characters after it. -/
def step (s : ReadState) (fuel : Nat) (c : Char) (rest : List Char) :
    Except PatternError (ReadState × List Char) :=
  match c with
  | '(' => do
    let (opening, rest) ← readOpening s.verbose s.names rest
    .ok (s.openWith opening, rest)
  | ')' => do .ok (← s.close, rest)
  | '|' => .ok ({ s with parts := [], branches := .ofParts s.parts.reverse :: s.branches }, rest)
  | '[' => do
    let (part, rest) ← readClass s.verbose fuel rest
    .ok (s.push part, rest)
  | '?' => do
    let (parts, rest) ← repeatLast s.parts 0 (some 1) rest
    .ok ({ s with parts }, rest)
  | '*' => do
    let (parts, rest) ← repeatLast s.parts 0 none rest
    .ok ({ s with parts }, rest)
  | '+' => do
    let (parts, rest) ← repeatLast s.parts 1 none rest
    .ok ({ s with parts }, rest)
  | '{' => do
    let ((low, high), rest) ← readBounds s.verbose rest
    let (parts, rest) ← repeatLast s.parts low high (skipBlanks s.verbose rest)
    .ok ({ s with parts }, rest)
  | '.' => .ok (s.push .dot, rest)
  | '^' => .ok (s.push (.anchor .lineStart), rest)
  | '$' => .ok (s.push (.anchor .lineEnd), rest)
  | '\\' => do
    let (atom, rest) ← readEscape s.verbose rest
    let part : Ast := match atom with
      | .literal l => .literal l
      | .anchor a => .anchor a
      | .shorthand kind negated => .shorthand kind negated
      | .property p negated => .property p negated
    .ok (s.push part, rest)
  | c => .ok (s.push (.literal ⟨c, false⟩), rest)

/-- Reads the parts that are left, at most `fuel` of them; each takes one character at least. -/
def run : (fuel : Nat) → ReadState → List Char → Except PatternError ReadState
  | 0, s, cs => if cs.isEmpty then .ok s else .error .unbalanced
  | fuel + 1, s, cs =>
    match skipBlanks s.verbose cs with
    | [] => .ok s
    | c :: rest => do
      let (s, rest) ← s.step fuel c rest
      run fuel s rest

end ReadState

/-- How deep the parts of a pattern may nest. -/
def maxNesting : Nat := 250

/-- Reads a pattern. -/
def Ast.ofChars (cs : List Char) : Except PatternError Ast := do
  let s ← ReadState.start.run (cs.length + 1) cs
  if s.opened.isEmpty then
    if s.body.depth ≤ maxNesting then .ok s.body else .error .tooDeep
  else
    .error .unbalanced

end FieldRules.Pattern
