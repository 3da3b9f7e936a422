import FieldRules.Pattern.CharSet
import FieldRules.Pattern.Regex
import FieldRules.Pattern.Syntax

/-!
# The meaning of patterns

`Ast.meaning` gives a pattern as a regular expression over sets of characters and conditions on a
position.  Flags that are set inside a group hold to its end, from one branch to the next.  Where
Unicode is switched off, what could match a part of a character is refused.
-/

set_option autoImplicit false

namespace FieldRules.Pattern

/-- The states of the flags that change what a part means. -/
structure Flags where
  caseInsensitive : Bool
  multiLine : Bool
  dotAll : Bool
  swapGreed : Bool
  unicode : Bool
  crlf : Bool
deriving DecidableEq, Repr

namespace Flags

/-- At first only Unicode is on. -/
def initial : Flags := ⟨false, false, false, false, true, false⟩

/-- Sets one flag. -/
def set (f : Flags) : Flag → Bool → Flags
  | .caseInsensitive, on => { f with caseInsensitive := on }
  | .multiLine, on => { f with multiLine := on }
  | .dotAll, on => { f with dotAll := on }
  | .swapGreed, on => { f with swapGreed := on }
  | .unicode, on => { f with unicode := on }
  | .crlf, on => { f with crlf := on }
  | .verbose, _ => f

/-- Sets several flags. -/
def apply (f : Flags) (changes : FlagChanges) : Flags :=
  changes.foldl (fun f c => f.set c.1 c.2) f

end Flags

/-! ## Conditions on a position -/

/-- A condition on a position. -/
inductive Condition where
  | textStart
  | textEnd
  /-- At the start of a line; `crlf` tells whether a carriage return ends a line too. -/
  | lineStart (crlf : Bool)
  /-- At the end of a line. -/
  | lineEnd (crlf : Bool)
  /-- Between a word character and another; `unicode` tells which characters are in words. -/
  | boundary (unicode : Bool)
  /-- Not between a word character and another. -/
  | noBoundary (unicode : Bool)
  | wordStart (unicode : Bool)
  | wordEnd (unicode : Bool)
  | wordStartHalf (unicode : Bool)
  | wordEndHalf (unicode : Bool)
deriving DecidableEq, Repr

namespace Condition

/-- Whether a neighbour is a word character. -/
def isWord (unicode : Bool) : Option Char → Bool
  | some c => (if unicode then CharSet.word else CharSet.wordAscii).contains c
  | none => false

/-- Whether the condition is met between two neighbours, each missing at an end of the text.
Between a carriage return and a line feed no line starts or ends. -/
def meets : Condition → (before after : Option Char) → Bool
  | .textStart, before, _ => before.isNone
  | .textEnd, _, after => after.isNone
  | .lineStart false, before, _ => before.isNone || before == some '\n'
  | .lineStart true, before, after =>
    before.isNone || before == some '\n' || (before == some '\r' && after != some '\n')
  | .lineEnd false, _, after => after.isNone || after == some '\n'
  | .lineEnd true, before, after =>
    after.isNone || after == some '\r' || (after == some '\n' && before != some '\r')
  | .boundary u, before, after => isWord u before != isWord u after
  | .noBoundary u, before, after => isWord u before == isWord u after
  | .wordStart u, before, after => !isWord u before && isWord u after
  | .wordEnd u, before, after => isWord u before && !isWord u after
  | .wordStartHalf u, before, _ => !isWord u before
  | .wordEndHalf u, _, after => !isWord u after

end Condition

/-- The condition that an anchor stands for. -/
def Anchor.condition (f : Flags) : Anchor → Condition
  | .lineStart => if f.multiLine then .lineStart f.crlf else .textStart
  | .lineEnd => if f.multiLine then .lineEnd f.crlf else .textEnd
  | .textStart => .textStart
  | .textEnd => .textEnd
  | .boundary => .boundary f.unicode
  | .noBoundary => .noBoundary f.unicode
  | .wordStart => .wordStart f.unicode
  | .wordEnd => .wordEnd f.unicode
  | .wordStartHalf => .wordStartHalf f.unicode
  | .wordEndHalf => .wordEndHalf f.unicode

/-! ## Classes -/

/-- The characters of an ASCII class. -/
def AsciiClass.set : AsciiClass → CharSet
  | .alnum => .ranges [(48, 57), (65, 90), (97, 122)]
  | .alpha => .ranges [(65, 90), (97, 122)]
  | .ascii => .ranges [(0, 127)]
  | .blank => .ranges [(9, 9), (32, 32)]
  | .cntrl => .ranges [(0, 31), (127, 127)]
  | .digit => .ranges [(48, 57)]
  | .graph => .ranges [(33, 126)]
  | .lower => .ranges [(97, 122)]
  | .print => .ranges [(32, 126)]
  | .punct => .ranges [(33, 47), (58, 64), (91, 96), (123, 126)]
  | .space => .ranges [(9, 13), (32, 32)]
  | .upper => .ranges [(65, 90)]
  | .word => .ranges [(48, 57), (65, 90), (95, 95), (97, 122)]
  | .xdigit => .ranges [(48, 57), (65, 70), (97, 102)]

/-- Applies case folding, if it is on, and then the negation.  Without Unicode a negated set would
hold bytes that are no characters. -/
def foldAndNegate (f : Flags) (negated : Bool) (s : CharSet) : Except PatternError CharSet :=
  if f.unicode then
    .ok (.complIf negated (if f.caseInsensitive then .folded s else s))
  else if negated then
    .error .notUnicode
  else
    .ok (if f.caseInsensitive then .foldedAscii s else s)

/-- The characters of a class named by one letter, which holds all case variants of its own. -/
def Shorthand.set (f : Flags) (kind : Shorthand) (negated : Bool) : Except PatternError CharSet :=
  if f.unicode then
    .ok (.complIf negated (match kind with
      | .digit => .digit
      | .space => .space
      | .word => .word))
  else if negated then
    .error .notUnicode
  else
    .ok (match kind with
      | .digit => .digitAscii
      | .space => .spaceAscii
      | .word => .wordAscii)

/-- The characters that have a property. -/
def Property.set (f : Flags) (p : Property) (negated : Bool) : Except PatternError CharSet :=
  if f.unicode then
    let found := match p with
      | .named name => CharSet.ofProperty? name
      | .valued name value => CharSet.ofPropertyValue? name value
    match found with
    | some s => foldAndNegate f negated s
    | none => .error .unknownProperty
  else
    .error .notUnicode

/-- Whether a character may stand in a class: any one with Unicode, else one of ASCII. -/
def inClass (f : Flags) (l : Literal) : Bool :=
  f.unicode || l.char.toNat < 128

namespace ClassTree

mutual

/-- The characters of a class. -/
def set (f : Flags) : ClassTree → Except PatternError CharSet
  | .literal l => if inClass f l then .ok (.single l.char) else .error .notUnicode
  | .range low high =>
    if inClass f low && inClass f high then .ok (.range low.char high.char)
    else .error .notUnicode
  | .ascii kind negated => foldAndNegate f negated kind.set
  | .shorthand kind negated => kind.set f negated
  | .property p negated => p.set f negated
  | .bracketed negated body => do foldAndNegate f negated (← set f body)
  | .union items => do .ok (.unions (← setAll f items))
  | .binary op left right => do
    let l ← set f left
    let r ← set f right
    let fold (s : CharSet) : CharSet :=
      if f.caseInsensitive then (if f.unicode then .folded s else .foldedAscii s) else s
    .ok (match op with
      | .intersection => .inter (fold l) (fold r)
      | .difference => .diff (fold l) (fold r)
      | .symmetricDifference => .symmDiff (fold l) (fold r))

/-- The characters of each of several classes. -/
def setAll (f : Flags) : List ClassTree → Except PatternError (List CharSet)
  | [] => .ok []
  | item :: rest => do .ok ((← set f item) :: (← setAll f rest))

end

end ClassTree

/-! ## Patterns -/

/-- A regular expression over characters. -/
abbrev TextRegex : Type := Regex CharSet Condition

/-- The characters that the dot stands for. -/
def dotSet (f : Flags) : Except PatternError CharSet :=
  if f.unicode then
    .ok (if f.dotAll then .all
      else if f.crlf then .compl (.ranges [(10, 10), (13, 13)])
      else .compl (.ranges [(10, 10)]))
  else
    .error .notUnicode

/-- The characters that a literal stands for. -/
def Literal.set (f : Flags) (l : Literal) : Except PatternError CharSet :=
  let s := CharSet.single l.char
  if f.unicode then
    .ok (if f.caseInsensitive then .folded s else s)
  else if l.byte ∧ 128 ≤ l.char.toNat then
    .error .notUnicode
  else
    .ok (if f.caseInsensitive then .foldedAscii s else s)

namespace Ast

mutual

/-- The regular expression that a pattern means, and the flags after it. -/
def meaning (f : Flags) : Ast → Except PatternError (TextRegex × Flags)
  | .empty => .ok (.empty, f)
  | .literal l => do .ok (.step (← l.set f), f)
  | .dot => do .ok (.step (← dotSet f), f)
  | .anchor a => .ok (.hold (a.condition f), f)
  | .shorthand kind negated => do .ok (.step (← kind.set f negated), f)
  | .property p negated => do .ok (.step (← p.set f negated), f)
  | .bracketed negated body => do .ok (.step (← foldAndNegate f negated (← body.set f)), f)
  | .flags changes => .ok (.empty, f.apply changes)
  | .group (.capture name) body => do
    let (r, _) ← meaning f body
    .ok (.capture name r, f)
  | .group (.plain changes) body => do
    let (r, _) ← meaning (f.apply changes) body
    .ok (r, f)
  | .repeated low high greedy body => do
    let (r, after) ← meaning f body
    .ok (.repeated low high (greedy != f.swapGreed) r, after)
  | .concat parts => do
    let (rs, after) ← meanings f parts
    .ok (.seqAll rs, after)
  | .alternation branches => do
    let (rs, after) ← meanings f branches
    .ok (.altAll .empty rs, after)

/-- The regular expressions that several patterns mean, each with the flags that the one before it
leaves. -/
def meanings (f : Flags) : List Ast → Except PatternError (List TextRegex × Flags)
  | [] => .ok ([], f)
  | part :: rest => do
    let (r, f) ← meaning f part
    let (rs, f) ← meanings f rest
    .ok (r :: rs, f)

end

end Ast

end FieldRules.Pattern
