/-!
# The syntax of patterns

`Ast` is a pattern as it is written: flags are not applied yet and names of properties are not
looked up.  `Ast.depth` is how deep its parts nest.
-/

set_option autoImplicit false

namespace FieldRules.Pattern

/-- Why a pattern is refused. -/
inductive PatternError where
  /-- A bracket of some kind is not closed, or closed without having been opened. -/
  | unbalanced
  /-- A repetition has nothing to repeat. -/
  | nothingToRepeat
  /-- The bounds of a repetition are missing, too large, or in the wrong order. -/
  | badBounds
  /-- An escape means nothing. -/
  | badEscape
  /-- A range of a class has an end that is no character, or its ends in the wrong order. -/
  | badRange
  /-- A group has no name, a wrong one, or one that another group has. -/
  | badGroupName
  /-- A flag is unknown or repeated, or a minus sign stands without flags. -/
  | badFlags
  /-- A group looks around. -/
  | lookAround
  /-- The parts nest too deep. -/
  | tooDeep
  /-- A property or one of its values is unknown. -/
  | unknownProperty
  /-- A part would need Unicode, which is switched off, or could match a part of a character. -/
  | notUnicode
  /-- The pattern would take too much room. -/
  | tooLarge
deriving DecidableEq, Repr

/-- A switch that changes what a part of a pattern means. -/
inductive Flag where
  /-- `i`: letters match in either case. -/
  | caseInsensitive
  /-- `m`: the line anchors match at every line. -/
  | multiLine
  /-- `s`: the dot matches line feeds too. -/
  | dotAll
  /-- `U`: greedy and lazy repetition are swapped. -/
  | swapGreed
  /-- `u`: classes and boundaries are those of Unicode. -/
  | unicode
  /-- `R`: a carriage return ends a line too. -/
  | crlf
  /-- `x`: blanks and comments do not count. -/
  | verbose
deriving DecidableEq, Repr

/-- Flags with their new states, in the order in which they are written. -/
abbrev FlagChanges : Type := List (Flag × Bool)

/-- A character that stands for itself. -/
structure Literal where
  char : Char
  /-- Whether it is written by two hexadecimal digits, so that it is a byte where Unicode is off. -/
  byte : Bool
deriving DecidableEq, Repr

/-- A condition on a position. -/
inductive Anchor where
  /-- `^` -/
  | lineStart
  /-- `$` -/
  | lineEnd
  /-- `\A` -/
  | textStart
  /-- `\z` -/
  | textEnd
  /-- `\b` -/
  | boundary
  /-- `\B` -/
  | noBoundary
  /-- `\<` or `\b` with `start` in braces -/
  | wordStart
  /-- `\>` or `\b` with `end` in braces -/
  | wordEnd
  /-- `\b` with `start-half` in braces -/
  | wordStartHalf
  /-- `\b` with `end-half` in braces -/
  | wordEndHalf
deriving DecidableEq, Repr

/-- A class that one letter after a backslash names. -/
inductive Shorthand where
  | digit
  | space
  | word
deriving DecidableEq, Repr

/-- A class that a name between `[:` and `:]` denotes. -/
inductive AsciiClass where
  | alnum
  | alpha
  | ascii
  | blank
  | cntrl
  | digit
  | graph
  | lower
  | print
  | punct
  | space
  | upper
  | word
  | xdigit
deriving DecidableEq, Repr

/-- A class that the name of a Unicode property denotes. -/
inductive Property where
  /-- A name alone. -/
  | named (name : String)
  /-- A name and a value of it. -/
  | valued (name value : String)
deriving DecidableEq, Repr

/-- How the two sides of a class are put together. -/
inductive ClassOp where
  /-- `&&` -/
  | intersection
  /-- `--` -/
  | difference
  /-- `~~` -/
  | symmetricDifference
deriving DecidableEq, Repr

/-- What stands between the brackets of a class. -/
inductive ClassTree where
  | literal (l : Literal)
  | range (low high : Literal)
  | ascii (kind : AsciiClass) (negated : Bool)
  | shorthand (kind : Shorthand) (negated : Bool)
  | property (p : Property) (negated : Bool)
  /-- A class in brackets of its own. -/
  | bracketed (negated : Bool) (body : ClassTree)
  /-- Several items, or none. -/
  | union (items : List ClassTree)
  | binary (op : ClassOp) (left right : ClassTree)

/-- What an opening parenthesis begins. -/
inductive GroupKind where
  /-- A group that captures, with a name or without. -/
  | capture (name : Option String)
  /-- A group that only groups, and sets flags inside it. -/
  | plain (flags : FlagChanges)
deriving DecidableEq, Repr

/-- A pattern as it is written. -/
inductive Ast where
  | empty
  | literal (l : Literal)
  | dot
  | anchor (a : Anchor)
  | shorthand (kind : Shorthand) (negated : Bool)
  | property (p : Property) (negated : Bool)
  /-- A class in brackets. -/
  | bracketed (negated : Bool) (body : ClassTree)
  /-- Flags for the rest of the group. -/
  | flags (changes : FlagChanges)
  | group (kind : GroupKind) (body : Ast)
  /-- Between `low` and `high` copies, without bound if `high` is none. -/
  | repeated (low : Nat) (high : Option Nat) (greedy : Bool) (body : Ast)
  | concat (parts : List Ast)
  | alternation (branches : List Ast)

namespace ClassTree

/-- Several items as one: a single item is itself. -/
def ofItems : List ClassTree → ClassTree
  | [item] => item
  | items => .union items

mutual

/-- How deep the parts of a class nest. -/
def depth : ClassTree → Nat
  | .bracketed _ body => depth body + 1
  | .union items => if items.isEmpty then 0 else depthAll items + 1
  | .binary _ left right => max (depth left) (depth right) + 1
  | _ => 0

/-- The greatest depth of several classes. -/
def depthAll : List ClassTree → Nat
  | [] => 0
  | item :: rest => max (depth item) (depthAll rest)

end

end ClassTree

namespace Ast

/-- Several parts in a row as one: a single part is itself. -/
def ofParts : List Ast → Ast
  | [] => .empty
  | [part] => part
  | parts => .concat parts

/-- The parts of a group as one: without a bar they are one branch. -/
def ofBranches : List Ast → Ast
  | [branch] => branch
  | branches => .alternation branches

mutual

/-- How deep the parts of a pattern nest. -/
def depth : Ast → Nat
  | .bracketed _ body => body.depth + 1
  | .group _ body => depth body + 1
  | .repeated _ _ _ body => depth body + 1
  | .concat parts => depthAll parts + 1
  | .alternation branches => depthAll branches + 1
  | _ => 0

/-- The greatest depth of several patterns. -/
def depthAll : List Ast → Nat
  | [] => 0
  | part :: rest => max (depth part) (depthAll rest)

end

end Ast

end FieldRules.Pattern
