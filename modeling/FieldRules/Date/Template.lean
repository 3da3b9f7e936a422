import FieldRules.Date.Calendar
import FieldRules.Pattern.Basic
import FieldRules.Text.Digits

/-!
# Date templates

A template is compiled to a pattern from left to right.  A letter stands for a part of a date, for
several of them, or for itself as any other character does; a backslash makes the next character
stand for itself.  The fragment of a part of a date is in a group, and the first day, month, month
name, year and short year are in a group with a name.  A text fits the template if the pattern
matches the whole of it and the parts with names are a day of the calendar.
-/

set_option autoImplicit false

namespace FieldRules.Date

/-- A part of a date that the calendar check looks at. -/
inductive Component where
  | day
  | month
  | monthName
  | year
  | shortYear
deriving DecidableEq, Repr

/-- The name of the group that captures a component. -/
def Component.group : Component → String
  | .day => "day"
  | .month => "month"
  | .monthName => "month_name"
  | .year => "year"
  | .shortYear => "short_year"

/-- What a letter of a template stands for. -/
structure Token where
  /-- The pattern of the texts that fit. -/
  fragment : String
  /-- The component that such a text gives. -/
  component : Option Component
deriving DecidableEq, Repr

/-- The token of a letter, none if it stands for itself or for several others. -/
def token? : Char → Option Token
  | 'd' => some ⟨"0[1-9]|[12][0-9]|3[01]", some .day⟩
  | 'D' => some ⟨"Mon|Tue|Wed|Thu|Fri|Sat|Sun", none⟩
  | 'j' => some ⟨"[1-9]|[12][0-9]|3[01]", some .day⟩
  | 'l' => some ⟨"Monday|Tuesday|Wednesday|Thursday|Friday|Saturday|Sunday", none⟩
  | 'N' => some ⟨"[1-7]", none⟩
  | 'w' => some ⟨"[0-6]", none⟩
  | 'S' => some ⟨"st|nd|rd|th", none⟩
  | 'z' => some ⟨"36[0-5]|3[0-5][0-9]|[12][0-9]\x7b2\x7d|[1-9]?[0-9]", none⟩
  | 'W' => some ⟨"0[1-9]|[1-4][0-9]|5[0-3]", none⟩
  | 'F' => some ⟨"January|February|March|April|May|June|" ++
      "July|August|September|October|November|December", some .monthName⟩
  | 'M' => some ⟨"Jan|Feb|Mar|Apr|May|Jun|Jul|Aug|Sep|Oct|Nov|Dec", some .monthName⟩
  | 'm' => some ⟨"0[1-9]|1[0-2]", some .month⟩
  | 'n' => some ⟨"[1-9]|1[0-2]", some .month⟩
  | 't' => some ⟨"2[89]|3[01]", none⟩
  | 'L' => some ⟨"[01]", none⟩
  | 'Y' => some ⟨"[0-9]\x7b4\x7d", some .year⟩
  | 'y' => some ⟨"[0-9]\x7b2\x7d", some .shortYear⟩
  | 'a' => some ⟨"am|pm", none⟩
  | 'A' => some ⟨"AM|PM", none⟩
  | 'u' => some ⟨"[0-9]\x7b6\x7d", none⟩
  | 'v' => some ⟨"[0-9]\x7b3\x7d", none⟩
  | 'g' => some ⟨"[1-9]|1[0-2]", none⟩
  | 'G' => some ⟨"[0-9]|1[0-9]|2[0-3]", none⟩
  | 'h' => some ⟨"0[1-9]|1[0-2]", none⟩
  | 'H' => some ⟨"[01][0-9]|2[0-3]", none⟩
  | 'i' | 's' => some ⟨"[0-5][0-9]", none⟩
  | 'e' => some ⟨"UTC|[A-Za-z_]+(?:/[A-Za-z0-9_+-]+)+", none⟩
  | 'O' => some ⟨"[+-](?:[01][0-9]|2[0-3])[0-5][0-9]", none⟩
  | 'P' => some ⟨"[+-](?:[01][0-9]|2[0-3]):[0-5][0-9]", none⟩
  | 'T' => some ⟨"[A-Z]\x7b1,5\x7d|[+-][0-9]\x7b2\x7d(?::?[0-9]\x7b2\x7d)?", none⟩
  | 'Z' => some ⟨"[+-]?[0-9]\x7b1,5\x7d", none⟩
  | 'U' => some ⟨"-?[0-9]+", none⟩
  | _ => none

/-- The date and time of ISO 8601, which is the default template too. -/
def Template.iso8601 : String := "Y-m-d\\TH:i:sP"

/-- The date and time of RFC 2822. -/
def Template.rfc2822 : String := "D, d M Y H:i:s O"

/-- The template that a letter stands for, if it stands for several others. -/
def Template.written? : Char → Option String
  | 'c' => some iso8601
  | 'r' => some rfc2822
  | _ => none

/-- A character as a pattern that matches just it. -/
def Template.escape (c : Char) : List Char :=
  if Pattern.isMeta c then ['\\', c] else [c]

/-- What a template has been compiled to so far: the pattern, and the components that it captures
in the order of their groups. -/
structure Draft where
  pattern : String
  captured : List Component
deriving DecidableEq, Repr

namespace Draft

/-- Adds to the pattern. -/
def push (piece : String) (d : Draft) : Draft :=
  { d with pattern := d.pattern ++ piece }

/-- Adds a character that stands for itself. -/
def literal (c : Char) (d : Draft) : Draft :=
  d.push (.ofList (Template.escape c))

/-- Adds a fragment in a group without a name. -/
def plain (fragment : String) (d : Draft) : Draft :=
  d.push ("(?:" ++ fragment ++ ")")

/-- Adds a fragment in the group of a component, which is captured from then on. -/
def capture (k : Component) (fragment : String) (d : Draft) : Draft :=
  { d.push ("(?P<" ++ k.group ++ ">" ++ fragment ++ ")") with captured := d.captured ++ [k] }

/-- Adds a token.  A component that is captured already is not captured again. -/
def token (t : Token) (d : Draft) : Draft :=
  match t.component with
  | some k => if d.captured.contains k then d.plain t.fragment else d.capture k t.fragment
  | none => d.plain t.fragment

/-- Adds a character without a backslash before it. -/
def character (c : Char) (d : Draft) : Draft :=
  match token? c with
  | some t => d.token t
  | none => d.literal c

end Draft

namespace Template

/-- Compiles a text, `expand` saying what the letters add that stand for several. -/
def pushWith (expand : Char → Option (Draft → Draft)) : List Char → Draft → Draft
  | [], d => d
  | ['\\'], d => d.literal '\\'
  | '\\' :: c :: rest, d => pushWith expand rest (d.literal c)
  | c :: rest, d => pushWith expand rest ((expand c).getD (Draft.character c) d)

/-- Compiles a text in which every letter stands for itself or for one token. -/
def pushPlain : List Char → Draft → Draft :=
  pushWith fun _ => none

/-- Compiles a text after what has been compiled so far.  A letter that stands for several is
compiled by what it stands for, with what is captured by then. -/
def push : List Char → Draft → Draft :=
  pushWith fun c => (written? c).map fun template => pushPlain template.toList

/-- The pattern that a template stands for. -/
def source (template : String) : String :=
  (push template.toList ⟨"\\A(?:", []⟩).pattern ++ ")\\z"

end Template

/-- A template with its pattern. -/
structure Format where
  template : String
  pattern : Pattern

namespace Format

/-- The format of a template, refused if its pattern takes too much room. -/
def compile (template : String) : Except Pattern.PatternError Format := do
  .ok ⟨template, ← Pattern.compile (Template.source template)⟩

/-- Whether the parts of a date that have been captured are a day of the calendar.  Without a day or
a month nothing is checked; a short year is in the years from 2000, and without a year there is a
February 29th. -/
def isDay (captures : List (String × String)) : Bool :=
  let text (k : Component) : Option String := captures.lookup k.group
  let number (k : Component) : Option Nat := (text k).map fun s => Text.numeralValue s.toList
  match number .day with
  | none => true
  | some day =>
    match number .month <|> (text .monthName).bind Calendar.monthNamed? with
    | none => true
    | some month =>
      let year := (number .year <|> (number .shortYear).map (2000 + ·)).getD 2000
      Calendar.isDay year month day

/-- Whether a text fits the template and is a day of the calendar. -/
def isMatch (f : Format) (s : String) : Bool :=
  (f.pattern.captures? s).any isDay

end Format

end FieldRules.Date
