import FieldRules.Proofs.Pattern.Whole
import FieldRules.Rules.Address
import Mathlib

/-!
# The expressions of addresses

What the patterns of addresses mean: `Address.ipv4` and `Address.ipv6` are the expressions that
their texts are read as, between the start and the end of the text
(`Address.compile_ipv4Source`, `Address.compile_ipv6Source`).  So an address is a text that the
expression accepts (`Address.isIpv4_eq`, `Address.isIpv6_eq`).
-/

set_option autoImplicit false

namespace FieldRules

namespace Address

open Pattern (TextRegex CharSet Condition Regex)

/-! ## Expressions -/

/-- One character of a range. -/
def oneOf (low high : Char) : TextRegex := .step (.range low high)

/-- One given character. -/
def char (c : Char) : TextRegex := .step (.single c)

/-- The characters of a text. -/
def chars (s : String) : List TextRegex := s.toList.map char

/-- The characters of a text, one after the other. -/
def word (s : String) : TextRegex := .seqAll (chars s)

/-- Between `low` and `high` copies. -/
def copies (low high : Nat) (r : TextRegex) : TextRegex := .repeated low (some high) true r

/-- One of several expressions. -/
def choice (rs : List TextRegex) : TextRegex := .altAll (.step .none) rs

/-- The decimal of a number from 0 to 255, without leading zeros. -/
def octet : TextRegex :=
  choice
    [.seqAll [char '2', char '5', oneOf '0' '5'],
      .seq
        (copies 0 1 (choice
          [.seq (char '2') (oneOf '0' '4'), .seq (char '1') (oneOf '0' '9'), oneOf '1' '9']))
        (oneOf '0' '9')]

/-- Three octets with points after them, and another one. -/
def ipv4Parts : List TextRegex := [copies 3 3 (.seq octet (char '.')), octet]

/-- Four octets with points between them. -/
def ipv4 : TextRegex := .seqAll ipv4Parts

/-- One to four hexadecimal digits. -/
def group : TextRegex :=
  copies 1 4 (.step (.unions [.range '0' '9', .range 'a' 'f', .range 'A' 'F']))

/-- A group and then a colon. -/
def groupColon : TextRegex := .seq group (char ':')

/-- A colon and then a group. -/
def colonGroup : TextRegex := .seq (char ':') group

/-- The digits and letters of a zone. -/
def zone : TextRegex :=
  .repeated 1 none true (.step (.unions [.range '0' '9', .range 'a' 'z', .range 'A' 'Z']))

/-- The forms that are rows of groups. -/
def rowForms : List TextRegex :=
  [.seq (copies 7 7 groupColon) group,
    .seq (copies 1 7 groupColon) (char ':'),
    .seqAll [copies 1 6 groupColon, char ':', group],
    .seq (copies 1 5 groupColon) (copies 1 2 colonGroup),
    .seq (copies 1 4 groupColon) (copies 1 3 colonGroup),
    .seq (copies 1 3 groupColon) (copies 1 4 colonGroup),
    .seq (copies 1 2 groupColon) (copies 1 5 colonGroup),
    .seqAll [group, char ':', copies 1 6 colonGroup],
    .seq (char ':') (choice [copies 1 7 colonGroup, char ':'])]

/-- The form with a zone. -/
def linkLocal : TextRegex :=
  .seqAll (chars "fe80:" ++ [copies 0 4 colonGroup, char '%', zone])

/-- The groups that may stand between two colons and an IPv4 address, with colons after them. -/
def mapping : TextRegex :=
  copies 0 1 (.seqAll
    (chars "ffff" ++ [copies 0 1 (.seq (char ':') (copies 1 4 (char '0'))), char ':']))

/-- The form of two colons, perhaps such groups, and an IPv4 address. -/
def mapped : TextRegex := .seqAll (chars "::" ++ mapping :: ipv4Parts)

/-- The form of some groups, two colons and an IPv4 address. -/
def embedded : TextRegex := .seqAll (copies 1 4 groupColon :: char ':' :: ipv4Parts)

/-- An IPv6 address. -/
def ipv6 : TextRegex := choice (rowForms ++ [linkLocal, mapped, embedded])

/-! ## What the patterns mean -/

/-- The pattern of an IPv4 address, with its anchors. -/
def ipv4Whole : TextRegex :=
  .seqAll (.hold .textStart :: (ipv4Parts ++ [.hold .textEnd]))

/-- The pattern of an IPv6 address, with its flags, which match nothing, and its anchors. -/
def ipv6Whole : TextRegex :=
  .seqAll [.empty, .hold .textStart, ipv6, .hold .textEnd]

/-- A text is compiled to the expression that it means, if that has enough room. -/
theorem compile_ofList {text : List Char} {r : TextRegex}
    (h : (Pattern.expression text).toOption = some r) (hfits : TextRegex.fits r = true) :
    Pattern.compile (String.ofList text) = .ok ⟨String.ofList text, r⟩ := by
  cases hexpression : Pattern.expression text with
  | error e =>
    rw [hexpression] at h
    cases h
  | ok r' =>
    rw [hexpression] at h
    cases h
    simp [Pattern.compile, String.toList_ofList, hexpression, bind, Except.bind, hfits]

/-- The characters of a text that is given by them. -/
theorem toList_of_eq_ofList {s : String} {cs : List Char} (h : s = .ofList cs) : s.toList = cs := by
  rw [h, String.toList_ofList]

-- A literal is by definition the text of its characters, so these are found without taking it
-- apart.
/-- What the pattern of an IPv4 address means. -/
theorem exists_expression_ipv4 :
    ∃ octetText template : List Char, octetSource = .ofList octetText ∧
      ipv4Template = .ofList template ∧
      (Pattern.expression
        ('^' :: Text.replaceAll "SEG4".toList octetText template ++ ['$'])).toOption =
          some ipv4Whole :=
  ⟨_, _, rfl, rfl, by decide +kernel⟩

set_option maxRecDepth 10000 in
/-- What the pattern of an IPv6 address means. -/
theorem exists_expression_ipv6 :
    ∃ octetText quad group template : List Char, octetSource = .ofList octetText ∧
      ipv4Template = .ofList quad ∧ groupSource = .ofList group ∧
      ipv6Template = .ofList template ∧
      (Pattern.expression (Text.replaceAll "V4".toList
        (Text.replaceAll "SEG4".toList octetText quad)
        (Text.replaceAll "SEG6".toList group template))).toOption = some ipv6Whole :=
  ⟨_, _, _, _, rfl, rfl, rfl, rfl, by decide +kernel⟩

/-- The pattern of an IPv4 address takes little room. -/
theorem fits_ipv4Whole : TextRegex.fits ipv4Whole = true := by
  cbv

/-- The pattern of an IPv6 address takes little room. -/
theorem fits_ipv6Whole : TextRegex.fits ipv6Whole = true := by
  cbv

/-- The text for IPv4 addresses is a pattern, and means the expression for them. -/
theorem compile_ipv4Source : Pattern.compile ipv4Source = .ok ⟨ipv4Source, ipv4Whole⟩ := by
  obtain ⟨octetText, template, hoctet, htemplate, hmeaning⟩ := exists_expression_ipv4
  refine compile_ofList ?_ fits_ipv4Whole
  rwa [ipv4Body, toList_of_eq_ofList hoctet, toList_of_eq_ofList htemplate]

/-- The text for IPv6 addresses is a pattern, and means the expression for them. -/
theorem compile_ipv6Source : Pattern.compile ipv6Source = .ok ⟨ipv6Source, ipv6Whole⟩ := by
  obtain ⟨octetText, quad, group, template, hoctet, hquad, hgroup, htemplate, hmeaning⟩ :=
    exists_expression_ipv6
  refine compile_ofList ?_ fits_ipv6Whole
  rwa [ipv4Body, toList_of_eq_ofList hoctet, toList_of_eq_ofList hquad,
    toList_of_eq_ofList hgroup, toList_of_eq_ofList htemplate]

/-! ## Addresses -/

/-- A text is an IPv4 address exactly if the expression accepts it. -/
theorem isIpv4_eq (s : String) : isIpv4 s = TextRegex.accepts ipv4 s := by
  have hsearch : isIpv4 s = TextRegex.search ipv4Whole s := by
    rw [isIpv4, ipv4Pattern, compile_ipv4Source, Except.toOption, Option.any, Pattern.isMatch]
  rw [hsearch, ← TextRegex.search_anchored]
  exact TextRegex.search_congr (Regex.ways_seqAll_between _ _ _ _ _ ipv4Parts)

/-- A text is an IPv6 address exactly if the expression accepts it. -/
theorem isIpv6_eq (s : String) : isIpv6 s = TextRegex.accepts ipv6 s := by
  have hsearch : isIpv6 s = TextRegex.search ipv6Whole s := by
    rw [isIpv6, ipv6Pattern, compile_ipv6Source, Except.toOption, Option.any, Pattern.isMatch]
  rw [hsearch, ← TextRegex.search_anchored]
  apply TextRegex.search_congr
  intro i
  rw [ipv6Whole, Regex.ways_seqAll_cons, Regex.ways, Regex.andThen_singleton, TextRegex.anchored]

end Address

namespace Rules

open Address
open Pattern (TextRegex)

/-- What the rule says of a text, by the expressions of addresses. -/
theorem ip_string (s : String) (args : Args) :
    ip (some (.string s)) args =
      .ofBool (TextRegex.accepts ipv4 s ||
        ((args.getSet? "ipv6").any Json.truthy && TextRegex.accepts ipv6 s)) := by
  rw [← isIpv4_eq, ← isIpv6_eq, ip]

end Rules

end FieldRules
