import FieldRules.Request.Host
import FieldRules.Text.Space

/-!
# URLs

`Url.ofText?` reads an absolute URL as far as its query, and refuses what is none: a text without a
scheme, a bad host or a bad number after it, or no host where the scheme wants one.
-/

set_option autoImplicit false

namespace FieldRules

/-- What a URL says, as far as it is needed here. -/
structure Url where
  /-- The scheme, in lower case. -/
  scheme : String
  /-- What stands after the question mark, if there is one. -/
  query : Option String
deriving DecidableEq, Repr

namespace Url

/-! ## Schemes -/

/-- The kinds of schemes, by what follows them. -/
inductive SchemeKind where
  /-- A host, always. -/
  | web
  /-- A host or none, and then a path. -/
  | file
  /-- A host after two slashes, or any text. -/
  | other
deriving DecidableEq, Repr

/-- The kind of a scheme. -/
def schemeKind (scheme : List Char) : SchemeKind :=
  if ["http", "https", "ws", "wss", "ftp"].any (·.toList == scheme) then .web
  else if scheme = "file".toList then .file
  else .other

/-- Whether a character may stand in a scheme after its first. -/
def isSchemeChar (c : Char) : Bool :=
  c.isAlphanum || c == '+' || c == '-' || c == '.'

/-- The scheme of a URL, in lower case, and what follows its colon. -/
def splitScheme? (cs : List Char) : Option (List Char × List Char) :=
  match Text.splitFirst? (· == ':') cs with
  | some (first :: more, rest) =>
    if first.isAlpha && more.all isSchemeChar then some ((first :: more).map Char.toLower, rest)
    else none
  | _ => none

/-! ## Authorities -/

/-- Whether the characters are empty or the decimal of a number below `2 ^ 16`. -/
def isShortNumber (cs : List Char) : Bool :=
  cs.all Char.isDigit && Text.numeralValue cs < 1 <<< 16

/-- What stands before and after the last at sign; without one, there is nothing before. -/
def splitUser (cs : List Char) : Option (List Char) × List Char :=
  match Text.splitFirst? (· == '@') cs.reverse with
  | some (host, user) => (some user.reverse, host.reverse)
  | none => (none, cs)

/-- The host before the first colon outside brackets, and the number after it if there is one. -/
def splitNumber (bracketed : Bool) : List Char → List Char × Option (List Char)
  | [] => ([], none)
  | c :: rest =>
    if c = ':' ∧ bracketed = false then ([], some rest)
    else
      let inside := if c = '[' then true else if c = ']' then false else bracketed
      let (host, number) := splitNumber inside rest
      (c :: host, number)

/-- Whether the characters are an authority of a scheme that wants a host. -/
def isWebAuthority (cs : List Char) : Bool :=
  let (host, number) := splitNumber false (splitUser cs).2
  Host.isDomain host && number.all isShortNumber

/-- Whether the characters are an authority of any other scheme, `atEnd` if the URL ends with it.
The host may be empty, but not with a user before it or a number after it.  A backslash ends the
number, and a path begins with it. -/
def isOtherAuthority (atEnd : Bool) (cs : List Char) : Bool :=
  let (user, afterUser) := splitUser cs
  let (host, number) := splitNumber false afterUser
  let emptyHostAllowed := number.isNone &&
    match user with
    | none => true
    | some [] => atEnd
    | some user => user == [':']
  Host.isOpaque host && (!host.isEmpty || emptyHostAllowed) &&
    number.all fun digits => isShortNumber (digits.takeWhile (· != '\\'))

/-! ## What follows a scheme -/

/-- Whether a character is a slash of either kind. -/
def isSlash (c : Char) : Bool :=
  c == '/' || c == '\\'

/-- Whether the characters are a letter and then a colon or a bar. -/
def isDriveLetter : List Char → Bool
  | [letter, mark] => letter.isAlpha && (mark == ':' || mark == '|')
  | _ => false

/-- Whether the characters, those between the scheme and the query, may stand in a file URL. -/
def isFileRest : List Char → Bool
  | a :: b :: rest =>
    let host := rest.takeWhile fun c => !isSlash c
    !(isSlash a && isSlash b) || host.isEmpty || isDriveLetter host || Host.isDomain host
  | _ => true

/-- Whether the characters, those between the scheme and the query, may stand in a URL of the given
kind, `atEnd` if the URL ends with them. -/
def isRest (kind : SchemeKind) (atEnd : Bool) (cs : List Char) : Bool :=
  match kind with
  | .web => isWebAuthority ((cs.dropWhile isSlash).takeWhile fun c => !isSlash c)
  | .file => isFileRest cs
  | .other =>
    match cs with
    | '/' :: '/' :: rest =>
      let authority := rest.takeWhile (· != '/')
      isOtherAuthority (atEnd && authority.length == rest.length) authority
    | _ => true

/-- A text without controls and blanks around it, and without line breaks and tabs in it. -/
def clean (cs : List Char) : List Char :=
  (Text.trimBy (fun c => c.toNat ≤ 0x20) cs).filter fun c => c != '\t' && c != '\n' && c != '\r'

/-- The URL that a text is. -/
def ofText? (text : String) : Option Url :=
  match splitScheme? (clean text.toList) with
  | none => none
  | some (scheme, afterScheme) =>
    let (beforeFragment, fragment) := afterScheme.span (· != '#')
    let (rest, query) := beforeFragment.span (· != '?')
    if isRest (schemeKind scheme) (query.isEmpty && fragment.isEmpty) rest then
      some
        { scheme := String.ofList scheme
          query := if query.isEmpty then none else some (String.ofList (query.drop 1)) }
    else
      none

end Url

end FieldRules
