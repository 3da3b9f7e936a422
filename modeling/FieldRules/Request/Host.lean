import FieldRules.Request.DomainName
import FieldRules.Text.Percent
import FieldRules.Text.Split
import FieldRules.Text.Utf8

/-!
# Hosts

The host of a URL is a name, an IPv6 address in square brackets, or an IPv4 address.  What ends in a
number is an IPv4 address or no host at all.
-/

set_option autoImplicit false

namespace FieldRules.Host

/-! ## IPv4 -/

/-- Reads a number of an address: decimal, octal after a zero, hexadecimal after `0x`. -/
def number? (cs : List Char) : Option Nat :=
  let digits (base : Nat) (cs : List Char) : Option Nat :=
    cs.foldlM (fun n c =>
      match Text.hexValue? c with
      | some d => if d < base then some (base * n + d) else none
      | none => none) 0
  match cs with
  | [] => none
  | '0' :: 'x' :: rest => digits 16 rest
  | '0' :: 'X' :: rest => digits 16 rest
  | '0' :: rest => digits 8 rest
  | cs => digits 10 cs

/-- The labels of a name, without the empty one after a last point. -/
def labels (name : List Char) : List (List Char) :=
  let all := Text.splitOn '.' name
  if all.getLast? = some [] then all.dropLast else all

/-- Whether the last label of a name is a number. -/
def endsInNumber (name : List Char) : Bool :=
  match (labels name).getLast? with
  | some last => Text.isNumeral last || (number? last).isSome
  | none => false

/-- Whether a name is an IPv4 address: up to four numbers, each but the last one byte, the last as
many bytes as are missing. -/
def isIpv4 (name : List Char) : Bool :=
  match (labels name).mapM number? with
  | none => false
  | some numbers =>
    numbers.length ≤ 4 && numbers.dropLast.all (· < 256) &&
      numbers.getLast?.any (· < 1 <<< (8 * (5 - numbers.length)))

/-! ## IPv6 -/

/-- Whether the characters are one to four hexadecimal digits. -/
def isGroup (cs : List Char) : Bool :=
  !cs.isEmpty && cs.length ≤ 4 && (Text.hexNumber? cs).isSome

/-- Whether the characters are the decimal of a byte, without leading zeros. -/
def isOctet (cs : List Char) : Bool :=
  Text.isNumeral cs && (cs.length == 1 || cs.head? != some '0') && Text.numeralValue cs < 256

/-- Whether the characters are four octets with points between them. -/
def isDottedQuad (cs : List Char) : Bool :=
  let octets := Text.splitOn '.' cs
  octets.length == 4 && octets.all isOctet

/-- How many groups the pieces between colons stand for; the last may be a dotted quad, which stands
for two, if that is allowed. -/
def groupCount? (quadAllowed : Bool) : List (List Char) → Option Nat
  | [] => some 0
  | [last] =>
    if isGroup last then some 1
    else if quadAllowed && isDottedQuad last then some 2
    else none
  | piece :: rest => if isGroup piece then (groupCount? quadAllowed rest).map (· + 1) else none

/-- The pieces between colons; the empty text has none. -/
def colonPieces (cs : List Char) : List (List Char) :=
  if cs.isEmpty then [] else Text.splitOn ':' cs

/-- What stands before and after the first two colons in a row. -/
def splitDoubleColon? : List Char → Option (List Char × List Char)
  | ':' :: ':' :: rest => some ([], rest)
  | c :: rest => (splitDoubleColon? rest).map fun (before, after) => (c :: before, after)
  | [] => none

/-- Whether the characters are an IPv6 address: eight groups, or fewer around two colons. -/
def isIpv6 (cs : List Char) : Bool :=
  match splitDoubleColon? cs with
  | none => groupCount? true (colonPieces cs) == some 8
  | some (before, after) =>
    match groupCount? false (colonPieces before), groupCount? true (colonPieces after) with
    | some m, some n => m + n ≤ 7
    | _, _ => false

/-! ## Names -/

/-- Whether the host begins with a bracket. -/
def isBracketed (cs : List Char) : Bool :=
  cs.head? == some '['

/-- Whether the characters are an IPv6 address in brackets. -/
def isBracketedIpv6 (cs : List Char) : Bool :=
  isBracketed cs && cs.getLast? == some ']' && isIpv6 (cs.drop 1).dropLast

/-- Whether a character may not stand in a host of any kind. -/
def isForbidden (c : Char) : Bool :=
  c.toNat == 0 || "\t\n\r #/:<>?@[\\]^|".toList.contains c

/-- Whether the characters are a host of a scheme that has domains: not empty, and once it has been
percent-decoded a name or an address. -/
def isDomain (cs : List Char) : Bool :=
  if isBracketed cs then isBracketedIpv6 cs
  else
    match Utf8.decode? (Text.percentDecode (Utf8.encode cs)) with
    | none => false
    | some decoded =>
      (DomainName.ofChars? decoded).any fun name =>
        !name.isEmpty && (!endsInNumber name || isIpv4 name)

/-- Whether the characters are a host of a scheme that says nothing of domains; it may be empty. -/
def isOpaque (cs : List Char) : Bool :=
  if isBracketed cs then isBracketedIpv6 cs else !cs.any isForbidden

end FieldRules.Host
