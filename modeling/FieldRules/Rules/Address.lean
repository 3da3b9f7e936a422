import FieldRules.Args
import FieldRules.Loose
import FieldRules.Pattern.Basic
import FieldRules.Text.Split

/-!
# Internet addresses

Addresses are recognised by patterns, which spell out the forms that are accepted.  An IPv4 address
is four numbers from 0 to 255 without leading zeros.  An IPv6 address is eight groups of hexadecimal
digits, with two colons for a run of groups that is left out; it may be link-local with a zone, or
end in an IPv4 address.
-/

set_option autoImplicit false

namespace FieldRules

namespace Address

/-- The pattern of a number from 0 to 255 without leading zeros. -/
def octetSource : String := "(?:25[0-5]|(?:2[0-4]|1[0-9]|[1-9])?[0-9])"

/-- The pattern of an IPv4 address, `SEG4` standing for a number. -/
def ipv4Template : String := "(?:SEG4\\.)\x7b3\x7dSEG4"

/-- The pattern of one to four hexadecimal digits. -/
def groupSource : String := "[0-9a-fA-F]\x7b1,4\x7d"

/-- The pattern of a text that is an IPv6 address, `SEG6` standing for hexadecimal digits and `V4`
for an IPv4 address.  Blanks in it do not count, and neither does what stands after a `#`. -/
def ipv6Template : String := "(?x)
    ^(?:
        (?:SEG6:)\x7b7\x7dSEG6                    # 1:2:3:4:5:6:7:8
        |(?:SEG6:)\x7b1,7\x7d:                    # 1::  1:2:3:4:5:6:7::
        |(?:SEG6:)\x7b1,6\x7d:SEG6                # 1::8  1:2:3:4:5:6::8
        |(?:SEG6:)\x7b1,5\x7d(?::SEG6)\x7b1,2\x7d       # 1::7:8  1:2:3:4:5::8
        |(?:SEG6:)\x7b1,4\x7d(?::SEG6)\x7b1,3\x7d       # 1::6:7:8  1:2:3:4::8
        |(?:SEG6:)\x7b1,3\x7d(?::SEG6)\x7b1,4\x7d       # 1::5:6:7:8  1:2:3::8
        |(?:SEG6:)\x7b1,2\x7d(?::SEG6)\x7b1,5\x7d       # 1::4:5:6:7:8  1:2::8
        |SEG6:(?:(?::SEG6)\x7b1,6\x7d)            # 1::3:4:5:6:7:8  1::8
        |:(?:(?::SEG6)\x7b1,7\x7d|:)              # ::2:3:4:5:6:7:8  ::8  ::
        |fe80:(?::SEG6)\x7b0,4\x7d%[0-9a-zA-Z]+   # fe80::7:8%eth0 (link-local with zone index)
        |::(?:ffff(?::0\x7b1,4\x7d)?:)?V4         # ::255.255.255.255  ::ffff:0:255.255.255.255
        |(?:SEG6:)\x7b1,4\x7d:V4                  # 2001:db8:3:4::192.0.2.33  64:ff9b::192.0.2.33
    )$"

/-- The pattern of an IPv4 address, wherever it stands. -/
def ipv4Body : List Char :=
  Text.replaceAll "SEG4".toList octetSource.toList ipv4Template.toList

/-- The pattern of a text that is an IPv4 address. -/
def ipv4Source : String :=
  String.ofList ('^' :: ipv4Body ++ ['$'])

/-- The pattern of a text that is an IPv6 address. -/
def ipv6Source : String :=
  String.ofList (Text.replaceAll "V4".toList ipv4Body
    (Text.replaceAll "SEG6".toList groupSource.toList ipv6Template.toList))

/-- The compiled pattern of an IPv4 address; it is one (`Address.compile_ipv4Source`). -/
def ipv4Pattern : Option Pattern := (Pattern.compile ipv4Source).toOption

/-- The compiled pattern of an IPv6 address; it is one (`Address.compile_ipv6Source`). -/
def ipv6Pattern : Option Pattern := (Pattern.compile ipv6Source).toOption

/-- Whether a text is an IPv4 address. -/
def isIpv4 (s : String) : Bool := ipv4Pattern.any (·.isMatch s)

/-- Whether a text is an IPv6 address. -/
def isIpv6 (s : String) : Bool := ipv6Pattern.any (·.isMatch s)

end Address

namespace Rules

/-- Passes texts that are IPv4 addresses, and IPv6 addresses if they are switched on. -/
def ip : Rule := fun value args =>
  match value with
  | some (.string s) =>
    .ofBool (Address.isIpv4 s || ((args.getSet? "ipv6").any Json.truthy && Address.isIpv6 s))
  | _ => .fail

end Rules

end FieldRules
