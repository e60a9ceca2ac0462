import HttpReply.Text.Basic

/-!
# Uniform resource identifiers

The parts of a URI, the characters that may stand unescaped in each part, and the
ways in which a text can fail to be a URI.
-/
namespace HttpReply

/-- Who serves a resource: a host, and perhaps a user and a port. -/
structure Authority where
  userInfo : Option Bytes
  host : Bytes
  port : Option UInt16
deriving DecidableEq, Repr

/-- A URI taken apart, its escaped bytes put back. -/
structure Uri where
  scheme : Option Text
  authority : Option Authority
  path : List Bytes
  query : Option Bytes
  fragment : Option Bytes
deriving DecidableEq, Repr

namespace Uri

/-- The parts in which a character can be out of place. -/
inductive Part
  | scheme
  | userInfo
  | host
  | ipvFuture
  | ipv6Address
  | ipv4Address
  | path
  | query
  | fragment
deriving DecidableEq, Repr

/-- What messages call a part. -/
def Part.name : Part → String
  | .scheme => "scheme"
  | .userInfo => "user info"
  | .host => "host"
  | .ipvFuture => "IPvFuture"
  | .ipv6Address => "IPv6 address"
  | .ipv4Address => "IPv4 address"
  | .path => "path"
  | .query => "query"
  | .fragment => "fragment"

/-- Why a text is no URI. -/
inductive Error
  | emptyScheme
  | illegalCharacter (part : Part)
  | badEscape
  | badPort
  | octetOutOfRange
  | tooFewGroups
  | tooManyGroups
  | groupTooLong
  | secondDoubleColon
  | unfinishedHost
deriving DecidableEq, Repr

/-- The cause in words. -/
def Error.message : Error → String
  | .emptyScheme => "scheme expected but missing"
  | .illegalCharacter part => "illegal character in " ++ part.name
  | .badEscape => "illegal percent encoding"
  | .badPort => "illegal port number"
  | .octetOutOfRange => "octet group expected"
  | .tooFewGroups => "too few address parts"
  | .tooManyGroups => "too many address parts"
  | .groupTooLong => "too many digits in IPv6 address part"
  | .secondDoubleColon => "too many double-colons in IPv6 address"
  | .unfinishedHost => "truncated host"

/-- Letters, digits and the marks that never mean anything of their own. -/
def isUnreserved (c : Char) : Bool := c.isAlphanum || "-._~".toList.contains c

/-- The marks that may delimit something within a part. -/
def isSubDelimiter (c : Char) : Bool := "!$&'()*+,;=".toList.contains c

/-- The characters of a registered host name. -/
def isNameChar (c : Char) : Bool := isUnreserved c || isSubDelimiter c

/-- The characters of a path segment. -/
def isSegmentChar (c : Char) : Bool := isNameChar c || c == ':' || c == '@'

/-- The characters of a query or a fragment. -/
def isQueryChar (c : Char) : Bool := isSegmentChar c || c == '/' || c == '?'

end Uri

end HttpReply
