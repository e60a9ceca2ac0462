import HttpReply.Charset.Utf8
import HttpReply.Uri.Address

/-!
# Writing URIs

Each part is escaped by its own character set and put between its delimiters.
-/
namespace HttpReply

namespace Uri

/-- A host as it is written: an IPv6 address in brackets, anything else escaped. -/
def writeHost (host : Bytes) : Text :=
  match Utf8.decode? host with
  | some address =>
    if isIpv6 address then '[' :: Text.lower address ++ [']'] else encodePart isNameChar host
  | none => encodePart isNameChar host

/-- The segments of a path between slashes. The root is a single slash. -/
def writePath (path : List Bytes) : Text :=
  if path = [[]] then ['/'] else ['/'].intercalate (path.map (encodePart isSegmentChar))

end Uri

/-- The authority with its delimiters. -/
def Authority.write (authority : Authority) : Text :=
  let user := match authority.userInfo with
    | some user => Uri.encodePart (fun c => Uri.isNameChar c || c == ':') user ++ ['@']
    | none => []
  let port := match authority.port with
    | some port => ':' :: Text.decimal port.toNat
    | none => []
  '/' :: '/' :: user ++ Uri.writeHost authority.host ++ port

/-- The URI written out. A plus sign in the query is escaped. -/
def Uri.write (uri : Uri) : Text :=
  let scheme := match uri.scheme with
    | some scheme => scheme ++ [':']
    | none => []
  let authority := match uri.authority with
    | some authority => authority.write
    | none => []
  let query := match uri.query with
    | some query => '?' :: encodePart (fun c => isQueryChar c && c != '+') query
    | none => []
  let fragment := match uri.fragment with
    | some fragment => '#' :: encodePart isQueryChar fragment
    | none => []
  scheme ++ authority ++ writePath uri.path ++ query ++ fragment

end HttpReply
