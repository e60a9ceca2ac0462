import HttpReply.Uri.Address

/-!
# Reading URIs

A text is taken apart at its delimiters from the outside in: scheme, authority, path,
fragment, query. The parts are then checked in this order and the first fault is
reported.
-/
namespace HttpReply.Uri

/-- A scheme begins with a letter; digits and three marks may follow. -/
def isScheme : Text → Bool
  | [] => false
  | c :: rest => c.isAlpha && rest.all fun c => c.isAlphanum || "+-.".toList.contains c

/-- The scheme in lower case, if there is one, and the text after its colon. -/
def splitScheme (t : Text) : Except Error (Option Text × Text) :=
  match Text.cut? ':' (Text.upTo '/' t) with
  | none => .ok (none, t)
  | some (scheme, _) =>
    if scheme.isEmpty then .error .emptyScheme
    else if isScheme scheme then .ok (some (Text.lower scheme), t.drop (scheme.length + 1))
    else .error (.illegalCharacter .scheme)

/-- The port that the text after a host's colon names. -/
def readPort (t : Text) : Except Error (Option UInt16) :=
  if t.isEmpty then .ok none
  else
    match Text.uint16? t with
    | some port => .ok (some port)
    | none => .error .badPort

/-- The port after a host in brackets. -/
def readPortAfterBracket : Text → Except Error (Option UInt16)
  | [] => .ok none
  | ':' :: port => readPort port
  | _ => .error (.illegalCharacter .host)

/-- The name of a host with its escapes resolved, and the text after the name's colon. -/
def readName : Text → Except Error (Bytes × Text)
  | [] => .ok ([], [])
  | c :: rest =>
    if c = ':' then .ok ([], rest)
    else if c = '%' then
      match rest with
      | high :: low :: rest =>
        match hexByte? high low with
        | some byte => (readName rest).map fun (name, port) => (byte :: name, port)
        | none => .error .badEscape
      | [high] => if isHexDigit high then .error .unfinishedHost else .error .badEscape
      | [] => .error .unfinishedHost
    else if isNameChar c then
      (readName rest).map fun (name, port) => (UInt8.ofNat c.toNat :: name, port)
    else .error (.illegalCharacter .host)

/-- The ASCII letters of a name in lower case. -/
def lowerByte (b : UInt8) : UInt8 := if 0x41 ≤ b ∧ b ≤ 0x5A then b + 0x20 else b

/-- An address of a future version after its letter: the address and what follows its bracket. -/
def readFuture (t : Text) : Except Error (Text × Text) :=
  match t.dropWhile isHexDigit with
  | '.' :: rest =>
    let isAddressChar := fun c => isNameChar c || c == ':'
    match rest.dropWhile isAddressChar with
    | ']' :: after => .ok (t.takeWhile isHexDigit ++ '.' :: rest.takeWhile isAddressChar, after)
    | [] => .error .unfinishedHost
    | _ => .error (.illegalCharacter .ipvFuture)
  | [] | ']' :: _ => .error .unfinishedHost
  | _ => .error (.illegalCharacter .ipvFuture)

/-- The host and the port. -/
def readHost : Text → Except Error (Bytes × Option UInt16)
  | '[' :: 'v' :: rest => do
    let (address, after) ← readFuture rest
    let port ← readPortAfterBracket after
    return (('v' :: address).map fun c => UInt8.ofNat c.toNat, port)
  | '[' :: rest =>
    match Text.cut? ']' rest with
    | none => .error .unfinishedHost
    | some (address, after) => do
      checkIpv6 address
      let port ← readPortAfterBracket after
      return (address.map fun c => UInt8.ofNat c.toNat, port)
  | t => do
    let (name, portText) ← readName t
    let port ← readPort portText
    return (name.map lowerByte, port)

/-- The authority that a text between two slashes and the next one spells. -/
def readAuthority (t : Text) : Except Error Authority :=
  match Text.cut? '@' t with
  | none => do
    let (host, port) ← readHost t
    return ⟨none, host, port⟩
  | some (user, rest) => do
    let userInfo ← decodePart .userInfo (fun c => isNameChar c || c == ':') user
    let (host, port) ← readHost rest
    return ⟨some userInfo, host, port⟩

/-- The authority, if two slashes announce one, and the path after it. -/
def splitAuthority : Text → Except Error (Option Authority × Text)
  | '/' :: '/' :: rest => do
    let authority ← readAuthority (Text.upTo '/' rest)
    return (some authority, rest.dropWhile (· != '/'))
  | t => .ok (none, t)

/-- The segments of a path. After an authority an empty path is the root. -/
def readPath (afterAuthority : Bool) (t : Text) : Except Error (List Bytes) :=
  if t.isEmpty then .ok (if afterAuthority then [[]] else [])
  else if t = ['/'] then .ok [[]]
  else (t.splitOn '/').mapM (decodePart .path isSegmentChar)

/-- The fragment, if the text after the path has one. -/
def readFragment (t : Text) : Except Error (Option Bytes) :=
  match Text.cut? '#' t with
  | none => .ok none
  | some (_, fragment) => (decodePart .fragment isQueryChar fragment).map some

/-- The query, if the text after the path has one. -/
def readQuery (t : Text) : Except Error (Option Bytes) :=
  match Text.upTo '#' t with
  | '?' :: query => (decodePart .query isQueryChar query).map some
  | _ => .ok none

/-- The URI that a text spells. -/
def parse (t : Text) : Except Error Uri := do
  let (scheme, rest) ← splitScheme t
  let isPathEnd := fun c => c == '?' || c == '#'
  let (authority, pathText) ← splitAuthority (rest.takeWhile (!isPathEnd ·))
  let path ← readPath authority.isSome pathText
  let afterPath := rest.dropWhile (!isPathEnd ·)
  let fragment ← readFragment afterPath
  let query ← readQuery afterPath
  return ⟨scheme, authority, path, query, fragment⟩

end HttpReply.Uri
