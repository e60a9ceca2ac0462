import HttpReply.Error
import HttpReply.Event
import HttpReply.Header.Basic

/-!
# Cookies

A Set-Cookie value is cut into fields at its semicolons. The first field holds the name
and the value of the cookie; each later field may set one attribute, and of two fields
that set the same attribute the later one counts.
-/
namespace HttpReply

/-- What a response asks a client to remember. -/
structure Cookie where
  name : Text
  value : Text
  domain : Option Text
  path : Option Text
  maxAge : Int32
  secure : Bool
deriving DecidableEq, Repr

namespace Cookie

/-- The age of a cookie that sets none: it lasts for the session. -/
def sessionAge : Int32 := -1

/-- The cookie with a name, a value and no attribute. -/
def plain (name value : Text) : Cookie := ⟨name, value, none, none, sessionAge, false⟩

/-- What one field sets. -/
inductive Attribute
  | secure
  | expires (value : Text)
  | domain (value : Text)
  | path (value : Text)
deriving DecidableEq, Repr

/-- The name and the value around the first equals sign. The value ends before a second one. -/
def nameAndValue? (field : Text) : Option (Text × Text) :=
  match Text.cut? '=' field with
  | some (name, value) => some (name, Text.upTo '=' value)
  | none => none

/-- What a field after the first sets, if it sets anything. -/
def Attribute.ofField? (field : Text) : Option Attribute :=
  if Text.sameUpToCase field "secure".toList then some .secure
  else
    match nameAndValue? field with
    | some (name, value) =>
      if Text.sameUpToCase name "expires".toList then some (.expires value)
      else if Text.sameUpToCase name "domain".toList then some (.domain value)
      else if Text.sameUpToCase name "path".toList then some (.path value)
      else none
    | none => none

/-- The cookie with an attribute set. An age must be a 32-bit integer. -/
def set (cookie : Cookie) : Attribute → Except Error Cookie
  | .secure => .ok { cookie with secure := true }
  | .expires value =>
    match Text.int32? value with
    | some age => .ok { cookie with maxAge := age }
    | none => .error (.expiresNotInteger value)
  | .domain value => .ok { cookie with domain := some value }
  | .path value => .ok { cookie with path := some value }

/-- The fields of a value, without the blanks before each. -/
def fields (setCookie : Text) : List Text := (setCookie.splitOn ';').map Text.trimStart

/-- The cookie that a Set-Cookie value asks for. -/
def parse (setCookie : Text) : Except Error Cookie :=
  match (fields setCookie).head?.bind nameAndValue? with
  | none => .error (.cookieWithoutValue setCookie)
  | some (name, value) =>
    ((fields setCookie).tail.filterMap Attribute.ofField?).foldlM set (plain name value)

/-- The name of the header lines that set cookies. -/
def headerName : Text := "Set-Cookie".toList

/-- The cookies of all Set-Cookie lines in order, unless one of the lines is in error. -/
def parseAll (headers : Headers) : Except Error (List Cookie) :=
  (headers.values headerName).mapM parse

/-- What is reported when cookies have been read. A failure goes unreported. -/
def events : Except Error (List Cookie) → List Event
  | .ok cookies => [.cookiesRead cookies.length]
  | .error _ => []

end Cookie

end HttpReply
