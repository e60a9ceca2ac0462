import HttpReply.Text.Basic

/-!
# The charset parameter of a content type

A content type is cut into parameters at its semicolons. The first parameter that is
named charset decides, even if a later one would have a better value.
-/
namespace HttpReply.ContentType

/-- The quote characters that may surround a value. -/
def isQuote (c : Char) : Bool := c == '"' || c == '\''

/-- The name of the parameter that holds the charset. -/
def charsetName : Text := "charset".toList

/-- The value of a parameter without the blanks and then the quotes around it. -/
def bareValue (value : Text) : Text := Text.strip isQuote (Text.trim value)

/-- The value that a parameter gives for the charset, if it is named so. -/
def charsetValue? (parameter : Text) : Option Text :=
  match Text.cut? '=' (Text.trim parameter) with
  | some (name, value) =>
    if Text.sameUpToCase (Text.trimEnd name) charsetName then some (bareValue value) else none
  | none => none

/-- The charset label in a content type. An empty label is none. -/
def charset? (contentType : Text) : Option Text :=
  ((contentType.splitOn ';').findSome? charsetValue?).filter (· != [])

theorem charset?_ne_nil {contentType label : Text} (h : charset? contentType = some label) : label ≠ [] := by
  have := (Option.filter_eq_some_iff.1 h).2
  simpa using this

end HttpReply.ContentType
