import HttpReply.Charset.Default
import HttpReply.ContentType
import HttpReply.Event

/-!
# The choice of a charset

The content type's charset comes before the caller's, and the caller's before the
default.
-/
namespace HttpReply

/-- Where the charset label of a body comes from. -/
inductive CharsetChoice
  | fromContentType (label : Text)
  | fromCaller (label : Text)
  | byDefault
deriving DecidableEq, Repr

namespace CharsetChoice

/-- The choice between the charset in a content type and the one that a caller asks for. -/
def make (contentType requested : Option Text) : CharsetChoice :=
  match contentType.bind ContentType.charset?, requested with
  | some label, _ => fromContentType label
  | none, some label => fromCaller label
  | none, none => byDefault

/-- The label that has been chosen. -/
def label : CharsetChoice → Text
  | fromContentType label | fromCaller label => label
  | byDefault => Charset.Default.label

/-- What is reported about the choice. The default is taken in silence. -/
def events : CharsetChoice → List Event
  | fromContentType label => [.charsetFromContentType label]
  | fromCaller label => [.charsetFromCaller label]
  | byDefault => []

/-- A caller's charset has no say when the content type names one. -/
theorem make_of_contentType {contentType : Option Text} {label : Text}
    (named : contentType.bind ContentType.charset? = some label) (requested : Option Text) :
    make contentType requested = fromContentType label := by
  simp [make, named]

end CharsetChoice

end HttpReply
