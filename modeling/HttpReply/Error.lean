import HttpReply.Charset.Basic
import HttpReply.Uri.Basic

/-!
# Errors

Why a question about a response has no answer.
-/
namespace HttpReply

/-- The causes, each with what it is about. -/
inductive Error
  /-- A chunk of the body is no text in the charset. -/
  | notText (charset : Charset) (chunk : Bytes)
  /-- No body has been received. -/
  | noBody
  /-- The first field of a Set-Cookie value has no equals sign. -/
  | cookieWithoutValue (value : Text)
  /-- No headers have been received. -/
  | noHeaders
  /-- An expires attribute of a cookie is no 32-bit integer. -/
  | expiresNotInteger (value : Text)
  /-- The status holds a text that is no URI. -/
  | badUri (cause : Uri.Error)
  /-- No status has been received. -/
  | noStatus
  /-- No charset has the label. -/
  | unknownCharset (label : Text)
deriving DecidableEq, Repr

/-- The cause in words. -/
def Error.message : Error → String
  | notText charset _ => "body chunk is not valid " ++ charset.name ++ " text"
  | noBody => "response body has not been computed"
  | cookieWithoutValue _ => "Set-Cookie value has no cookie value"
  | noHeaders => "response headers have not been computed"
  | expiresNotInteger _ => "invalid cookie expires attribute"
  | badUri _ => "invalid response URI"
  | noStatus => "response status has not been computed"
  | unknownCharset _ => "unsupported charset"

end HttpReply
