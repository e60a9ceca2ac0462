import HttpReply.Response.Basic

/-!
# Calls on a response

Every question that can be put to a response, as data, so that sequences of questions can
be asked one after another and reasoned about.
-/
namespace HttpReply

/-- A question about a response. -/
inductive Call
  | hasStatus
  | hasHeaders
  | hasBody
  | statusCode
  | statusText
  | isRedirected
  | uri
  | contentType
  | header (name : Text)
  | headerValues (name : Text)
  | headers
  | cookies
  /-- The text of the body, in the caller's charset if the caller asks for one. -/
  | body (requested : Option Text)
  /-- The first characters of the body, at most `limit` of them. -/
  | excerpt (requested : Option Text) (limit : Nat)
  /-- A new stream over the body. -/
  | bodyStream
deriving DecidableEq, Repr

/-- What a question is answered with. -/
inductive Answer
  | flag (value : Bool)
  | code (value : Nat)
  | text (value : Text)
  | optionalText (value : Option Text)
  | texts (value : List Text)
  | uri (value : Uri)
  | headers (value : Headers)
  | cookies (value : List Cookie)
  | stream (value : Stream)
deriving DecidableEq, Repr

namespace Response

variable (tables : EastAsian.Tables)

/-- Answers a question. -/
def ask (r : Response) : Call → Outcome Answer
  | .hasStatus => r.known (.ok (.flag r.hasStatus))
  | .hasHeaders => r.known (.ok (.flag r.hasHeaders))
  | .hasBody => r.known (.ok (.flag r.hasBody))
  | .statusCode => r.known (r.getStatus.map fun status => .code status.code)
  | .statusText => r.known (r.getStatus.map fun status => .text status.reason)
  | .isRedirected => r.known (r.isRedirected.map .flag)
  | .uri => r.known (r.uri.map .uri)
  | .contentType => r.known (r.contentType.map .optionalText)
  | .header name => r.known ((r.header name).map .optionalText)
  | .headerValues name => r.known ((r.headerValues name).map .texts)
  | .headers => r.known (r.getHeaders.map .headers)
  | .cookies => r.cookieList.map .cookies
  | .body requested => (r.bodyText tables requested).map .text
  | .excerpt requested limit => (r.excerpt tables requested limit).map .text
  | .bodyStream => r.bodyStream.map .stream

/-- Answers questions one after another. -/
def askAll (r : Response) : List Call → List (Except Error Answer × List Event) × Response
  | [] => ([], r)
  | call :: rest =>
    let outcome := r.ask tables call
    let (answers, after) := outcome.after.askAll rest
    ((outcome.answer, outcome.events) :: answers, after)

end Response

end HttpReply
