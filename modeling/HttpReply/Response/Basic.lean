import HttpReply.Body.Stream
import HttpReply.Charset.Choice
import HttpReply.Cookie
import HttpReply.Status
import HttpReply.Uri.Parser

/-!
# Responses

A response is made of the parts that were received. The text of its body and its cookies
are worked out when they are first asked for and kept from then on; a failure is not
kept. A question is answered by an outcome, which also holds the response as it is
afterwards. What the tables of the East Asian encodings hold is given.
-/
namespace HttpReply

/-- A response as far as it was received, with what has been worked out about it. -/
structure Response where
  status : Option Status
  headers : Option Headers
  chunks : Option (List Chunk)
  /-- The text of the body, once it has been decoded. -/
  text : Option Text := none
  /-- The cookies, once they have been read. -/
  cookies : Option (List Cookie) := none
deriving DecidableEq, Repr

/-- The answer to a question about a response, what was reported on the way to it, and
    the response after it. -/
structure Outcome (α : Type) where
  answer : Except Error α
  events : List Event
  after : Response

namespace Outcome

/-- The outcome with its answer turned into another one. -/
def map {α β : Type} (f : α → β) (outcome : Outcome α) : Outcome β :=
  ⟨outcome.answer.map f, outcome.events, outcome.after⟩

@[simp] theorem map_events {α β : Type} (f : α → β) (o : Outcome α) : (o.map f).events = o.events := rfl

@[simp] theorem map_after {α β : Type} (f : α → β) (o : Outcome α) : (o.map f).after = o.after := rfl

@[simp] theorem map_answer {α β : Type} (f : α → β) (o : Outcome α) : (o.map f).answer = o.answer.map f := rfl

end Outcome

namespace Response

/-- The response of which nothing has been asked yet. -/
def received (status : Option Status) (headers : Option Headers) (chunks : Option (List Chunk)) :
    Response :=
  { status, headers, chunks }

/-- The status, which must have been received. -/
def getStatus (r : Response) : Except Error Status := r.status.elim (.error .noStatus) .ok

/-- The headers, which must have been received. -/
def getHeaders (r : Response) : Except Error Headers := r.headers.elim (.error .noHeaders) .ok

/-- The chunks of the body. No chunks at all are no body. -/
def getChunks (r : Response) : Except Error (List Chunk) :=
  (r.chunks.filter (!·.isEmpty)).elim (.error .noBody) .ok

/-- Whether a status has been received. -/
def hasStatus (r : Response) : Bool := r.status.isSome

/-- Whether headers have been received. -/
def hasHeaders (r : Response) : Bool := r.headers.isSome

/-- Whether a body has been received. -/
def hasBody (r : Response) : Bool := r.getChunks.toBool

/-- Whether the status sends the client elsewhere. -/
def isRedirected (r : Response) : Except Error Bool := r.getStatus.map Status.isRedirection

/-- The URI of the resource that was asked for. -/
def uri (r : Response) : Except Error Uri := do
  let status ← r.getStatus
  (Uri.parse status.uri).mapError .badUri

/-- The first value of the header with the name, if there is one. -/
def header (r : Response) (name : Text) : Except Error (Option Text) :=
  r.getHeaders.map fun headers => headers.value? name

/-- All values of the header with the name. -/
def headerValues (r : Response) (name : Text) : Except Error (List Text) :=
  r.getHeaders.map fun headers => headers.values name

/-- The name of the header that describes the body. -/
def contentTypeName : Text := "Content-Type".toList

/-- The first content type, if there is one. -/
def contentType (r : Response) : Except Error (Option Text) := r.header contentTypeName

/-- The outcome of an answer that is known already. -/
def known {α : Type} (r : Response) (answer : Except Error α) : Outcome α := ⟨answer, [], r⟩

section

variable (tables : EastAsian.Tables)

/-- Decodes a body that has not been decoded yet, and keeps the text. -/
def decodeBody (r : Response) (choice : CharsetChoice) (chunks : List Chunk) : Outcome Text :=
  match Body.decodeBy tables choice.label chunks with
  | .ok text =>
    ⟨.ok text,
      choice.events ++ [.bodyDecoded (Body.byteCount chunks) chunks.length choice.label],
      { r with text := some text }⟩
  | .error e => ⟨.error e, choice.events, r⟩

/-- The text of the body. The caller's charset counts only if the body is decoded now and
    the content type names no charset. -/
def bodyText (r : Response) (requested : Option Text) : Outcome Text :=
  match r.contentType with
  | .error e => r.known (.error e)
  | .ok contentType =>
    match r.getChunks with
    | .error e => r.known (.error e)
    | .ok chunks =>
      match r.text with
      | some text => r.known (.ok text)
      | none => r.decodeBody tables (.make contentType requested) chunks

/-- The first characters of the body, at most `limit` of them. -/
def excerpt (r : Response) (requested : Option Text) (limit : Nat) : Outcome Text :=
  (r.bodyText tables requested).map fun text => text.take limit

end

/-- A new stream over the body: over the text in the default charset if the body has been
    decoded, and otherwise over the chunks as they were received. -/
def bodyStream (r : Response) : Outcome Stream :=
  match r.getChunks with
  | .error e => r.known (.error e)
  | .ok chunks =>
    match r.text with
    | some text => ⟨.ok (.ofChunks [Charset.Default.encode text]), [.textStreamed], r⟩
    | none => ⟨.ok (.ofChunks chunks), [.chunksStreamed chunks.length], r⟩

/-- Reads the cookies that have not been read yet, and keeps them. -/
def readCookies (r : Response) (headers : Headers) : Outcome (List Cookie) :=
  let answer := Cookie.parseAll headers
  ⟨answer, Cookie.events answer, { r with cookies := answer.toOption }⟩

/-- The cookies that the headers set. -/
def cookieList (r : Response) : Outcome (List Cookie) :=
  match r.getHeaders with
  | .error e => r.known (.error e)
  | .ok headers =>
    match r.cookies with
    | some cookies => r.known (.ok cookies)
    | none => r.readCookies headers

end Response

end HttpReply
