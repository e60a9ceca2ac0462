import HttpReply.Body.Reading
import HttpReply.Response.Call

/-!
# Sessions

A session is a response together with the streams that it handed out. Questions to the
response and reads from the streams may follow each other in any order.
-/
namespace HttpReply

/-- A response and the streams that were opened on its body. -/
structure Session where
  response : Response
  streams : Streams := []

namespace Session

/-- One step of a session. -/
inductive Action
  /-- A question about the response. -/
  | ask (call : Call)
  /-- A new stream over the body, kept with the others. -/
  | openStream
  /-- A request to the streams. -/
  | read (request : Streams.Request)
deriving DecidableEq, Repr

/-- What a step leads to. -/
inductive Reaction
  | asked (answer : Except Error Answer)
  | opened (index : Except Error Nat)
  | read (answer : Option Streams.Answer)

section

variable (tables : EastAsian.Tables)

/-- Takes one step, and tells what it leads to and what was reported on the way. -/
def step (session : Session) : Action → Reaction × List Event × Session
  | .ask call =>
    let outcome := session.response.ask tables call
    (.asked outcome.answer, outcome.events, { session with response := outcome.after })
  | .openStream =>
    let outcome := session.response.bodyStream
    match outcome.answer with
    | .ok stream =>
      (.opened (.ok session.streams.length), outcome.events,
        ⟨outcome.after, session.streams ++ [stream]⟩)
    | .error e => (.opened (.error e), outcome.events, { session with response := outcome.after })
  | .read request =>
    match session.streams.answer? request with
    | some (answer, streams) => (.read (some answer), [], { session with streams })
    | none => (.read none, [], session)

/-- Takes steps one after another. -/
def run (session : Session) : List Action → List (Reaction × List Event) × Session
  | [] => ([], session)
  | action :: rest =>
    let (reaction, events, next) := session.step tables action
    let (reactions, last) := next.run rest
    ((reaction, events) :: reactions, last)

end

end Session

end HttpReply
