import HttpReply.Proofs.BodyStreams
import HttpReply.Proofs.CookieCell

/-!
# Parts that do not interfere

Questions about the body, the cookies and the rest of a response concern different parts of it,
and each of the two things that are worked out has a cell of its own. So the questions about one
part are answered and reported as if nothing else had been asked, and responses that are alike
in a part answer alike about it, whatever else they hold.
-/
namespace HttpReply

/-- What a question can be about. -/
inductive Part
  /-- The body: its text and streams over it. -/
  | body
  | cookies
  /-- What was received, with nothing worked out. -/
  | received
deriving DecidableEq, Repr

/-- The part that a question is about. -/
def Call.part : Call → Part
  | .body _ | .excerpt .. | .bodyStream => .body
  | .cookies => .cookies
  | _ => .received

/-- The part that an action of a session is about. Streams belong to the body. -/
def Session.Action.part : Action → Part
  | .ask call => call.part
  | .openStream | .read _ => .body

namespace Response

variable {tables : EastAsian.Tables}

/-- The responses hold the same as far as questions about the part can tell. -/
def Alike : Part → Response → Response → Prop
  | .body, r, s => r.contentType = s.contentType ∧ r.getChunks = s.getChunks ∧ r.text = s.text
  | .cookies, r, s =>
    r.headerValues Cookie.headerName = s.headerValues Cookie.headerName ∧ r.cookies = s.cookies
  | .received, r, s => r.asReceived = s.asReceived

theorem alike_refl (part : Part) (r : Response) : Alike part r r := by
  cases part with
  | body => exact ⟨rfl, rfl, rfl⟩
  | cookies => exact ⟨rfl, rfl⟩
  | received => rfl

theorem Alike.trans {part : Part} {r s t : Response} (first : Alike part r s) (second : Alike part s t) :
    Alike part r t := by
  cases part with
  | body => exact ⟨first.1.trans second.1, first.2.1.trans second.2.1, first.2.2.trans second.2.2⟩
  | cookies => exact ⟨first.1.trans second.1, first.2.trans second.2⟩
  | received => exact Eq.trans first second

theorem bodyText_alike {r s : Response} (alike : Alike .body r s) (requested : Option Text) :
    (r.bodyText tables requested).answer = (s.bodyText tables requested).answer ∧
      (r.bodyText tables requested).events = (s.bodyText tables requested).events ∧
      Alike .body (r.bodyText tables requested).after (s.bodyText tables requested).after := by
  have ⟨content, body, text⟩ := alike
  unfold bodyText
  rw [content, body, text]
  cases s.contentType with
  | error e => exact ⟨rfl, rfl, alike⟩
  | ok contentType =>
    cases s.getChunks with
    | error e => exact ⟨rfl, rfl, alike⟩
    | ok chunks =>
      cases s.text with
      | some text => exact ⟨rfl, rfl, alike⟩
      | none =>
        simp only [decodeBody]
        cases Body.decodeBy tables (CharsetChoice.make contentType requested).label chunks with
        | error e => exact ⟨rfl, rfl, alike⟩
        | ok text => exact ⟨rfl, rfl, content, body, rfl⟩

theorem bodyStream_alike {r s : Response} (alike : Alike .body r s) :
    r.bodyStream.answer = s.bodyStream.answer ∧ r.bodyStream.events = s.bodyStream.events := by
  obtain ⟨-, body, text⟩ := alike
  unfold bodyStream
  rw [body, text]
  cases s.getChunks with
  | error e => exact ⟨rfl, rfl⟩
  | ok chunks => cases s.text <;> exact ⟨rfl, rfl⟩

theorem headerValues_received (status : Option Status) (headers : Option Headers) (chunks : Option (List Chunk))
    (name : Text) : (received status headers chunks).headerValues name =
      (headers.map (·.values name)).elim (.error .noHeaders) .ok := by
  cases headers <;> rfl

theorem freshCookies_alike {r s : Response} (alike : Alike .cookies r s) : r.freshCookies = s.freshCookies := by
  have values (t : Response) :
      t.freshCookies = (t.headerValues Cookie.headerName).bind fun values => values.mapM Cookie.parse := by
    unfold freshCookies headerValues
    cases t.getHeaders <;> rfl
  rw [values r, values s, alike.1]

theorem cookieList_alike {r s : Response} (alike : Alike .cookies r s) :
    r.cookieList.answer = s.cookieList.answer ∧ r.cookieList.events = s.cookieList.events ∧
      Alike .cookies r.cookieList.after s.cookieList.after := by
  have ⟨values, cookies⟩ := alike
  have fresh := freshCookies_alike alike
  cases kept : s.cookies with
  | none =>
    obtain ⟨answer, events, after⟩ := cookieList_of_none (cookies.trans kept)
    obtain ⟨answer', events', after'⟩ := cookieList_of_none kept
    rw [answer, events, after, answer', events', after', fresh]
    exact ⟨rfl, rfl, values, rfl⟩
  | some list =>
    have shown {t : Response} (kept : t.cookies = some list) :
        t.cookieList.answer = (t.headerValues Cookie.headerName).map fun _ => list := by
      unfold cookieList headerValues
      cases t.getHeaders with
      | error e => rfl
      | ok headers => simp only [kept, known, Except.map]
    obtain ⟨after, events⟩ := after_cookieList_of_some (cookies.trans kept)
    obtain ⟨after', events'⟩ := after_cookieList_of_some kept
    rw [shown (cookies.trans kept), shown kept, values, events, events', after, after']
    exact ⟨rfl, rfl, alike⟩

theorem askStep_asReceived {call : Call} (about : call.part = .received) (r : Response) :
    (r.askStep tables call).1 = (r.asReceived.askStep tables call).1 := by
  cases call with
  | body requested => cases about
  | excerpt requested limit => cases about
  | bodyStream => cases about
  | cookies => cases about
  | _ => rfl

/-- A question about a part in which responses are alike has the same answer and the same reports,
    and leaves them alike. -/
theorem ask_alike {part : Part} {call : Call} (about : call.part = part) {r s : Response}
    (alike : Alike part r s) :
    (r.askStep tables call).1 = (s.askStep tables call).1 ∧
      Alike part (r.askStep tables call).2 (s.askStep tables call).2 := by
  subst about
  by_cases received : call.part = .received
  · rw [received] at alike ⊢
    refine ⟨?_, (asReceived_ask r call).trans (Eq.trans alike (asReceived_ask s call).symm)⟩
    rw [askStep_asReceived received r, askStep_asReceived received s]
    exact congrArg (fun t => (t.askStep tables call).1) alike
  cases call with
  | body requested =>
    obtain ⟨answer, events, after⟩ := bodyText_alike alike requested
    refine ⟨?_, after⟩
    simp only [askStep, ask, Outcome.map_answer, Outcome.map_events, answer, events]
  | excerpt requested limit =>
    obtain ⟨answer, events, after⟩ := bodyText_alike alike requested
    refine ⟨?_, after⟩
    simp only [askStep, ask, excerpt, Outcome.map_answer, Outcome.map_events, answer, events]
  | bodyStream =>
    obtain ⟨answer, events⟩ := bodyStream_alike alike
    refine ⟨?_, ?_⟩
    · simp only [askStep, ask, Outcome.map_answer, Outcome.map_events, answer, events]
    · simp only [askStep, ask, Outcome.map_after, after_bodyStream]
      exact alike
  | cookies =>
    obtain ⟨answer, events, after⟩ := cookieList_alike alike
    refine ⟨?_, after⟩
    simp only [askStep, ask, Outcome.map_answer, Outcome.map_events, answer, events]
  | _ => exact absurd rfl received

/-- Only a question about the text makes a difference to the body. -/
theorem alike_body_ask {call : Call} (silent : call.requested? = none) (r : Response) :
    Alike .body (r.ask tables call).after r := by
  have received : (r.ask tables call).after.asReceived = r.asReceived := asReceived_ask r call
  exact ⟨(congrArg contentType received :), (congrArg getChunks received :), text_ask_of_other r silent⟩

/-- A question about another part makes no difference to a part. -/
theorem alike_ask_of_other {part : Part} {call : Call} (other : call.part ≠ part) (r : Response) :
    Alike part (r.askStep tables call).2 r := by
  have received : (r.ask tables call).after.asReceived = r.asReceived := asReceived_ask r call
  cases part with
  | body =>
    have silent : call.requested? = none := by
      cases call with
      | body requested => exact absurd rfl other
      | excerpt requested limit => exact absurd rfl other
      | _ => rfl
    exact alike_body_ask silent r
  | cookies =>
    have apart : call ≠ .cookies := by
      rintro rfl
      exact other rfl
    exact ⟨(congrArg (headerValues · Cookie.headerName) received :), cookies_ask_of_other r apart⟩
  | received => exact received

end Response

namespace Session

variable {tables : EastAsian.Tables}

/-- Sessions that are alike in the body have the same streams. -/
structure Alike (part : Part) (left right : Session) : Prop where
  response : Response.Alike part left.response right.response
  streams : part = .body → left.streams = right.streams

theorem step_alike {part : Part} {action : Action} (about : action.part = part) {left right : Session}
    (alike : Alike part left right) :
    (left.pairStep tables action).1 = (right.pairStep tables action).1 ∧
      Alike part (left.pairStep tables action).2 (right.pairStep tables action).2 := by
  subst about
  cases action with
  | ask call =>
    obtain ⟨told, after⟩ := Response.ask_alike rfl alike.response
    exact ⟨congrArg asked told, after, alike.streams⟩
  | openStream =>
    have streams := alike.streams rfl
    obtain ⟨answer, events⟩ := Response.bodyStream_alike alike.response
    simp only [pairStep, step, answer, events, streams, Response.after_bodyStream]
    cases right.response.bodyStream.answer with
    | error e => exact ⟨rfl, alike.response, fun _ => rfl⟩
    | ok stream => exact ⟨rfl, alike.response, fun _ => rfl⟩
  | read request =>
    have streams := alike.streams rfl
    simp only [pairStep, step, streams]
    cases right.streams.answer? request with
    | none => exact ⟨rfl, alike⟩
    | some result => exact ⟨rfl, alike.response, fun _ => rfl⟩

theorem alike_step_of_other {part : Part} {action : Action} (other : action.part ≠ part) {left right : Session}
    (alike : Alike part left right) : Alike part (left.pairStep tables action).2 right := by
  cases action with
  | ask call =>
    exact ⟨(Response.alike_ask_of_other other left.response).trans alike.response, alike.streams⟩
  | openStream =>
    have kept : (left.pairStep tables .openStream).2.response = left.response := response_step_of_none left _ rfl
    refine ⟨?_, fun body => absurd body.symm other⟩
    rw [kept]
    exact alike.response
  | read request =>
    have kept : (left.pairStep tables (.read request)).2.response = left.response := response_step_of_none left _ rfl
    refine ⟨?_, fun body => absurd body.symm other⟩
    rw [kept]
    exact alike.response

/-- The reactions to the actions of a run that are about the part, each with what was reported. -/
def told (tables : EastAsian.Tables) (session : Session) (part : Part) (actions : List Action) :
    List (Reaction × List Event) :=
  Machine.chosen (Option.guard fun action => action.part = part) actions (session.run tables actions).1

/-- What a run tells about a part is what is told when only the part is dealt with, in any session that
    is alike in it. -/
theorem told_eq_run {part : Part} {left right : Session} (alike : Alike part left right) (actions : List Action) :
    left.told tables part actions = (right.run tables (actions.filter fun action => action.part = part)).1 := by
  have picked : ∀ (a b : Session) (action inner : Action),
      Option.guard (fun action => action.part = part) action = some inner → Alike part a b →
        (a.pairStep tables action).1 = id (b.pairStep tables inner).1 ∧
          Alike part (a.pairStep tables action).2 (b.pairStep tables inner).2 := by
    intro a b action inner picked alike
    obtain ⟨rfl, about⟩ := Option.guard_eq_some_iff.1 picked
    exact step_alike (of_decide_eq_true about) alike
  have ignored : ∀ (a b : Session) (action : Action), Option.guard (fun action => action.part = part) action = none →
      Alike part a b → Alike part (a.pairStep tables action).2 b := by
    intro a b action ignored alike
    rw [Option.guard_eq_none_iff, decide_eq_false_iff_not] at ignored
    exact alike_step_of_other ignored alike
  rw [told, run_eq_run, run_eq_run, (Machine.run_chosen (Alike part) picked ignored alike actions).1, List.map_id,
    List.filterMap_eq_filter]

theorem alike_refl (part : Part) (session : Session) : Alike part session session :=
  ⟨Response.alike_refl part session.response, fun _ => rfl⟩

/-- Whatever stands in the tables, what is told about a part in any run is what a run of the actions
    about it alone tells, and so no other action makes a difference to it, deleted or not. What is told
    about the body depends on nothing of the headers but the first content type, and what is told about
    the cookies on nothing that was received but the Set-Cookie values. -/
theorem parts_do_not_interfere (tables : EastAsian.Tables) :
    (∀ (session : Session) (part : Part) (actions : List Action),
      session.told tables part actions = (session.run tables (actions.filter fun action => action.part = part)).1) ∧
    (∀ (session : Session) (part : Part) (keep : Action → Bool), (∀ action, action.part = part → keep action = true) →
      ∀ actions, session.told tables part (actions.filter keep) = session.told tables part actions) ∧
    (∀ (status other : Option Status) (headers headers' : Headers) (chunks : Option (List Chunk)),
      headers.value? Response.contentTypeName = headers'.value? Response.contentTypeName → ∀ actions,
        told tables ⟨.received status (some headers) chunks, []⟩ .body actions =
          told tables ⟨.received other (some headers') chunks, []⟩ .body actions) ∧
    ∀ (status other : Option Status) (headers headers' : Option Headers) (chunks chunks' : Option (List Chunk)),
      headers.map (·.values Cookie.headerName) = headers'.map (·.values Cookie.headerName) → ∀ actions,
        told tables ⟨.received status headers chunks, []⟩ .cookies actions =
          told tables ⟨.received other headers' chunks', []⟩ .cookies actions := by
  refine ⟨?_, ?_, ?_, ?_⟩
  · intro session part actions
    exact told_eq_run (alike_refl part session) actions
  · intro session part keep kept actions
    rw [told_eq_run (alike_refl part session), told_eq_run (alike_refl part session), List.filter_filter]
    congr 2
    refine List.filter_congr fun action _ => ?_
    by_cases about : action.part = part
    · simp [about, kept action about]
    · simp [about]
  · intro status other headers headers' chunks content actions
    have alike : Alike .body ⟨.received status (some headers) chunks, []⟩
        ⟨.received other (some headers') chunks, []⟩ :=
      ⟨⟨congrArg Except.ok content, rfl, rfl⟩, fun _ => rfl⟩
    rw [told_eq_run alike, told_eq_run (alike_refl _ _)]
  · intro status other headers headers' chunks chunks' values actions
    have lists : (Response.received status headers chunks).headerValues Cookie.headerName =
        (Response.received other headers' chunks').headerValues Cookie.headerName := by
      rw [Response.headerValues_received, values, Response.headerValues_received]
    have alike : Alike .cookies ⟨.received status headers chunks, []⟩ ⟨.received other headers' chunks', []⟩ :=
      ⟨⟨lists, rfl⟩, fun _ => rfl⟩
    rw [told_eq_run alike, told_eq_run (alike_refl _ _)]

/-- The second response has its headers in another order, another status and a second content type. The
    cookies are left out when the body is dealt with. -/
theorem told_alike_of_reordered_headers :
    let tables := EastAsian.Tables.onlyA
    let content : Header := ⟨"content-type".toList, "text/plain;charset=shift_jis".toList⟩
    let headers : Headers := ⟨[content, ⟨"Set-Cookie".toList, "a=1".toList⟩]⟩
    let headers' : Headers :=
      ⟨[⟨"SET-COOKIE".toList, "a=1".toList⟩, content, ⟨"Content-Type".toList, "text/html".toList⟩]⟩
    let chunks : List Chunk := [[0x82, 0xA0], [0x21]]
    let first : Session := ⟨.received none (some headers) (some chunks), []⟩
    let second : Session := ⟨.received (some ⟨200, [], []⟩) (some headers') (some chunks), []⟩
    let actions : List Action := [.ask .cookies, .openStream, .ask (.excerpt none 1), .ask .statusCode,
      .read (.read 0 .byte), .ask .cookies, .ask .bodyStream]
    let keep : Action → Bool := fun action => action.part != .cookies
    (∀ action : Action, action.part = .body → keep action = true) ∧
      headers.value? Response.contentTypeName = headers'.value? Response.contentTypeName ∧
      (some headers).map (·.values Cookie.headerName) = (some headers').map (·.values Cookie.headerName) ∧
      first.told tables .body actions = second.told tables .body (actions.filter keep) ∧
      first.told tables .cookies actions = second.told tables .cookies actions ∧
      (second.told tables .body actions).map Prod.snd =
        [[.chunksStreamed 2], [.charsetFromContentType "shift_jis".toList, .bodyDecoded 3 2 "shift_jis".toList], [],
          [.textStreamed]] := by
  intro tables content headers headers' chunks first second actions keep
  obtain ⟨-, deleted, body, cookies⟩ := parts_do_not_interfere tables
  have kept : ∀ action : Action, action.part = .body → keep action = true := by
    intro action about
    simp only [keep, about]
    decide
  have values : headers.value? Response.contentTypeName = headers'.value? Response.contentTypeName := by
    decide +kernel
  have lists : (some headers).map (·.values Cookie.headerName) = (some headers').map (·.values Cookie.headerName) := by
    decide +kernel
  have same := body none (some ⟨200, [], []⟩) headers headers' (some chunks) values actions
  refine ⟨kept, values, lists, ?_, ?_, ?_⟩
  · rw [deleted second .body keep kept]
    exact same
  · exact cookies none (some ⟨200, [], []⟩) (some headers) (some headers') (some chunks) (some chunks) lists actions
  · rw [← same]
    decide +kernel

end Session

end HttpReply
