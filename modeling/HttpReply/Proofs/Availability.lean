import HttpReply.Proofs.BodyStreams
import HttpReply.Proofs.ChunkDecoding
import HttpReply.Proofs.CookieCell
import HttpReply.Proofs.CookieFields

/-!
# What is not available

An answer needs parts of the response. The first of them that was not received decides: the
question fails for the lack of it, whatever has been asked before, and nothing is tried. All other
failures come from work on what was received. No failure changes anything, so a question that
fails can be left out of a run.
-/
namespace HttpReply

/-- The error says that a part was not received. -/
def Error.isMissing : Error → Bool
  | .noStatus | .noHeaders | .noBody => true
  | _ => false

/-- A part of a response that an answer can need. -/
inductive Need
  | status
  | headers
  | body
deriving DecidableEq, Repr

/-- Why there is no answer without the part. -/
def Need.error : Need → Error
  | .status => .noStatus
  | .headers => .noHeaders
  | .body => .noBody

theorem Need.isMissing_error (need : Need) : need.error.isMissing = true := by
  cases need <;> rfl

theorem Need.error_injective {need other : Need} (same : need.error = other.error) : need = other := by
  cases need <;> cases other <;> first | rfl | cases same

/-- The parts that an answer needs, in the order in which they are looked for. -/
def Call.needs : Call → List Need
  | .hasStatus | .hasHeaders | .hasBody => []
  | .statusCode | .statusText | .isRedirected | .uri => [.status]
  | .contentType | .header _ | .headerValues _ | .headers | .cookies => [.headers]
  | .body _ | .excerpt .. => [.headers, .body]
  | .bodyStream => [.body]

theorem Body.error_of_decodeBy {tables : EastAsian.Tables} {label : Text} {chunks : List Chunk} {e : Error}
    (failed : decodeBy tables label chunks = .error e) :
    e = .unknownCharset label ∨ ∃ charset, ∃ chunk ∈ chunks, e = .notText charset chunk := by
  have result := decodeBy_eq_iff.1 failed
  cases e with
  | unknownCharset given => exact .inl (congrArg Error.unknownCharset result.2)
  | notText charset chunk =>
    obtain ⟨-, before, after, rfl, -⟩ := result
    exact .inr ⟨charset, chunk, List.mem_append_right before List.mem_cons_self, rfl⟩
  | _ => cases result

theorem Cookie.error_of_parse {setCookie : Text} {e : Error} (failed : parse setCookie = .error e) :
    e.isMissing = false := by
  obtain ⟨first, later, split⟩ := exists_fields setCookie
  have meaning := (parse_eq_iff split).1 failed
  cases e <;> first | rfl | cases meaning

theorem Cookie.error_of_parseAll {headers : Headers} {e : Error} (failed : parseAll headers = .error e) :
    e.isMissing = false := by
  obtain ⟨-, value, -, -, fails, -⟩ := mapM_eq_error_iff.1 failed
  exact error_of_parse fails

namespace Response

variable {tables : EastAsian.Tables}

/-! ## Parts that are missing -/

/-- Whether the part was received. -/
def has (r : Response) : Need → Bool
  | .status => r.hasStatus
  | .headers => r.hasHeaders
  | .body => r.hasBody

/-- The first part that the answer needs and that was not received. -/
def lacking (r : Response) (call : Call) : Option Need := call.needs.find? fun need => !r.has need

theorem lacking_of_one {r : Response} {call : Call} {part : Need} (needs : call.needs = [part]) (need : Need) :
    r.lacking call = some need ↔ need = part ∧ r.has part = false := by
  rw [lacking, needs, List.find?_singleton]
  cases r.has part <;> simp [eq_comm]

theorem lacking_of_text {r : Response} {call : Call} (needs : call.needs = [.headers, .body]) (need : Need) :
    r.lacking call = some need ↔
      need = .headers ∧ r.has .headers = false ∨ need = .body ∧ r.has .headers = true ∧ r.has .body = false := by
  rw [lacking, needs, List.find?_cons, List.find?_singleton]
  cases r.has .headers <;> cases r.has .body <;> simp [eq_comm]

theorem received_status (r : Response) :
    r.has .status = false ∧ r.getStatus = .error .noStatus ∨
      r.has .status = true ∧ ∃ status, r.getStatus = .ok status := by
  unfold has hasStatus getStatus
  cases r.status with
  | none => exact .inl ⟨rfl, rfl⟩
  | some status => exact .inr ⟨rfl, status, rfl⟩

theorem received_headers (r : Response) :
    r.has .headers = false ∧ r.getHeaders = .error .noHeaders ∨
      r.has .headers = true ∧ ∃ headers, r.getHeaders = .ok headers := by
  unfold has hasHeaders getHeaders
  cases r.headers with
  | none => exact .inl ⟨rfl, rfl⟩
  | some headers => exact .inr ⟨rfl, headers, rfl⟩

theorem received_body (r : Response) :
    r.has .body = false ∧ r.getChunks = .error .noBody ∨
      r.has .body = true ∧ ∃ chunks, r.getChunks = .ok chunks := by
  unfold has hasBody getChunks
  cases r.chunks.filter (!·.isEmpty) with
  | none => exact .inl ⟨rfl, rfl⟩
  | some chunks => exact .inr ⟨rfl, chunks, rfl⟩

theorem getChunks_eq_ok_iff {r : Response} {chunks : List Chunk} :
    r.getChunks = .ok chunks ↔ r.chunks = some chunks ∧ chunks ≠ [] := by
  rcases received : r.chunks with _ | _ | ⟨chunk, rest⟩
  · simp [getChunks, received]
  · simp [getChunks, received, Option.filter]
  · have given : r.getChunks = .ok (chunk :: rest) := by
      simp [getChunks, received, Option.filter]
    rw [given]
    constructor
    · intro same
      cases same
      exact ⟨rfl, List.cons_ne_nil chunk rest⟩
    · rintro ⟨same, -⟩
      cases same
      rfl

theorem contentType_of_headers {r : Response} {headers : Headers} (got : r.getHeaders = .ok headers) :
    r.contentType = .ok (headers.value? contentTypeName) := by
  rw [contentType, header, got]
  rfl

/-- A part that is missing decides the answer, and no other failure says that a part is missing. -/
def Decided (tables : EastAsian.Tables) (r : Response) (call : Call) : Prop :=
  (∃ need, r.lacking call = some need ∧ r.ask tables call = r.known (.error need.error)) ∨
    r.lacking call = none ∧ ∀ e, (r.ask tables call).answer = .error e → e.isMissing = false

theorem decided_of_one {α : Type} {r : Response} {call : Call} {part : Need} {received : Except Error α}
    (needs : call.needs = [part])
    (parts : r.has part = false ∧ received = .error part.error ∨ r.has part = true ∧ ∃ value, received = .ok value)
    (fails : received = .error part.error → r.ask tables call = r.known (.error part.error))
    (works : ∀ value, received = .ok value → ∀ e, (r.ask tables call).answer = .error e → e.isMissing = false) :
    Decided tables r call := by
  rcases parts with ⟨missing, failed⟩ | ⟨present, value, got⟩
  · exact .inl ⟨part, (lacking_of_one needs part).2 ⟨rfl, missing⟩, fails failed⟩
  · refine .inr ⟨?_, works value got⟩
    rw [lacking, needs, List.find?_singleton, present]
    rfl

/-- With headers and a body a question about the text can fail in its charset only. -/
theorem error_of_text {r : Response} {call : Call} (needs : call.needs = [.headers, .body]) {contentType : Option Text}
    (headers : r.contentType = .ok contentType) {chunks : List Chunk} (body : r.getChunks = .ok chunks) {e : Error}
    (failed : (r.ask tables call).answer = .error e) :
    (∃ label, e = .unknownCharset label) ∨ ∃ charset, ∃ chunk ∈ chunks, e = .notText charset chunk := by
  obtain ⟨requested, asks⟩ : ∃ requested, call.requested? = some requested := by
    cases call <;> first | exact ⟨_, rfl⟩ | cases needs
  rw [(ask_text r asks).1] at failed
  have failed := map_eq_error_iff.1 failed
  cases kept : r.text with
  | some text =>
    rw [answer_bodyText_of_some kept headers body] at failed
    cases failed
  | none =>
    rw [(bodyText_of_none kept requested).1] at failed
    simp only [freshText, headers, body] at failed
    rcases Body.error_of_decodeBy failed with unknown | undecodable
    · exact .inl ⟨_, unknown⟩
    · exact .inr undecodable

/-- With headers a question for the cookies can fail in reading them only. -/
theorem error_of_cookies {r : Response} {headers : Headers} (present : r.getHeaders = .ok headers) {e : Error}
    (failed : (r.ask tables .cookies).answer = .error e) : e.isMissing = false := by
  have failed : r.cookieList.answer = .error e := map_eq_error_iff.1 failed
  cases kept : r.cookies with
  | some cookies =>
    simp only [cookieList, present, kept] at failed
    cases failed
  | none =>
    rw [(cookieList_of_none kept).1, freshCookies, present] at failed
    exact Cookie.error_of_parseAll failed

/-- With a body there always is a stream. -/
theorem answer_of_bodyStream {r : Response} {chunks : List Chunk} (body : r.getChunks = .ok chunks) :
    ∃ stream, (r.ask tables .bodyStream).answer = .ok stream := by
  obtain ⟨stream, opened, -⟩ := bodyStream_at body
  exact ⟨.stream stream, congrArg (Except.map Answer.stream) opened⟩

/-- Whatever has been asked before, what was received decides. One case for each kind of question. -/
theorem decided (r : Response) (call : Call) : Decided tables r call := by
  cases call with
  | hasStatus | hasHeaders | hasBody => exact .inr ⟨rfl, fun e failed => by cases failed⟩
  | statusCode | statusText | isRedirected =>
    refine decided_of_one rfl r.received_status ?_ ?_
    · intro missing
      simp only [ask, isRedirected, missing]
      rfl
    · intro status present e failed
      simp only [ask, known, isRedirected, present] at failed
      cases failed
  | uri =>
    refine decided_of_one rfl r.received_status ?_ ?_
    · intro missing
      simp only [ask, uri, missing]
      rfl
    · intro status present e failed
      have failed : r.uri = .error e := map_eq_error_iff.1 failed
      rw [uri, present] at failed
      change (Uri.parse status.uri).mapError Error.badUri = .error e at failed
      cases parsed : Uri.parse status.uri with
      | error cause =>
        rw [parsed] at failed
        cases failed
        rfl
      | ok value =>
        rw [parsed] at failed
        cases failed
  | contentType | header name | headerValues name | headers =>
    refine decided_of_one rfl r.received_headers ?_ ?_
    · intro missing
      simp only [ask, contentType, header, headerValues, missing]
      rfl
    · intro headers present e failed
      simp only [ask, known, contentType, header, headerValues, present] at failed
      cases failed
  | cookies =>
    refine decided_of_one rfl r.received_headers ?_ ?_
    · intro missing
      simp only [ask, cookieList, missing]
      rfl
    · exact fun headers present e failed => error_of_cookies present failed
  | bodyStream =>
    refine decided_of_one rfl r.received_body ?_ ?_
    · intro missing
      simp only [ask, bodyStream, missing]
      rfl
    · intro chunks present e failed
      obtain ⟨stream, opened⟩ := answer_of_bodyStream present
      rw [opened] at failed
      cases failed
  | body requested | excerpt requested limit =>
    rcases r.received_headers with ⟨missing, failed⟩ | ⟨present, headers, got⟩
    · refine .inl ⟨.headers, (lacking_of_text rfl _).2 (.inl ⟨rfl, missing⟩), ?_⟩
      simp only [ask, excerpt, bodyText, contentType, header, failed]
      rfl
    have content := contentType_of_headers got
    rcases r.received_body with ⟨missing, failed⟩ | ⟨whole, chunks, body⟩
    · refine .inl ⟨.body, (lacking_of_text rfl _).2 (.inr ⟨rfl, present, missing⟩), ?_⟩
      simp only [ask, excerpt, bodyText, content, failed]
      rfl
    refine .inr ⟨?_, ?_⟩
    · simp [lacking, Call.needs, present, whole]
    · intro e failed
      rcases error_of_text rfl content body failed with ⟨label, rfl⟩ | ⟨charset, chunk, -, rfl⟩ <;> rfl

/-- A question fails for the lack of a part exactly if that is the first that it needs and does not find. -/
theorem answer_eq_missing_iff (r : Response) (call : Call) (need : Need) :
    (r.ask tables call).answer = .error need.error ↔ r.lacking call = some need := by
  rcases @decided tables r call with ⟨first, lacking, outcome⟩ | ⟨lacking, works⟩
  · rw [lacking, outcome]
    constructor
    · intro failed
      rw [Need.error_injective (Except.error.inj failed)]
    · intro same
      rw [Option.some.inj same]
      rfl
  · rw [lacking]
    refine ⟨fun failed => ?_, fun found => by cases found⟩
    have none_missing := works _ failed
    rw [need.isMissing_error] at none_missing
    cases none_missing

theorem eq_of_parts {r s : Response} (received : r.asReceived = s.asReceived) (text : r.text = s.text)
    (cookies : r.cookies = s.cookies) : r = s := by
  cases r
  cases s
  simp_all [asReceived, Response.received]

theorem cookies_ask_of_error {r : Response} {call : Call} {e : Error} (fails : (r.ask tables call).answer = .error e) :
    (r.ask tables call).after.cookies = r.cookies := by
  by_cases asks : call = .cookies
  · subst asks
    rw [cookies_ask, if_pos rfl]
    cases kept : r.cookies with
    | some cookies => rfl
    | none =>
      have fails : r.cookieList.answer = .error e := map_eq_error_iff.1 fails
      rw [(cookieList_of_none kept).1] at fails
      rw [fails]
      rfl
  · exact cookies_ask_of_other r asks

theorem after_ask_of_error {r : Response} {call : Call} {e : Error} (fails : (r.ask tables call).answer = .error e) :
    (r.ask tables call).after = r :=
  eq_of_parts (asReceived_ask r call) (text_ask_of_error fails) (cookies_ask_of_error fails)

/-! ## How questions fail -/

theorem has_status_eq_false (r : Response) : r.has .status = false ↔ r.status = none := by
  simp [has, hasStatus]

theorem has_headers_eq_false (r : Response) : r.has .headers = false ↔ r.headers = none := by
  simp [has, hasHeaders]

theorem has_body_eq_false (r : Response) : r.has .body = false ↔ r.chunks = none ∨ r.chunks = some [] := by
  rcases received : r.chunks with _ | _ | ⟨chunk, rest⟩ <;>
    simp [has, hasBody, getChunks, received, Option.filter, Except.toBool]

/-- A question about the text fails for the lack of headers, for the lack of a body, or in its charset. -/
theorem text_fails {r : Response} {call : Call} (needs : call.needs = [.headers, .body]) {e : Error}
    (failed : (r.ask tables call).answer = .error e) :
    e = .noHeaders ∨ e = .noBody ∨ r.headers ≠ none ∧ ∃ body, body ≠ [] ∧ r.chunks = some body ∧
      ((∃ label, e = .unknownCharset label) ∨ ∃ charset, ∃ chunk ∈ body, e = .notText charset chunk) := by
  rcases r.received_headers with ⟨missing, -⟩ | ⟨has, headers, got⟩
  · have first := (lacking_of_text needs .headers).2 (.inl ⟨rfl, missing⟩)
    rw [(answer_eq_missing_iff r call .headers).2 first] at failed
    exact .inl (Except.error.inj failed).symm
  rcases r.received_body with ⟨missing, -⟩ | ⟨-, chunks, body⟩
  · have first := (lacking_of_text needs .body).2 (.inr ⟨rfl, has, missing⟩)
    rw [(answer_eq_missing_iff r call .body).2 first] at failed
    exact .inr (.inl (Except.error.inj failed).symm)
  have given : r.headers ≠ none := by
    rw [Ne, ← r.has_headers_eq_false, has]
    decide
  obtain ⟨same, whole⟩ := getChunks_eq_ok_iff.1 body
  have charset := error_of_text needs (contentType_of_headers got) body failed
  exact .inr (.inr ⟨given, chunks, whole, same, charset⟩)

theorem bodyStream_fails {r : Response} {e : Error} (failed : (r.ask tables .bodyStream).answer = .error e) :
    e = .noBody := by
  rcases r.received_body with ⟨missing, -⟩ | ⟨-, chunks, present⟩
  · rw [(answer_eq_missing_iff r .bodyStream .body).2 ((lacking_of_one rfl .body).2 ⟨rfl, missing⟩)] at failed
    exact (Except.error.inj failed).symm
  · obtain ⟨stream, opened⟩ := answer_of_bodyStream present
    rw [opened] at failed
    cases failed

/-- How questions to a response fail that was received with these parts. -/
structure Failures (tables : EastAsian.Tables) (status : Option Status) (headers : Option Headers)
    (chunks : Option (List Chunk)) (s : Response) : Prop where
  textWithoutHeaders : ∀ call, call.needs = [.headers, .body] →
    ((s.ask tables call).answer = .error .noHeaders ↔ headers = none)
  textWithoutBody : ∀ call, call.needs = [.headers, .body] →
    ((s.ask tables call).answer = .error .noBody ↔ headers ≠ none ∧ (chunks = none ∨ chunks = some []))
  textOtherwise : ∀ call e, call.needs = [.headers, .body] → (s.ask tables call).answer = .error e →
    e = .noHeaders ∨ e = .noBody ∨ headers ≠ none ∧ ∃ body, body ≠ [] ∧ chunks = some body ∧
      ((∃ label, e = .unknownCharset label) ∨ ∃ charset, ∃ chunk ∈ body, e = .notText charset chunk)
  streamWithoutBody :
    (s.ask tables .bodyStream).answer = .error .noBody ↔ (s.ask tables .hasBody).answer = .ok (.flag false)
  streamOtherwise : ∀ e, (s.ask tables .bodyStream).answer = .error e → e = .noBody
  withoutHeaders : ∀ call, call.needs = [.headers] → ((s.ask tables call).answer = .error .noHeaders ↔ headers = none)
  /-- Without headers no cookie is read, and so no reading reported. -/
  cookiesWithoutHeaders : headers = none → s.ask tables .cookies = s.known (.error .noHeaders)
  withoutStatus : ∀ call, call.needs = [.status] → ((s.ask tables call).answer = .error .noStatus ↔ status = none)
  hasStatus : (s.ask tables .hasStatus).answer = .ok (.flag status.isSome)
  hasHeaders : (s.ask tables .hasHeaders).answer = .ok (.flag headers.isSome)
  hasBody : (s.ask tables .hasBody).answer = .ok (.flag (chunks.any (!·.isEmpty)))

theorem failures_of_received {status : Option Status} {headers : Option Headers} {chunks : Option (List Chunk)}
    {s : Response} (same : s.asReceived = received status headers chunks) :
    Failures tables status headers chunks s := by
  obtain ⟨rfl, rfl, rfl⟩ : s.status = status ∧ s.headers = headers ∧ s.chunks = chunks := by
    simpa [asReceived, received] using same
  constructor
  case textWithoutHeaders =>
    intro call needs
    refine ((answer_eq_missing_iff s call .headers).trans (lacking_of_text needs .headers)).trans ?_
    rw [s.has_headers_eq_false]
    simp
  case textWithoutBody =>
    intro call needs
    refine ((answer_eq_missing_iff s call .body).trans (lacking_of_text needs .body)).trans ?_
    rw [s.has_body_eq_false, ← Bool.not_eq_false, s.has_headers_eq_false]
    simp
  case withoutHeaders =>
    intro call needs
    refine ((answer_eq_missing_iff s call .headers).trans (lacking_of_one needs .headers)).trans ?_
    rw [s.has_headers_eq_false, eq_self, true_and]
  case withoutStatus =>
    intro call needs
    refine ((answer_eq_missing_iff s call .status).trans (lacking_of_one needs .status)).trans ?_
    rw [s.has_status_eq_false, eq_self, true_and]
  case streamWithoutBody =>
    refine ((answer_eq_missing_iff s .bodyStream .body).trans (lacking_of_one rfl .body)).trans ?_
    show _ ↔ Except.ok (Answer.flag (s.has .body)) = _
    simp
  case streamOtherwise => exact fun e failed => bodyStream_fails failed
  case cookiesWithoutHeaders =>
    intro missing
    simp only [ask, cookieList, getHeaders, missing]
    rfl
  case hasStatus => rfl
  case hasHeaders => rfl
  case hasBody =>
    rcases received : s.chunks with _ | _ | ⟨chunk, rest⟩ <;>
      simp [ask, known, Response.hasBody, getChunks, received, Option.filter, Except.toBool]
  case textOtherwise => exact fun call e needs failed => text_fails needs failed

end Response

namespace Session

variable {tables : EastAsian.Tables}

/-- The error that the response gave, if it gave one. -/
def Reaction.error? : Reaction → Option Error
  | .asked (.error e) => some e
  | .opened (.error e) => some e
  | _ => none

theorem step_of_error {session : Session} {action : Action} {e : Error}
    (failed : (session.step tables action).1.error? = some e) : (session.step tables action).2.2 = session := by
  cases action with
  | ask call =>
    cases answer : (session.response.ask tables call).answer with
    | ok value =>
      simp only [step, answer] at failed
      cases failed
    | error cause => simp only [step, Response.after_ask_of_error answer]
  | openStream =>
    cases answer : session.response.bodyStream.answer with
    | ok stream =>
      simp only [step, answer] at failed
      cases failed
    | error cause => simp only [step, answer, Response.after_bodyStream]
  | read request =>
    simp only [step] at failed
    split at failed <;> cases failed

theorem asReceived_run (session : Session) (actions : List Action) :
    (session.run tables actions).2.response.asReceived = session.response.asReceived := by
  rw [(asked_run session actions).2, Response.asReceived_askAll]

/-- Whatever stands in the tables, in every state that a session can reach the parts that were received
    decide which questions fail for the lack of a part, and for which. An action that gets an error from
    the response can be left out: all other reactions and reports stay as they are, and so does the
    session in the end. -/
theorem failures_in_every_state (tables : EastAsian.Tables) :
    (∀ (status : Option Status) (headers : Option Headers) (chunks : Option (List Chunk)) (earlier : List Action),
      (run tables ⟨.received status headers chunks, []⟩ earlier).2.response.Failures tables status headers chunks) ∧
    ∀ (session : Session) (before after : List Action) (action : Action) (e : Error),
      ((session.run tables before).2.step tables action).1.error? = some e →
        session.run tables (before ++ after) =
          ((session.run tables (before ++ action :: after)).1.eraseIdx before.length,
            (session.run tables (before ++ action :: after)).2) := by
  refine ⟨?_, ?_⟩
  · intro status headers chunks earlier
    exact Response.failures_of_received (asReceived_run _ earlier)
  · intro session before after action e failed
    have still := step_of_error failed
    simp only [run_eq_run] at still ⊢
    exact Machine.run_without still after

/-- The charset that is asked for first does not decode the second chunk, Shift_JIS then decodes both,
    and no status is received. -/
theorem undecodable_attempt_left_out :
    let tables := EastAsian.Tables.onlyA
    let session : Session := ⟨.received none (some {}) (some [[0x41], [0x82, 0xA0]]), []⟩
    let before : List Action := [.openStream, .ask .uri]
    let action : Action := .ask (.body (some "utf-8".toList))
    let after : List Action := [.ask (.excerpt (some "shift_jis".toList) 1), .ask .statusText, .openStream,
      .read (.read 1 .toEnd)]
    ((session.run tables before).2.step tables action).1.error? = some (.notText .utf8 [0x82, 0xA0]) ∧
      session.run tables (before ++ after) =
        ((session.run tables (before ++ action :: after)).1.eraseIdx 2,
          (session.run tables (before ++ action :: after)).2) ∧
      (session.run tables (before ++ after)).2.response.text = some ['A', 'あ'] ∧
      ((session.run tables (before ++ after)).2.response.ask tables .statusText).answer = .error .noStatus := by
  intro tables session before action after
  have failed : ((session.run tables before).2.step tables action).1.error? = some (.notText .utf8 [0x82, 0xA0]) := by
    decide +kernel
  obtain ⟨failures, left⟩ := failures_in_every_state tables
  refine ⟨failed, left session before after action _ failed, by decide +kernel, ?_⟩
  exact ((failures none (some {}) (some [[0x41], [0x82, 0xA0]]) (before ++ after)).withoutStatus .statusText rfl).2 rfl

end Session

end HttpReply
