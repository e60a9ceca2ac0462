import HttpReply.Proofs.Cursors
import HttpReply.Proofs.TextCell

/-!
# Streams over a body

A stream over a body is bound to its bytes when it is opened: the text in the default
charset if a text is kept by then, and the chunks otherwise. Nothing that happens later in
the session changes what the stream yields, and no stream changes what the response
answers.
-/
namespace HttpReply

/-- The bytes that an answer hands over. -/
def Stream.Answer.handed : Stream.Answer → Bytes
  | .byte value => value.toList
  | .filled count buffer => buffer.take count
  | .bytes value => value
  | .text value => Utf8.encode value
  | .size _ => []

/-- The request passes no byte without handing it over. -/
def Stream.Request.Whole : Stream.Request → Prop
  | .nth n => n = 0
  | _ => True

/-- The bytes that granted requests hand over one after another. -/
def Stream.handedIn (answers : List (Except Stream.Error Stream.Answer)) : Bytes :=
  answers.flatMap fun answer => match answer with
    | .ok given => given.handed
    | .error _ => []

namespace Cursor

theorem byte_left (c : Cursor) : c.content[c.place]?.toList ++ c.left.drop 1 = c.left := by
  rw [left, List.drop_drop]
  by_cases within : c.place < c.content.length
  · rw [List.getElem?_eq_getElem within, List.drop_eq_getElem_cons within]
    rfl
  · rw [List.getElem?_eq_none (by omega), List.drop_eq_nil_of_le (by omega), List.drop_eq_nil_of_le (by omega)]
    rfl

/-- A granted request takes what it hands over from the front of what is left. -/
theorem handed_answer (c : Cursor) {request : Stream.Request} (whole : request.Whole) {given : Stream.Answer}
    (granted : (c.answer request).1 = .ok given) : given.handed ++ (c.answer request).2.left = c.left := by
  cases request with
  | byte =>
    cases granted
    rw [answer, left_pass]
    exact c.byte_left
  | nth n =>
    obtain rfl : n = 0 := whole
    cases granted
    rw [answer, left_pass]
    exact c.byte_left
  | into buffer =>
    cases granted
    simp only [answer, left_pass, Stream.Answer.handed]
    rw [List.take_append_of_le_length, List.take_take, Nat.min_self, List.take_append_drop]
    rw [List.length_take, length_left]
    omega
  | exactly n =>
    simp only [answer] at granted ⊢
    split at granted
    next enough =>
      cases granted
      rw [if_pos enough, left_pass]
      exact List.take_append_drop n c.left
    next => cases granted
  | toEnd =>
    cases granted
    rw [answer, left_toEnd, List.append_nil]
    rfl
  | toEndAsText =>
    simp only [answer] at granted ⊢
    cases decoded : Utf8.decode? c.left with
    | none => rw [decoded] at granted; cases granted
    | some text =>
      rw [decoded] at granted
      cases granted
      rw [left_toEnd, List.append_nil]
      exact (Utf8.decode?_eq_some_iff.1 decoded).symm
  | size =>
    cases granted
    rfl

theorem content_run (c : Cursor) (requests : List Stream.Request) :
    (Machine.run answer c requests).2.content = c.content :=
  Machine.run_keeps (fun d : Cursor => d.content = c.content)
    (fun d request same => (d.content_answer request).trans same) rfl requests

/-- What granted requests hand over, and what is left after them, is what was left before. -/
theorem handed_run (c : Cursor) {requests : List Stream.Request} (whole : ∀ request ∈ requests, request.Whole)
    (granted : ∀ reply ∈ (Machine.run answer c requests).1, ∃ given, reply = .ok given) :
    Stream.handedIn (Machine.run answer c requests).1 ++ (Machine.run answer c requests).2.left = c.left := by
  induction requests generalizing c with
  | nil => rfl
  | cons request rest ih =>
    rw [Machine.run_cons] at granted ⊢
    obtain ⟨given, first⟩ := granted _ List.mem_cons_self
    have others := ih (c.answer request).2 (fun other member => whole other (List.mem_cons_of_mem _ member))
      (fun other member => granted other (List.mem_cons_of_mem _ member))
    simp only [Stream.handedIn, List.flatMap_cons] at others ⊢
    rw [first, List.append_assoc, others]
    exact c.handed_answer (whole request List.mem_cons_self) first

end Cursor

namespace Response

/-- The bytes that a stream yields if it is opened now: the text in the default charset, if one
    is kept, and otherwise the chunks. -/
def streamed (r : Response) (chunks : List Chunk) : Bytes :=
  match r.text with
  | some text => Charset.Default.encode text
  | none => chunks.flatten

theorem bodyStream_at {r : Response} {chunks : List Chunk} (body : r.getChunks = .ok chunks) :
    ∃ s, r.bodyStream.answer = .ok s ∧ s.At (.ofBytes (r.streamed chunks)) := by
  simp only [bodyStream, streamed, body]
  cases r.text with
  | none => exact ⟨_, rfl, Stream.at_ofChunks chunks⟩
  | some text =>
    have start := Stream.at_ofChunks [Charset.Default.encode text]
    rw [List.flatten_singleton] at start
    exact ⟨_, rfl, start⟩

end Response

namespace Session

variable {tables : EastAsian.Tables}

/-- What an action asks of stream number `index`. -/
def Action.requestTo? (index : Nat) : Action → Option Stream.Request
  | .read (.read other request) => if other = index then some request else none
  | _ => none

/-- The question that an action asks of the response, unless it opens a stream. -/
def Action.call? : Action → Option Call
  | .ask .bodyStream => none
  | .ask call => some call
  | _ => none

/-- The reaction to a read that a stream answers. Reads are not reported. -/
def given (answer : Except Stream.Error Stream.Answer) : Reaction × List Event := (.read (some (.read answer)), [])

/-- The reaction to a question. -/
def asked (outcome : Except Error Answer × List Event) : Reaction × List Event := (.asked outcome.1, outcome.2)

/-! ## What one action does -/

theorem response_step_of_none (session : Session) (action : Action) (apart : action.call? = none) :
    (session.step tables action).2.2.response = session.response := by
  cases action with
  | ask call =>
    cases call with
    | bodyStream => exact Response.after_bodyStream session.response
    | _ => cases apart
  | openStream =>
    simp only [step]
    split <;> exact Response.after_bodyStream session.response
  | read request =>
    simp only [step]
    split <;> rfl

theorem step_of_call (session : Session) {action : Action} {call : Call} (asks : action.call? = some call) :
    session.pairStep tables action = (asked (session.response.askStep tables call).1,
      { session with response := (session.response.askStep tables call).2 }) := by
  cases action with
  | ask other =>
    cases other with
    | bodyStream => cases asks
    | _ => cases asks; rfl
  | openStream => cases asks
  | read request => cases asks

theorem stream_step_of_none {session : Session} {index : Nat} {s : Stream} (present : session.streams[index]? = some s)
    {action : Action} (apart : action.requestTo? index = none) :
    (session.step tables action).2.2.streams[index]? = some s := by
  have within : index < session.streams.length := (List.getElem?_eq_some_iff.1 present).1
  cases action with
  | ask call => exact present
  | openStream =>
    simp only [step]
    split
    · exact (List.getElem?_append_left within).trans present
    · exact present
  | read request =>
    cases request with
    | read other request =>
      have differs : other ≠ index := by
        rintro rfl
        simp [Action.requestTo?] at apart
      simp only [step, Streams.answer?]
      cases session.streams[other]? with
      | none => exact present
      | some t => exact (List.getElem?_set_ne differs).trans present
    | copy other =>
      simp only [step, Streams.answer?]
      cases session.streams[other]? with
      | none => exact present
      | some t => exact (List.getElem?_append_left within).trans present

theorem step_of_request {session : Session} {index : Nat} {s : Stream} (present : session.streams[index]? = some s)
    {action : Action} {request : Stream.Request} (asks : action.requestTo? index = some request) :
    (session.pairStep tables action).1 = given (s.answer request).1 ∧
      (session.pairStep tables action).2.streams[index]? = some (s.answer request).2 := by
  have within : index < session.streams.length := (List.getElem?_eq_some_iff.1 present).1
  cases action with
  | ask call => cases asks
  | openStream => cases asks
  | read inner =>
    cases inner with
    | copy other => cases asks
    | read other req =>
      by_cases same : other = index
      · subst same
        obtain rfl : req = request := by simpa [Action.requestTo?] using asks
        simp only [pairStep, step, Streams.answer?, present]
        exact ⟨rfl, List.getElem?_set_self within⟩
      · simp [Action.requestTo?, same] at asks

/-! ## What a session does -/

/-- The questions of a session are answered as if there were no streams. -/
theorem asked_run (session : Session) (actions : List Action) :
    Machine.chosen Action.call? actions (session.run tables actions).1 =
        (session.response.askAll tables (actions.filterMap Action.call?)).1.map asked ∧
      (session.run tables actions).2.response =
        (session.response.askAll tables (actions.filterMap Action.call?)).2 := by
  rw [run_eq_run, Response.askAll_eq_run]
  refine Machine.run_chosen (fun (session : Session) r => session.response = r) ?_ ?_ rfl actions
  · rintro session r action call asks rfl
    rw [step_of_call session asks]
    exact ⟨rfl, rfl⟩
  · rintro session r action apart rfl
    exact response_step_of_none session action apart

/-- The requests to one stream of a session are answered as if there were nothing else. -/
theorem given_run {session : Session} {index : Nat} {s : Stream} {c : Cursor}
    (present : session.streams[index]? = some s) (here : s.At c) (actions : List Action) :
    let reader := Machine.run Cursor.answer c (actions.filterMap (Action.requestTo? index))
    Machine.chosen (Action.requestTo? index) actions (session.run tables actions).1 = reader.1.map given ∧
      ∃ t, (session.run tables actions).2.streams[index]? = some t ∧ t.At reader.2 := by
  intro reader
  rw [run_eq_run]
  refine Machine.run_chosen (fun (session : Session) c => ∃ s, session.streams[index]? = some s ∧ s.At c)
    ?_ ?_ ⟨s, present, here⟩ actions
  · rintro session c action request asks ⟨s, present, here⟩
    obtain ⟨reaction, moved⟩ := step_of_request present asks
    obtain ⟨same, there⟩ := here.answer request
    exact ⟨by rw [reaction, same], _, moved, there⟩
  · rintro session c action apart ⟨s, present, here⟩
    exact ⟨s, stream_step_of_none present apart, here⟩

theorem getChunks_run (session : Session) (actions : List Action) :
    (session.run tables actions).2.response.getChunks = session.response.getChunks := by
  rw [(asked_run session actions).2, Response.getChunks_askAll]

theorem text_run_of_some {session : Session} {text : Text} (kept : session.response.text = some text)
    (actions : List Action) : (session.run tables actions).2.response.text = some text := by
  rw [(asked_run session actions).2, Response.text_askAll, kept, Option.some_or]

/-- No question about the text has been answered with one. -/
def NoTextShown (tables : EastAsian.Tables) (session : Session) (actions : List Action) : Prop :=
  ∀ (i : Nat) (call : Call) (requested : Option Text),
    actions[i]? = some (.ask call) → call.requested? = some requested →
      ∃ e, (session.run tables actions).1[i]?.map Prod.fst = some (.asked (.error e))

theorem noTextShown_cons (session : Session) (action : Action) (rest : List Action) :
    session.NoTextShown tables (action :: rest) ↔
      (∀ call requested, action = .ask call → call.requested? = some requested →
        ∃ e, (session.response.ask tables call).answer = .error e) ∧
      (session.step tables action).2.2.NoTextShown tables rest := by
  constructor
  · intro silent
    constructor
    · rintro call requested rfl asks
      obtain ⟨e, reaction⟩ := silent 0 call requested rfl asks
      exact ⟨e, (Reaction.asked.inj (Option.some.inj reaction))⟩
    · intro i call requested found asks
      exact silent (i + 1) call requested found asks
  · rintro ⟨first, others⟩ i call requested found asks
    cases i with
    | zero =>
      obtain rfl := Option.some.inj found
      obtain ⟨e, fails⟩ := first call requested rfl asks
      exact ⟨e, congrArg (fun answer => some (Reaction.asked answer)) fails⟩
    | succ i => exact others i call requested found asks

theorem text_step_eq_none_iff {session : Session} (empty : session.response.text = none) (action : Action) :
    (session.step tables action).2.2.response.text = none ↔
      ∀ call requested, action = .ask call → call.requested? = some requested →
        ∃ e, (session.response.ask tables call).answer = .error e := by
  cases action with
  | ask call =>
    refine (Response.text_ask_eq_none_iff empty call).trans ⟨?_, ?_⟩
    · intro silent other requested same asks
      cases same
      exact silent requested asks
    · intro silent requested asks
      exact silent call requested rfl asks
  | openStream =>
    rw [response_step_of_none session .openStream rfl]
    exact ⟨fun _ call requested other => (by cases other), fun _ => empty⟩
  | read request =>
    rw [response_step_of_none session (.read request) rfl]
    exact ⟨fun _ call requested other => (by cases other), fun _ => empty⟩

/-- A text is kept exactly if a question about the text has been answered with one. -/
theorem text_run_eq_none_iff {session : Session} (empty : session.response.text = none) (actions : List Action) :
    (session.run tables actions).2.response.text = none ↔ session.NoTextShown tables actions := by
  induction actions generalizing session with
  | nil =>
    refine ⟨fun _ => ?_, fun _ => empty⟩
    intro i call requested found
    cases found
  | cons action rest ih =>
    have first := @text_step_eq_none_iff tables _ empty action
    rw [noTextShown_cons, ← first]
    show ((session.step tables action).2.2.run tables rest).2.response.text = none ↔ _
    cases next : (session.step tables action).2.2.response.text with
    | none =>
      rw [ih next]
      exact ⟨fun others => ⟨rfl, others⟩, And.right⟩
    | some text =>
      rw [text_run_of_some next rest]
      exact ⟨fun none => (by cases none), fun both => both.1⟩

/-- A new stream is the last of the session, at the first of the bytes that are streamed now. -/
theorem step_openStream {session : Session} {chunks : List Chunk} (body : session.response.getChunks = .ok chunks) :
    ∃ s, (session.pairStep tables .openStream).1.1 = .opened (.ok session.streams.length) ∧
      (session.pairStep tables .openStream).2.streams = session.streams ++ [s] ∧
      s.At (.ofBytes (session.response.streamed chunks)) := by
  obtain ⟨s, answer, start⟩ := Response.bodyStream_at body
  refine ⟨s, ?_, ?_, start⟩
  · simp only [pairStep, step, answer]
  · simp only [pairStep, step, answer]

/-- Whatever stands in the tables, over every run of a session a stream is bound when it is opened:
    to the chunks if no text has been shown by then, and to the text in the default charset otherwise.
    Its own requests alone decide what it answers, as a cursor over these bytes does, and granted
    requests that skip nothing hand over exactly these bytes. The response answers, and is left, as if
    there were no streams. -/
theorem stream_bound_when_opened (tables : EastAsian.Tables) (status : Option Status) (headers : Option Headers)
    {chunks : List Chunk} (body : chunks ≠ []) (before after : List Action) :
    let start : Session := ⟨.received status headers (some chunks), []⟩
    let opened := (start.run tables before).2
    let index := opened.streams.length
    let content := opened.response.streamed chunks
    let whole := start.run tables (before ++ .openStream :: after)
    let requests := after.filterMap (Action.requestTo? index)
    let reader := Machine.run Cursor.answer (.ofBytes content) requests
    (opened.response.text = none ↔ start.NoTextShown tables before) ∧
    (∃ s, opened.response.bodyStream.answer = .ok s ∧ s.left = content ∧ s.size = content.length) ∧
    whole.1[before.length]?.map Prod.fst = some (.opened (.ok index)) ∧
    Machine.chosen (Action.requestTo? index) after (whole.1.drop (before.length + 1)) = reader.1.map given ∧
    (∃ s, whole.2.streams[index]? = some s ∧ s.left = reader.2.left ∧ s.size = content.length) ∧
    ((∀ request ∈ requests, request.Whole) → (∀ reply ∈ reader.1, ∃ granted, reply = .ok granted) →
      Stream.handedIn reader.1 ++ reader.2.left = content) ∧
    ∀ actions,
      Machine.chosen Action.call? actions (start.run tables actions).1 =
          (start.response.askAll tables (actions.filterMap Action.call?)).1.map asked ∧
        (start.run tables actions).2.response = (start.response.askAll tables (actions.filterMap Action.call?)).2 := by
  intro start opened index content whole requests reader
  have received : start.response.getChunks = .ok chunks := Response.getChunks_received status headers body
  have bodyNow : opened.response.getChunks = .ok chunks := (getChunks_run start before).trans received
  obtain ⟨s, reaction, streams, first⟩ := step_openStream bodyNow
  have present : (opened.pairStep tables .openStream).2.streams[index]? = some s := by
    rw [streams]
    exact List.getElem?_concat_length
  obtain ⟨answers, t, last, there⟩ := given_run present first after
  have parts : whole = ((start.run tables before).1 ++ (opened.pairStep tables .openStream).1 ::
      ((opened.pairStep tables .openStream).2.run tables after).1,
        ((opened.pairStep tables .openStream).2.run tables after).2) := by
    simp only [whole, opened, run_eq_run]
    rw [Machine.run_append, Machine.run_cons]
  have count : (start.run tables before).1.length = before.length := by
    rw [run_eq_run, Machine.length_run]
  refine ⟨text_run_eq_none_iff rfl before, ?_, ?_, ?_, ⟨t, ?_, there.left, ?_⟩, ?_, ?_⟩
  · obtain ⟨u, answer, fresh⟩ := Response.bodyStream_at bodyNow
    exact ⟨u, answer, fresh.left, fresh.size⟩
  · rw [parts, ← count, List.getElem?_append_right (Nat.le_refl _), Nat.sub_self, List.getElem?_cons_zero,
      Option.map_some, reaction]
  · rw [parts, ← count, List.drop_length_add_append]
    exact answers
  · rw [parts]
    exact last
  · rw [there.size, Cursor.content_run]
    rfl
  · exact fun skipless granted => Cursor.handed_run _ skipless granted
  · exact asked_run start

/-- A stream opened after a body in Shift_JIS was decoded yields its text in the default charset, in
    which its first character is written as a reference. -/
theorem second_stream_bound_to_text :
    let tables := EastAsian.Tables.onlyA
    let chunks : List Chunk := [[0x82, 0xA0], [0x21]]
    let start : Session := ⟨.received none (some {}) (some chunks), []⟩
    let before : List Action := [.openStream, .ask (.body (some "shift_jis".toList))]
    let after : List Action := [.read (.read 0 .byte), .read (.read 1 .toEnd), .ask .cookies,
      .read (.read 1 .byte)]
    chunks ≠ [] ∧
      Machine.chosen (Action.requestTo? 1) after ((start.run tables (before ++ .openStream :: after)).1.drop 3) =
        [given (.ok (.bytes (Utf8.encode "&#12354;!".toList))), given (.ok (.byte none))] := by
  intro tables chunks start before after
  have body : chunks ≠ [] := by decide
  have index : (start.run tables before).2.streams.length = 1 := by decide +kernel
  have kept : (start.run tables before).2.response.text = some ['あ', '!'] := by decide +kernel
  have content : (start.run tables before).2.response.streamed chunks = Utf8.encode "&#12354;!".toList := by
    rw [Response.streamed, kept]
    decide +kernel
  refine ⟨body, ?_⟩
  obtain ⟨-, -, -, answers, -⟩ := stream_bound_when_opened tables none (some {}) body before after
  rw [index, content] at answers
  exact answers

end Session

end HttpReply
