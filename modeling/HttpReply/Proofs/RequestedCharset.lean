import HttpReply.Proofs.Parts

/-!
# A charset that is asked for in vain

When the content type names a charset, the charset that a caller asks for has no influence: not
on the text, on a failure, on the streams or on what is reported. All questions about the text
then have one result.
-/
namespace HttpReply

/-- The question without the charset that it comes with. -/
def Call.withoutCharset : Call → Call
  | .body _ => .body none
  | .excerpt _ limit => .excerpt none limit
  | call => call

/-- The action without the charset that it comes with. -/
def Session.Action.withoutCharset : Action → Action
  | .ask call => .ask call.withoutCharset
  | action => action

namespace Response

variable {tables : EastAsian.Tables}

/-- The first content type of the response names a charset. -/
def NamesCharset (r : Response) : Prop :=
  ∃ contentType label, r.contentType = .ok (some contentType) ∧ ContentType.charset? contentType = some label

theorem bodyText_of_named {r : Response} (named : r.NamesCharset) (requested other : Option Text) :
    r.bodyText tables requested = r.bodyText tables other := by
  obtain ⟨contentType, label, content, found⟩ := named
  have bound : (some contentType).bind ContentType.charset? = some label := found
  have choice := CharsetChoice.make_of_contentType bound
  simp only [bodyText, content, choice]

theorem ask_withoutCharset {r : Response} (named : r.NamesCharset) (call : Call) :
    r.ask tables call.withoutCharset = r.ask tables call := by
  cases call with
  | body requested => exact congrArg (Outcome.map Answer.text) (bodyText_of_named named none requested)
  | excerpt requested limit =>
    simp only [Call.withoutCharset, ask, excerpt, bodyText_of_named named none requested]
  | _ => rfl

theorem namesCharset_ask {r : Response} (named : r.NamesCharset) (call : Call) :
    (r.ask tables call).after.NamesCharset := by
  obtain ⟨contentType, label, content, found⟩ := named
  have same : (r.ask tables call).after.contentType = r.contentType :=
    (congrArg Response.contentType (asReceived_ask r call) :)
  exact ⟨contentType, label, same.trans content, found⟩

/-- The text that a question about it works out is what the next one gets, and so is a failure. -/
theorem answer_bodyText_again (r : Response) (requested : Option Text) :
    ((r.bodyText tables requested).after.bodyText tables requested).answer = (r.bodyText tables requested).answer := by
  cases kept : r.text with
  | some text => rw [after_bodyText_of_some kept requested]
  | none =>
    obtain ⟨answer, after⟩ := bodyText_of_none kept requested
    cases fresh : r.freshText tables requested with
    | error e =>
      have same : (r.bodyText tables requested).after = r := by
        rw [after, fresh, Except.toOption, ← kept]
      rw [same]
    | ok text =>
      obtain ⟨⟨contentType, content⟩, chunks, body⟩ := received_of_freshText fresh
      have now : ({ r with text := some text } : Response).text = some text := rfl
      rw [after, answer, fresh]
      exact answer_bodyText_of_some now content body requested

theorem answer_bodyText_ask {r : Response} (named : r.NamesCharset) (call : Call) :
    ((r.ask tables call).after.bodyText tables none).answer = (r.bodyText tables none).answer := by
  cases asks : call.requested? with
  | none => exact (bodyText_alike (alike_body_ask asks r) none).1
  | some requested =>
    rw [(ask_text r asks).2, bodyText_of_named named requested none]
    exact answer_bodyText_again r none

end Response

namespace Session

variable {tables : EastAsian.Tables}

theorem step_withoutCharset {session : Session} (named : session.response.NamesCharset) (action : Action) :
    session.step tables action.withoutCharset = session.step tables action := by
  cases action with
  | ask call => simp only [Action.withoutCharset, step, Response.ask_withoutCharset named]
  | openStream => rfl
  | read request => rfl

/-- The response after an action is the one after the question that it asks, or the same. -/
theorem response_step (session : Session) (action : Action) :
    (∃ call, (session.step tables action).2.2.response = (session.response.ask tables call).after) ∨
      (session.step tables action).2.2.response = session.response := by
  cases action with
  | ask call => exact .inl ⟨call, rfl⟩
  | openStream => exact .inr (response_step_of_none session .openStream rfl)
  | read request => exact .inr (response_step_of_none session (.read request) rfl)

/-- A charset is named, and the question for the whole text gets the result. -/
def Settled (tables : EastAsian.Tables) (result : Except Error Text) (session : Session) : Prop :=
  session.response.NamesCharset ∧ (session.response.bodyText tables none).answer = result

theorem settled_step {result : Except Error Text} {session : Session} (settled : Settled tables result session)
    (action : Action) : Settled tables result (session.step tables action).2.2 := by
  obtain ⟨named, same⟩ := settled
  rcases response_step session action with ⟨call, after⟩ | after
  · rw [Settled, after, Response.answer_bodyText_ask named]
    exact ⟨Response.namesCharset_ask named call, same⟩
  · rw [Settled, after]
    exact ⟨named, same⟩

theorem run_withoutCharset {session : Session} (named : session.response.NamesCharset) (actions : List Action) :
    session.run tables (actions.map Action.withoutCharset) = session.run tables actions := by
  induction actions generalizing session with
  | nil => rfl
  | cons action rest ih =>
    have next : (session.step tables action).2.2.response.NamesCharset := (settled_step ⟨named, rfl⟩ action).1
    simp only [List.map_cons, run, step_withoutCharset named, ih next]

theorem settled_run {result : Except Error Text} {session : Session} (settled : Settled tables result session)
    (actions : List Action) : Settled tables result (session.run tables actions).2 := by
  have keeps (s : Session) (action : Action) (before : Settled tables result s) :
      Settled tables result (s.pairStep tables action).2 := settled_step before action
  rw [run_eq_run]
  exact Machine.run_keeps (Settled tables result) keeps settled actions

/-- While a result is settled, every question about the text gets it. -/
theorem reaction_of_settled {result : Except Error Text} {session : Session} (settled : Settled tables result session)
    {actions : List Action} {i : Nat} {call : Call} {requested : Option Text} (found : actions[i]? = some (.ask call))
    (asks : call.requested? = some requested) :
    (session.run tables actions).1[i]?.map Prod.fst =
      some (.asked (result.map fun text => .text (call.shown text))) := by
  obtain ⟨named, same⟩ := settled_run settled (actions.take i)
  have answer := (@Response.ask_text tables (session.run tables (actions.take i)).2.response _ _ asks).1
  rw [Response.bodyText_of_named named requested none, same] at answer
  rw [run_eq_run, Machine.output_at (pairStep tables) session found, ← run_eq_run, Option.map_some, ← answer]
  rfl

/-- Whatever stands in the tables, once the content type names a charset, actions that differ only in the
    charsets that come with questions lead to the same answers, reports and streams. All questions about
    the text show the same text then, or all fail for the same reason. -/
theorem requested_charset_without_influence (tables : EastAsian.Tables) {session : Session}
    (named : session.response.NamesCharset) :
    (∀ actions others : List Action, actions.map Action.withoutCharset = others.map Action.withoutCharset →
      session.run tables actions = session.run tables others) ∧
    ∀ actions : List Action,
      (∃ text, ∀ (i : Nat) (call : Call) (requested : Option Text),
        actions[i]? = some (.ask call) → call.requested? = some requested →
          (session.run tables actions).1[i]?.map Prod.fst = some (.asked (.ok (.text (call.shown text))))) ∨
      ∃ e, ∀ (i : Nat) (call : Call) (requested : Option Text),
        actions[i]? = some (.ask call) → call.requested? = some requested →
          (session.run tables actions).1[i]?.map Prod.fst = some (.asked (.error e)) := by
  refine ⟨?_, ?_⟩
  · intro actions others same
    rw [← run_withoutCharset named actions, same, run_withoutCharset named others]
  · intro actions
    cases result : (session.response.bodyText tables none).answer with
    | ok text =>
      refine .inl ⟨text, fun i call requested found asks => ?_⟩
      exact reaction_of_settled ⟨named, result⟩ found asks
    | error e =>
      refine .inr ⟨e, fun i call requested found asks => ?_⟩
      exact reaction_of_settled ⟨named, result⟩ found asks

/-- Shift_JIS is named, which decodes the chunks; of the charsets that are asked for one fails on the
    first chunk and one gives another text. -/
theorem named_charset_decodes_alike :
    let tables := EastAsian.Tables.onlyA
    let headers : Headers := ⟨[⟨"CONTENT-TYPE".toList, "text/plain; charset=shift_jis".toList⟩]⟩
    let session : Session := ⟨.received none (some headers) (some [[0x82, 0xA0], [0x42]]), []⟩
    let actions : List Action := [.ask (.body (some "koi8-r".toList)), .openStream, .ask .cookies,
      .ask (.excerpt none 1), .read (.read 0 .toEnd)]
    let others : List Action := [.ask (.body none), .openStream, .ask .cookies,
      .ask (.excerpt (some "utf-8".toList) 1), .read (.read 0 .toEnd)]
    session.response.NamesCharset ∧ actions.map Action.withoutCharset = others.map Action.withoutCharset ∧
      session.run tables actions = session.run tables others ∧
      (session.run tables actions).1[3]?.map Prod.fst = some (.asked (.ok (.text ['あ']))) := by
  intro tables headers session actions others
  have value : headers.value? Response.contentTypeName = some "text/plain; charset=shift_jis".toList := by
    decide +kernel
  have label : ContentType.charset? "text/plain; charset=shift_jis".toList = some "shift_jis".toList := by
    decide +kernel
  have named : session.response.NamesCharset := ⟨_, _, congrArg Except.ok value, label⟩
  have alike : actions.map Action.withoutCharset = others.map Action.withoutCharset := by decide
  have decoded : (session.response.bodyText tables none).answer.toOption = some ['あ', 'B'] := by decide +kernel
  obtain ⟨unchanged, settled⟩ := requested_charset_without_influence tables named
  refine ⟨named, alike, unchanged actions others alike, ?_⟩
  have attempt : actions[0]? = some (.ask (.body (some "koi8-r".toList))) := rfl
  cases answer : (session.response.bodyText tables none).answer with
  | error e => rw [answer] at decoded; cases decoded
  | ok given =>
    rw [answer] at decoded
    obtain rfl := Option.some.inj decoded
    have first := reaction_of_settled ⟨named, answer⟩ attempt rfl
    rcases settled actions with ⟨text, shown⟩ | ⟨e, fails⟩
    · have same := shown 0 _ _ attempt rfl
      rw [first] at same
      cases same
      exact shown 3 (.excerpt none 1) none rfl rfl
    · have other := fails 0 _ _ attempt rfl
      rw [first] at other
      cases other

end Session

end HttpReply
