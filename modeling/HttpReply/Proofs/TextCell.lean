import HttpReply.Proofs.Runs

/-!
# The text that is kept

A response works out the text of its body at most once. Asked in any order, the first
question about the text whose charset decodes all chunks fixes it, and from then on every
such question shows that text. Until then each question fails by itself and leaves nothing
behind.
-/
namespace HttpReply

/-- The charset that a question about the text comes with, if it is such a question. -/
def Call.requested? : Call → Option (Option Text)
  | .body requested => some requested
  | .excerpt requested _ => some requested
  | _ => none

/-- What a question about the text shows of it. -/
def Call.shown (text : Text) : Call → Text
  | .excerpt _ limit => text.take limit
  | _ => text

namespace Response

variable {tables : EastAsian.Tables}

/-- The response as it was when nothing had been asked yet. -/
def asReceived (r : Response) : Response := received r.status r.headers r.chunks

/-- The text of the body worked out afresh, whatever has been kept. -/
def freshText (tables : EastAsian.Tables) (r : Response) (requested : Option Text) : Except Error Text :=
  match r.contentType, r.getChunks with
  | .error e, _ => .error e
  | .ok _, .error e => .error e
  | .ok contentType, .ok chunks => Body.decodeBy tables (CharsetChoice.make contentType requested).label chunks

theorem freshText_asReceived (r : Response) : r.asReceived.freshText tables = r.freshText tables := rfl

theorem getChunks_received (status : Option Status) (headers : Option Headers) {chunks : List Chunk}
    (body : chunks ≠ []) : (received status headers (some chunks)).getChunks = .ok chunks := by
  cases chunks with
  | nil => exact absurd rfl body
  | cons chunk rest => rfl

theorem freshText_received (status : Option Status) (headers : Headers) {chunks : List Chunk} (body : chunks ≠ [])
    (requested : Option Text) :
    (received status (some headers) (some chunks)).freshText tables requested =
      Body.decodeBy tables (CharsetChoice.make (headers.value? contentTypeName) requested).label chunks := by
  have content : (received status (some headers) (some chunks)).contentType =
      .ok (headers.value? contentTypeName) := rfl
  simp only [freshText, content, getChunks_received status (some headers) body]

theorem received_of_freshText {r : Response} {requested : Option Text} {text : Text}
    (fresh : r.freshText tables requested = .ok text) :
    (∃ contentType, r.contentType = .ok contentType) ∧ ∃ chunks, r.getChunks = .ok chunks := by
  unfold freshText at fresh
  cases content : r.contentType with
  | error e => rw [content] at fresh; cases fresh
  | ok contentType =>
    cases body : r.getChunks with
    | error e => rw [content, body] at fresh; cases fresh
    | ok chunks => exact ⟨⟨contentType, rfl⟩, chunks, rfl⟩

/-! ## What one question does to the text -/

/-- While nothing is kept the text is worked out afresh, and kept if there is one. -/
theorem bodyText_of_none {r : Response} (empty : r.text = none) (requested : Option Text) :
    (r.bodyText tables requested).answer = r.freshText tables requested ∧
      (r.bodyText tables requested).after = { r with text := (r.freshText tables requested).toOption } := by
  have same : { r with text := none } = r := by
    rw [← empty]
  unfold bodyText freshText
  cases r.contentType with
  | error e => exact ⟨rfl, same.symm⟩
  | ok contentType =>
    cases r.getChunks with
    | error e => exact ⟨rfl, same.symm⟩
    | ok chunks =>
      simp only [empty, decodeBody]
      cases Body.decodeBy tables (CharsetChoice.make contentType requested).label chunks with
      | error e => exact ⟨rfl, same.symm⟩
      | ok text => exact ⟨rfl, rfl⟩

theorem after_bodyText_of_some {r : Response} {text : Text} (kept : r.text = some text)
    (requested : Option Text) : (r.bodyText tables requested).after = r := by
  unfold bodyText
  cases r.contentType with
  | error e => rfl
  | ok contentType =>
    cases r.getChunks with
    | error e => rfl
    | ok chunks => simp only [kept, known]

theorem answer_bodyText_of_some {r : Response} {text : Text} (kept : r.text = some text)
    {contentType : Option Text} (headers : r.contentType = .ok contentType)
    {chunks : List Chunk} (body : r.getChunks = .ok chunks) (requested : Option Text) :
    (r.bodyText tables requested).answer = .ok text := by
  simp only [bodyText, headers, body, kept, known]

/-- A question about the text shows what the text is, and has no other effect than working it out. -/
theorem ask_text (r : Response) {call : Call} {requested : Option Text} (asks : call.requested? = some requested) :
    (r.ask tables call).answer = (r.bodyText tables requested).answer.map (fun text => .text (call.shown text)) ∧
      (r.ask tables call).after = (r.bodyText tables requested).after := by
  cases call with
  | body charset =>
    obtain rfl : charset = requested := Option.some.inj asks
    exact ⟨rfl, rfl⟩
  | excerpt charset limit =>
    obtain rfl : charset = requested := Option.some.inj asks
    refine ⟨?_, rfl⟩
    show ((r.bodyText tables charset).answer.map fun text => text.take limit).map Answer.text = _
    cases (r.bodyText tables charset).answer <;> rfl
  | _ => cases asks

theorem after_bodyStream (r : Response) : r.bodyStream.after = r := by
  unfold bodyStream
  cases r.getChunks with
  | error e => rfl
  | ok chunks => cases r.text <;> rfl

theorem text_cookieList (r : Response) : r.cookieList.after.text = r.text := by
  unfold cookieList
  cases r.getHeaders with
  | error e => rfl
  | ok headers => cases r.cookies <;> rfl

theorem asReceived_cookieList (r : Response) : r.cookieList.after.asReceived = r.asReceived := by
  unfold cookieList
  cases r.getHeaders with
  | error e => rfl
  | ok headers => cases r.cookies <;> rfl

theorem asReceived_bodyText (r : Response) (requested : Option Text) :
    (r.bodyText tables requested).after.asReceived = r.asReceived := by
  cases kept : r.text with
  | none => rw [(bodyText_of_none kept requested).2]; rfl
  | some text => rw [after_bodyText_of_some kept requested]

theorem asReceived_ask (r : Response) (call : Call) : (r.ask tables call).after.asReceived = r.asReceived := by
  cases call with
  | cookies => exact asReceived_cookieList r
  | body requested => exact asReceived_bodyText r requested
  | excerpt requested limit => exact asReceived_bodyText r requested
  | bodyStream => exact congrArg asReceived (after_bodyStream r)
  | _ => rfl

theorem text_ask_of_other (r : Response) {call : Call} (other : call.requested? = none) :
    (r.ask tables call).after.text = r.text := by
  cases call with
  | cookies => exact text_cookieList r
  | body requested => cases other
  | excerpt requested limit => cases other
  | bodyStream => exact congrArg text (after_bodyStream r)
  | _ => rfl

/-- The text after a question: the one that was kept, or else what the question decodes. -/
theorem text_ask (r : Response) (call : Call) :
    (r.ask tables call).after.text =
      r.text.or (call.requested?.bind fun requested => (r.freshText tables requested).toOption) := by
  cases asks : call.requested? with
  | none => rw [text_ask_of_other r asks, Option.bind_none, Option.or_none]
  | some requested =>
    rw [(ask_text r asks).2, Option.bind_some]
    cases kept : r.text with
    | none => rw [(bodyText_of_none kept requested).2, Option.none_or]
    | some text => rw [after_bodyText_of_some kept requested, kept, Option.some_or]

/-- No question replaces or clears a text that is kept. -/
theorem text_ask_of_some {r : Response} {text : Text} (kept : r.text = some text) (call : Call) :
    (r.ask tables call).after.text = some text := by
  rw [text_ask, kept, Option.some_or]

/-- A question that fails leaves nothing behind that was not kept before. -/
theorem text_ask_of_error {r : Response} {call : Call} {e : Error} (fails : (r.ask tables call).answer = .error e) :
    (r.ask tables call).after.text = r.text := by
  cases asks : call.requested? with
  | none => exact text_ask_of_other r asks
  | some requested =>
    obtain ⟨answer, after⟩ := ask_text r asks
    cases kept : r.text with
    | some text => rw [after, after_bodyText_of_some kept requested, kept]
    | none =>
      obtain ⟨fresh, moved⟩ := bodyText_of_none kept requested
      rw [answer, fresh] at fails
      rw [after, moved]
      cases decoded : r.freshText tables requested with
      | error e' => rfl
      | ok text => rw [decoded] at fails; cases fails

/-- While nothing is kept, a question leaves nothing behind exactly if it is not about the text or fails. -/
theorem text_ask_eq_none_iff {r : Response} (empty : r.text = none) (call : Call) :
    (r.ask tables call).after.text = none ↔
      ∀ requested, call.requested? = some requested → ∃ e, (r.ask tables call).answer = .error e := by
  constructor
  · intro nothing requested asks
    rw [text_ask, empty, asks, Option.none_or, Option.bind_some] at nothing
    rw [(ask_text r asks).1, (bodyText_of_none empty requested).1]
    cases decoded : r.freshText tables requested with
    | error e => exact ⟨e, rfl⟩
    | ok text => rw [decoded] at nothing; cases nothing
  · intro fails
    cases asks : call.requested? with
    | none => rw [text_ask_of_other r asks, empty]
    | some requested =>
      obtain ⟨e, answer⟩ := fails requested asks
      rw [text_ask_of_error answer, empty]

/-! ## What a run does to the text -/

/-- The first text that the questions of a run decode, each in its own charset. -/
def firstText (fresh : Option Text → Except Error Text) (calls : List Call) : Option Text :=
  calls.findSome? fun call => call.requested?.bind fun requested => (fresh requested).toOption

theorem firstText_cons (fresh : Option Text → Except Error Text) (call : Call) (rest : List Call) :
    firstText fresh (call :: rest) =
      (call.requested?.bind fun requested => (fresh requested).toOption).or (firstText fresh rest) := by
  rw [firstText, List.findSome?_cons]
  cases call.requested?.bind fun requested => (fresh requested).toOption <;> rfl

theorem asReceived_askAll (r : Response) (calls : List Call) : (r.askAll tables calls).2.asReceived = r.asReceived := by
  rw [askAll_eq_run]
  refine Machine.run_keeps (fun s : Response => s.asReceived = r.asReceived) ?_ rfl calls
  intro s call same
  exact (asReceived_ask s call).trans same

theorem getChunks_askAll (r : Response) (calls : List Call) : (r.askAll tables calls).2.getChunks = r.getChunks :=
  (congrArg getChunks (asReceived_askAll r calls) :)

theorem contentType_askAll (r : Response) (calls : List Call) : (r.askAll tables calls).2.contentType = r.contentType :=
  (congrArg contentType (asReceived_askAll r calls) :)

theorem freshText_askAll (r : Response) (calls : List Call) :
    (r.askAll tables calls).2.freshText tables = r.freshText tables := by
  rw [← freshText_asReceived, asReceived_askAll, freshText_asReceived]

/-- The text after a run: the one that was kept before, or else the first that the run decodes. -/
theorem text_askAll (r : Response) (calls : List Call) :
    (r.askAll tables calls).2.text = r.text.or (firstText (r.freshText tables) calls) := by
  induction calls generalizing r with
  | nil => exact Option.or_none.symm
  | cons call rest ih =>
    have same : (r.ask tables call).after.freshText tables = r.freshText tables := freshText_askAll r [call]
    show ((r.ask tables call).after.askAll tables rest).2.text = _
    rw [ih, text_ask, same, firstText_cons, Option.or_assoc]

theorem firstText_eq_none_iff {fresh : Option Text → Except Error Text} {calls : List Call} :
    firstText fresh calls = none ↔
      ∀ call ∈ calls, ∀ requested, call.requested? = some requested → ∃ e, fresh requested = .error e := by
  rw [firstText, List.findSome?_eq_none_iff]
  refine forall_congr' fun call => imp_congr_right fun member => ?_
  cases call.requested? with
  | none => simp
  | some requested => cases decoded : fresh requested <;> simp [decoded, Except.toOption]

/-- A text that has been decoded is that of a first question: all before it fail. -/
theorem firstText_eq_some_iff {fresh : Option Text → Except Error Text} {calls : List Call} {text : Text} :
    firstText fresh calls = some text ↔
      ∃ first call requested, calls[first]? = some call ∧ call.requested? = some requested ∧
        fresh requested = .ok text ∧ firstText fresh (calls.take first) = none := by
  constructor
  · intro decoded
    obtain ⟨before, call, after, rfl, found, failing⟩ := List.findSome?_eq_some_iff.1 decoded
    obtain ⟨requested, asks, found⟩ := Option.bind_eq_some_iff.1 found
    refine ⟨before.length, call, requested, by simp, asks, ?_, ?_⟩
    · cases result : fresh requested with
      | error e => rw [result] at found; cases found
      | ok other => rw [result] at found; cases found; rfl
    · rw [List.take_left]
      exact List.findSome?_eq_none_iff.2 failing
  · rintro ⟨first, call, requested, found, asks, decoded, failing⟩
    obtain ⟨within, rfl⟩ := List.getElem?_eq_some_iff.1 found
    refine List.findSome?_eq_some_iff.2 ⟨calls.take first, calls[first], calls.drop (first + 1), ?_, ?_, ?_⟩
    · rw [← List.drop_eq_getElem_cons within, List.take_append_drop]
    · rw [asks, Option.bind_some, decoded]
      rfl
    · exact List.findSome?_eq_none_iff.1 failing

theorem answerAt_of_none {r : Response} (empty : r.text = none) {calls : List Call} {i : Nat} {call : Call}
    (found : calls[i]? = some call) {requested : Option Text} (asks : call.requested? = some requested)
    (failing : firstText (r.freshText tables) (calls.take i) = none) :
    r.answerAt tables calls i = some ((r.freshText tables requested).map fun text => .text (call.shown text)) := by
  have still : (r.askAll tables (calls.take i)).2.text = none := by
    rw [text_askAll, empty, failing, Option.or_none]
  rw [answerAt_eq r found, (ask_text _ asks).1, (bodyText_of_none still requested).1, freshText_askAll]

/-- Once a text has been decoded every question about the text shows it. -/
theorem answerAt_of_some {r : Response} (empty : r.text = none) {contentType : Option Text}
    (headers : r.contentType = .ok contentType) {chunks : List Chunk} (body : r.getChunks = .ok chunks)
    {calls : List Call} {i : Nat} {call : Call} (found : calls[i]? = some call) {requested : Option Text}
    (asks : call.requested? = some requested) {text : Text}
    (decoded : firstText (r.freshText tables) (calls.take (i + 1)) = some text) :
    r.answerAt tables calls i = some (.ok (.text (call.shown text))) := by
  cases earlier : firstText (r.freshText tables) (calls.take i) with
  | none =>
    -- The question itself is the first that decodes.
    rw [answerAt_of_none empty found asks earlier]
    obtain ⟨within, rfl⟩ := List.getElem?_eq_some_iff.1 found
    rw [List.take_add_one, found, Option.toList_some, firstText, List.findSome?_append] at decoded
    rw [firstText] at earlier
    rw [earlier, Option.none_or, List.findSome?_singleton, asks, Option.bind_some] at decoded
    cases fresh : r.freshText tables requested with
    | error e => rw [fresh] at decoded; cases decoded
    | ok other => rw [fresh] at decoded; cases decoded; rfl
  | some other =>
    have same : other = text := by
      rw [List.take_add_one, firstText, List.findSome?_append, ← firstText, earlier] at decoded
      exact Option.some.inj decoded
    subst same
    have kept : (r.askAll tables (calls.take i)).2.text = some other := by
      rw [text_askAll, empty, earlier, Option.none_or]
    have headers' : (r.askAll tables (calls.take i)).2.contentType = .ok contentType :=
      (contentType_askAll r (calls.take i)).trans headers
    have body' : (r.askAll tables (calls.take i)).2.getChunks = .ok chunks :=
      (getChunks_askAll r (calls.take i)).trans body
    rw [answerAt_eq r found, (ask_text _ asks).1, answer_bodyText_of_some kept headers' body' requested]
    rfl

/-- Each question about the text among the first `n` gets the error of decoding in its own charset. -/
def OwnErrors (tables : EastAsian.Tables) (decoded : Option Text → Except Error Text) (r : Response)
    (calls : List Call) (n : Nat) : Prop :=
  ∀ i call requested, i < n → calls[i]? = some call → call.requested? = some requested →
    ∃ e, decoded requested = .error e ∧ r.answerAt tables calls i = some (.error e)

/-- Each question about the text from number `n` on shows the same text, whatever its charset. -/
def ShownFrom (tables : EastAsian.Tables) (text : Text) (r : Response) (calls : List Call) (n : Nat) : Prop :=
  ∀ i call requested, n ≤ i → calls[i]? = some call → call.requested? = some requested →
    r.answerAt tables calls i = some (.ok (.text (call.shown text)))

theorem ownErrors_of_none {r : Response} (empty : r.text = none) {calls : List Call} {n : Nat}
    (failing : firstText (r.freshText tables) (calls.take n) = none) :
    OwnErrors tables (r.freshText tables) r calls n := by
  intro i call requested earlier found asks
  have member : ∀ other ∈ calls.take i, other ∈ calls.take n := fun other member =>
    (List.take_prefix_take_left (Nat.le_of_lt earlier)).mem member
  have before : firstText (r.freshText tables) (calls.take i) = none := by
    rw [firstText_eq_none_iff] at failing ⊢
    exact fun other inside => failing other (member other inside)
  have itself : call ∈ calls.take n := List.mem_of_getElem? ((List.getElem?_take_of_lt earlier).trans found)
  obtain ⟨e, fails⟩ := firstText_eq_none_iff.1 failing call itself requested asks
  refine ⟨e, fails, ?_⟩
  rw [answerAt_of_none empty found asks before, fails]
  rfl

theorem shownFrom_of_some {r : Response} (empty : r.text = none) {contentType : Option Text}
    (headers : r.contentType = .ok contentType) {chunks : List Chunk} (body : r.getChunks = .ok chunks)
    {calls : List Call} {first : Nat} {call : Call} (found : calls[first]? = some call) {requested : Option Text}
    (asks : call.requested? = some requested) {text : Text} (decodes : r.freshText tables requested = .ok text)
    (failing : firstText (r.freshText tables) (calls.take first) = none) : ShownFrom tables text r calls first := by
  intro i later asked from_ found' asks'
  have decoded : firstText (r.freshText tables) (calls.take (i + 1)) = some text := by
    refine firstText_eq_some_iff.2 ⟨first, call, requested, ?_, asks, decodes, ?_⟩
    · rw [List.getElem?_take_of_lt (by omega), found]
    · rw [List.take_take, Nat.min_eq_left (by omega), failing]
  exact answerAt_of_some empty headers body found' asks' decoded

/-- Whatever stands in the tables, over every run of questions to a response with headers and a body
    either each question about the text fails with the error of its own charset and no text is kept, or
    there is a first one that decodes: those before it fail by themselves, and from it on the text that
    it decoded is kept and shown. A text that is kept is never replaced or cleared, and a
    question that fails keeps nothing. -/
theorem text_kept_from_first_decoded (tables : EastAsian.Tables) (status : Option Status) (headers : Headers)
    {chunks : List Chunk} (body : chunks ≠ []) (calls : List Call) :
    let r := received status (some headers) (some chunks)
    let decoded := fun requested =>
      Body.decodeBy tables (CharsetChoice.make (headers.value? contentTypeName) requested).label chunks
    ((r.askAll tables calls).2.text = none ∧ OwnErrors tables decoded r calls calls.length ∨
      ∃ first call requested text, calls[first]? = some call ∧ call.requested? = some requested ∧
        decoded requested = .ok text ∧ (r.askAll tables calls).2.text = some text ∧
        OwnErrors tables decoded r calls first ∧ ShownFrom tables text r calls first) ∧
    (∀ (s : Response) (call : Call) (text : Text), s.text = some text → (s.ask tables call).after.text = some text) ∧
    ∀ (s : Response) (call : Call) (e : Error),
      (s.ask tables call).answer = .error e → (s.ask tables call).after.text = s.text := by
  intro r decoded
  have content : r.contentType = .ok (headers.value? contentTypeName) := rfl
  have bodyChunks : r.getChunks = .ok chunks := getChunks_received status (some headers) body
  have fresh : r.freshText tables = decoded := funext (freshText_received status headers body)
  refine ⟨?_, fun s call text kept => text_ask_of_some kept call, fun s call e fails => text_ask_of_error fails⟩
  rw [text_askAll, ← fresh]
  cases run : firstText (r.freshText tables) calls with
  | none =>
    refine .inl ⟨rfl, ownErrors_of_none rfl ?_⟩
    rwa [List.take_length]
  | some text =>
    obtain ⟨first, call, requested, found, asks, decodes, failing⟩ := firstText_eq_some_iff.1 run
    exact .inr ⟨first, call, requested, text, found, asks, decodes, rfl, ownErrors_of_none rfl failing,
      shownFrom_of_some rfl content bodyChunks found asks decodes failing⟩

/-- Two charsets fail on a body that Shift_JIS then decodes: one on its second chunk, one because
    nobody knows it. -/
theorem text_kept_from_shift_jis :
    let tables := EastAsian.Tables.onlyA
    let chunks : List Chunk := [[0x41], [0x82, 0xA0]]
    let r := received none (some {}) (some chunks)
    let calls : List Call := [.excerpt (some "utf-8".toList) 1, .cookies, .body (some "bogus".toList),
      .excerpt (some "shift_jis".toList) 1, .body none]
    chunks ≠ [] ∧ (r.askAll tables calls).2.text = some ['A', 'あ'] ∧
      r.answerAt tables calls 4 = some (.ok (.text ['A', 'あ'])) := by
  intro tables chunks r calls
  have body : chunks ≠ [] := by decide
  have evaluated : (r.askAll tables calls).2.text = some ['A', 'あ'] := by decide +kernel
  refine ⟨body, evaluated, ?_⟩
  obtain ⟨⟨empty, -⟩ | ⟨first, call, requested, text, found, -, -, kept, -, shown⟩, -, -⟩ :=
    text_kept_from_first_decoded tables none {} body calls
  · rw [evaluated] at empty
    cases empty
  · obtain rfl : ['A', 'あ'] = text := Option.some.inj (evaluated.symm.trans kept)
    have within : first < calls.length := (List.getElem?_eq_some_iff.1 found).1
    exact shown 4 (.body none) _ (Nat.le_of_lt_succ within) rfl rfl

end Response

end HttpReply
