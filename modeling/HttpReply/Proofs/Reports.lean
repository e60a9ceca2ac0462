import HttpReply.Proofs.CookieCell

/-!
# What is reported

The text of a body and the cookies are each kept in a cell, and only the filling of a cell is
reported as finished work. So over any run a decoding is reported at most once, with the first
question about the text that has an answer, and a reading of cookies likewise. Questions about
the text that fail report their choice of a charset alone, and those that come later nothing.
-/
namespace HttpReply

namespace Event

/-- The event reports a finished decoding. -/
def isDecoding (event : Event) : Bool := event.level == .debug && "decoded ".toList.isPrefixOf event.message

/-- The event reports a finished reading of cookies. -/
def isReading (event : Event) : Bool := event.level == .debug && "parsed ".toList.isPrefixOf event.message

@[simp] theorem isDecoding_bodyDecoded (byteCount chunkCount : Nat) (label : Text) :
    (bodyDecoded byteCount chunkCount label).isDecoding = true := rfl

@[simp] theorem isDecoding_cookiesRead (count : Nat) : (cookiesRead count).isDecoding = false := rfl

@[simp] theorem isReading_bodyDecoded (byteCount chunkCount : Nat) (label : Text) :
    (bodyDecoded byteCount chunkCount label).isReading = false := rfl

@[simp] theorem isReading_cookiesRead (count : Nat) : (cookiesRead count).isReading = true := rfl

/-- Only events that ask for attention report finished work. -/
theorem countP_of_trace {events : List Event} (quiet : ∀ event ∈ events, event.level = .trace) :
    events.countP isDecoding = 0 ∧ events.countP isReading = 0 := by
  simp only [List.countP_eq_zero]
  refine ⟨?_, ?_⟩
  · intro event member
    simp [isDecoding, quiet event member]
  · intro event member
    simp [isReading, quiet event member]

end Event

theorem CharsetChoice.level_of_mem_events {choice : CharsetChoice} {event : Event} (member : event ∈ choice.events) :
    event.level = .trace := by
  cases choice with
  | fromContentType label => rw [List.mem_singleton.1 member]; rfl
  | fromCaller label => rw [List.mem_singleton.1 member]; rfl
  | byDefault => cases member

namespace Response

variable {tables : EastAsian.Tables}

/-! ## What one question reports -/

theorem events_bodyText_of_some {r : Response} {text : Text} (kept : r.text = some text) (requested : Option Text) :
    (r.bodyText tables requested).events = [] := by
  unfold bodyText
  cases r.contentType with
  | error e => rfl
  | ok contentType =>
    cases r.getChunks with
    | error e => rfl
    | ok chunks => simp only [kept, known]

/-- A body that is decoded now is reported after the choice of its charset, and a failure is not. -/
theorem events_bodyText_of_none {r : Response} (empty : r.text = none) {contentType : Option Text}
    (headers : r.contentType = .ok contentType) {chunks : List Chunk} (body : r.getChunks = .ok chunks)
    (requested : Option Text) :
    let choice := CharsetChoice.make contentType requested
    (r.bodyText tables requested).events = choice.events ++
      if (r.bodyText tables requested).after.text.isSome then
        [.bodyDecoded chunks.flatten.length chunks.length choice.label]
      else [] := by
  intro choice
  simp only [bodyText, headers, body, empty, decodeBody, choice]
  cases Body.decodeBy tables (CharsetChoice.make contentType requested).label chunks with
  | error e => simp [empty]
  | ok text => simp [Body.byteCount_eq]

theorem events_bodyText_of_missing {r : Response} (requested : Option Text) {e : Error}
    (missing : r.contentType = .error e ∨ r.getChunks = .error e) : (r.bodyText tables requested).events = [] := by
  unfold bodyText
  cases content : r.contentType with
  | error e => rfl
  | ok contentType =>
    cases body : r.getChunks with
    | error e => rfl
    | ok chunks =>
      rw [content, body] at missing
      rcases missing with missing | missing <;> cases missing

/-- Decoding is reported exactly when the text is kept that was not kept before. -/
theorem countP_bodyText (r : Response) (requested : Option Text) :
    (r.bodyText tables requested).events.countP Event.isDecoding =
        (if r.text.isSome = false ∧ (r.bodyText tables requested).after.text.isSome = true then 1 else 0) ∧
      (r.bodyText tables requested).events.countP Event.isReading = 0 := by
  cases kept : r.text with
  | some text =>
    rw [events_bodyText_of_some kept]
    exact ⟨rfl, rfl⟩
  | none =>
    cases content : r.contentType with
    | error e =>
      rw [events_bodyText_of_missing requested (.inl content)]
      simp [bodyText, content, known, kept]
    | ok contentType =>
      cases body : r.getChunks with
      | error e =>
        rw [events_bodyText_of_missing requested (.inr body)]
        simp [bodyText, content, body, known, kept]
      | ok chunks =>
        have quiet : ∀ event ∈ (CharsetChoice.make contentType requested).events, event.level = .trace :=
          fun event => CharsetChoice.level_of_mem_events
        obtain ⟨decoding, reading⟩ := Event.countP_of_trace quiet
        rw [events_bodyText_of_none kept content body, List.countP_append, List.countP_append, decoding, reading]
        split <;> simp_all

/-- Reading cookies is reported exactly when they are kept that were not kept before. -/
theorem countP_cookieList (r : Response) :
    r.cookieList.events.countP Event.isReading =
        (if r.cookies.isSome = false ∧ r.cookieList.after.cookies.isSome = true then 1 else 0) ∧
      r.cookieList.events.countP Event.isDecoding = 0 := by
  cases kept : r.cookies with
  | some cookies =>
    rw [(after_cookieList_of_some kept).2]
    exact ⟨rfl, rfl⟩
  | none =>
    obtain ⟨-, events, after⟩ := cookieList_of_none kept
    rw [events, after]
    cases r.freshCookies <;> simp [Cookie.events, Except.toOption]

theorem events_ask_text (r : Response) {call : Call} {requested : Option Text}
    (asks : call.requested? = some requested) :
    (r.ask tables call).events = (r.bodyText tables requested).events := by
  cases call with
  | body charset => cases asks; rfl
  | excerpt charset limit => cases asks; rfl
  | _ => cases asks

theorem events_bodyStream (r : Response) : ∀ event ∈ r.bodyStream.events, event.level = .trace := by
  unfold bodyStream
  cases r.getChunks with
  | error e => exact fun event member => (by cases member)
  | ok chunks => cases r.text <;> exact fun event member => (by rw [List.mem_singleton.1 member]; rfl)

/-! ## What a run reports -/

/-- Everything that is reported in a run. -/
def log (tables : EastAsian.Tables) (r : Response) (calls : List Call) : List Event :=
  (r.askAll tables calls).1.flatMap Prod.snd

end Response

/-- A cell of a response: some questions fill it, the first that has an answer, and only filling it is
    reported as finished work. -/
structure Cell (tables : EastAsian.Tables) where
  full : Response → Bool
  about : Call → Bool
  finished : Event → Bool
  stays : ∀ r call, full r = true → full (r.ask tables call).after = true
  fills : ∀ r call, full r = false →
    (full (r.ask tables call).after = true ↔ about call = true ∧ ∃ answer, (r.ask tables call).answer = .ok answer)
  marks : ∀ r call,
    (r.ask tables call).events.countP finished = if full r = false ∧ full (r.ask tables call).after = true then 1 else 0

namespace Cell

variable {tables : EastAsian.Tables} (cell : Cell tables) {r : Response}

/-- The cell of the text. -/
def text (tables : EastAsian.Tables) : Cell tables where
  full r := r.text.isSome
  about call := call.requested?.isSome
  finished := Event.isDecoding
  stays r call kept := by
    obtain ⟨text, kept⟩ := Option.isSome_iff_exists.1 kept
    exact Option.isSome_iff_exists.2 ⟨text, Response.text_ask_of_some kept call⟩
  fills r call empty := by
    rw [Option.isSome_eq_false_iff, Option.isNone_iff_eq_none] at empty
    rw [← Option.ne_none_iff_isSome, Ne, Response.text_ask_eq_none_iff empty call]
    cases call.requested? <;> cases (r.ask tables call).answer <;> simp
  marks r call := by
    cases asks : call.requested? with
    | some requested =>
      rw [Response.events_ask_text r asks, (Response.ask_text r asks).2]
      exact (r.countP_bodyText requested).1
    | none =>
      rw [Response.text_ask_of_other r asks, if_neg (by simp)]
      cases call with
      | body requested => cases asks
      | excerpt requested limit => cases asks
      | bodyStream => exact (Event.countP_of_trace r.events_bodyStream).1
      | cookies => exact r.countP_cookieList.2
      | _ => rfl

/-- The cell of the cookies. -/
def cookies (tables : EastAsian.Tables) : Cell tables where
  full r := r.cookies.isSome
  about call := call == .cookies
  finished := Event.isReading
  stays r call kept := by
    obtain ⟨cookies, kept⟩ := Option.isSome_iff_exists.1 kept
    rw [Response.cookies_ask, kept, Option.some_or]
    rfl
  fills r call empty := by
    rw [Option.isSome_eq_false_iff, Option.isNone_iff_eq_none] at empty
    rw [Response.cookies_ask, empty, Option.none_or]
    by_cases asks : call = .cookies
    · subst asks
      have answer : (r.ask tables .cookies).answer = r.freshCookies.map .cookies :=
        congrArg (Except.map Answer.cookies) (Response.cookieList_of_none empty).1
      rw [answer, if_pos rfl]
      cases r.freshCookies <;> simp [Except.toOption, Except.map]
    · simp [asks]
  marks r call := by
    by_cases asks : call = .cookies
    · subst asks
      exact r.countP_cookieList.1
    · rw [Response.cookies_ask_of_other r asks, if_neg (by simp)]
      cases call with
      | cookies => exact absurd rfl asks
      | body requested => exact (r.countP_bodyText requested).2
      | excerpt requested limit => exact (r.countP_bodyText requested).2
      | bodyStream => exact (Event.countP_of_trace r.events_bodyStream).2
      | _ => rfl

end Cell

namespace Response

end Response

end HttpReply
