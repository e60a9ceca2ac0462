import HttpReply.Proofs.ChunkDecoding
import HttpReply.Proofs.TextCell
import HttpReply.Proofs.TextSlices

/-!
# Excerpts

An excerpt of a body is the front of its text, up to a number of characters, however many bytes each
of them takes. Apart from that it is the whole text: in every state of a response it fails when
and as the text does, and leaves the response as the text does. Even an empty
excerpt decodes all chunks.
-/
namespace HttpReply

namespace Text

/-- The front is the first characters of the text, as many as the limit allows. In UTF-8 it is the first bytes
    of the text, up to an offset where the text can be cut. -/
structure IsFront (limit : Nat) (text front : Text) : Prop where
  count : front.length = min limit text.length
  characters : front <+: text
  bytes : Utf8.encode front <+: Utf8.encode text
  slice : slice? text 0 (Utf8.encode front).length = some front

theorem length_utf8_encode (t : Text) : (Utf8.encode t).length = byteLength t := by
  induction t with
  | nil => rfl
  | cons c rest ih =>
    rw [Utf8.encode, List.flatMap_cons, ← Utf8.encode, List.length_append, String.length_utf8EncodeChar, ih, byteLength]

theorem isFront_iff {limit : Nat} {text front : Text} : IsFront limit text front ↔ text.take limit = front := by
  constructor
  · rintro ⟨count, characters, -, -⟩
    rw [List.prefix_iff_eq_take.1 characters, count, List.take_eq_take_iff, Nat.min_assoc, Nat.min_self]
  · rintro rfl
    have whole : text.take limit ++ text.drop limit = text := List.take_append_drop limit text
    refine ⟨List.length_take, List.take_prefix limit text, ?_, ?_⟩
    · refine ⟨Utf8.encode (text.drop limit), ?_⟩
      rw [Utf8.encode, Utf8.encode, ← List.flatMap_append, whole, Utf8.encode]
    · have cut := slice?_append [] (text.take limit) (text.drop limit)
      rw [List.nil_append, whole] at cut
      rw [length_utf8_encode]
      simpa [byteLength] using cut

theorem takeBySlice_eq_some_iff {limit : Nat} {text front : Text} :
    takeBySlice limit text = some front ↔ IsFront limit text front := by
  rw [takeBySlice_eq, Option.some.injEq, isFront_iff]

/-- The front of a front is one of the text, up to the lesser limit. -/
theorem isFront_of_isFront {m n : Nat} {text front shorter : Text} (first : IsFront m text front) :
    IsFront n front shorter ↔ IsFront (min m n) text shorter := by
  rw [isFront_iff] at first
  rw [isFront_iff, isFront_iff, ← first, List.take_take, Nat.min_comm]

end Text

namespace Response

variable {tables : EastAsian.Tables}

/-- One outcome shows a front of the text that the other shows, and is otherwise the same. -/
structure ShowsFront (limit : Nat) (full part : Outcome Text) : Prop where
  after : part.after = full.after
  events : part.events = full.events
  error : ∀ e, part.answer = .error e ↔ full.answer = .error e
  front : ∀ text, full.answer = .ok text →
    full.after.text = some text ∧ ∃ front, part.answer = .ok front ∧ Text.IsFront limit text front

/-- A text that is shown is kept afterwards. -/
theorem text_after_bodyText {r : Response} {requested : Option Text} {text : Text}
    (shown : (r.bodyText tables requested).answer = .ok text) :
    (r.bodyText tables requested).after.text = some text := by
  cases kept : r.text with
  | none =>
    obtain ⟨answer, after⟩ := @bodyText_of_none tables r kept requested
    rw [answer] at shown
    rw [after, shown]
    rfl
  | some other =>
    rw [after_bodyText_of_some kept requested, kept]
    unfold bodyText at shown
    cases content : r.contentType with
    | error e => rw [content] at shown; cases shown
    | ok contentType =>
      cases body : r.getChunks with
      | error e => rw [content, body] at shown; cases shown
      | ok chunks =>
        rw [content, body, kept] at shown
        exact congrArg some (Except.ok.inj shown)

theorem excerpt_showsFront (r : Response) (requested : Option Text) (limit : Nat) :
    ShowsFront limit (r.bodyText tables requested) (r.excerpt tables requested limit) where
  after := rfl
  events := rfl
  error e := by
    rw [excerpt, Outcome.map_answer]
    cases (r.bodyText tables requested).answer <;> simp [Except.map]
  front text shown := by
    refine ⟨text_after_bodyText shown, text.take limit, ?_, Text.isFront_iff.2 rfl⟩
    rw [excerpt, Outcome.map_answer, shown]
    rfl

/-- Whatever stands in the tables and whatever a response was asked before, an excerpt shows the front of the
    text that would be shown, or fails as it would, and leaves the response as it would. So while no text is
    kept an excerpt of any length, even an empty one, takes all chunks: the text of all of them is kept, and
    one that cannot be decoded makes it fail, however late it comes. The front is what is cut off at the offset
    of the first character beyond the limit, and fronts of fronts are fronts. -/
theorem excerpt_is_front_of_body (tables : EastAsian.Tables) :
    (∀ (r : Response) (requested : Option Text) (limit : Nat),
      ShowsFront limit (r.bodyText tables requested) (r.excerpt tables requested limit) ∧
      ∀ contentType chunks result, r.contentType = .ok contentType → r.getChunks = .ok chunks → r.text = none →
        Body.Result tables (CharsetChoice.make contentType requested).label chunks result →
          (r.excerpt tables requested limit).after.text = result.toOption ∧
          (∀ e, result = .error e →
            (r.excerpt tables requested limit).answer = .error e ∧ (r.excerpt tables requested limit).after = r) ∧
          ∀ text, result = .ok text →
            ∃ front, (r.excerpt tables requested limit).answer = .ok front ∧ Text.IsFront limit text front) ∧
    (∀ limit text front, Text.takeBySlice limit text = some front ↔ Text.IsFront limit text front) ∧
    ∀ m n text front shorter, Text.IsFront m text front →
      (Text.IsFront n front shorter ↔ Text.IsFront (min m n) text shorter) := by
  refine ⟨fun r requested limit => ?_, fun _ _ _ => Text.takeBySlice_eq_some_iff,
    fun _ _ _ _ _ => Text.isFront_of_isFront⟩
  have shows : ShowsFront limit (r.bodyText tables requested) (r.excerpt tables requested limit) :=
    excerpt_showsFront r requested limit
  refine ⟨shows, ?_⟩
  intro contentType chunks result content body empty made
  obtain ⟨answer, after⟩ := @bodyText_of_none tables r empty requested
  have fresh : r.freshText tables requested = result := by
    simp only [freshText, content, body]
    exact Body.decodeBy_eq_iff.2 made
  rw [fresh] at answer after
  refine ⟨?_, ?_, ?_⟩
  · rw [shows.after, after]
  · rintro e rfl
    refine ⟨(shows.error e).2 answer, ?_⟩
    rw [shows.after, after, Except.toOption, ← empty]
  · rintro text rfl
    exact (shows.front text answer).2

/-- An empty excerpt fails because of the last chunk. In Shift_JIS it is shown, and all of the text is kept. -/
theorem empty_excerpt_of_all_chunks :
    let tables := EastAsian.Tables.onlyA
    let chunks : List Chunk := [[0x41], [], [0x82, 0xA0]]
    let r := received none (some {}) (some chunks)
    let utf8 := some "utf-8".toList
    let shiftJis := some "shift_jis".toList
    r.contentType = .ok none ∧ r.getChunks = .ok chunks ∧ r.text = none ∧
      (r.excerpt tables utf8 0).answer = .error (.notText .utf8 [0x82, 0xA0]) ∧ (r.excerpt tables utf8 0).after = r ∧
      (r.excerpt tables shiftJis 0).after.text = some ['A', 'あ'] ∧
      Text.IsFront 3 "aé€😀".toList "aé€".toList ∧ Text.IsFront 2 "aé€😀".toList "aé".toList := by
  intro tables chunks r utf8 shiftJis
  have content : r.contentType = .ok none := rfl
  have body : r.getChunks = .ok chunks := rfl
  have empty : r.text = none := rfl
  have failed : Body.decodeBy tables "utf-8".toList chunks = .error (.notText .utf8 [0x82, 0xA0]) := by decide +kernel
  have decoded : Body.decodeBy tables "shift_jis".toList chunks = .ok ['A', 'あ'] := by decide +kernel
  obtain ⟨excerpts, cut, again⟩ := excerpt_is_front_of_body tables
  obtain ⟨-, fails, -⟩ := (excerpts r utf8 0).2 none chunks _ content body empty (Body.decodeBy_eq_iff.1 failed)
  obtain ⟨kept, -⟩ := (excerpts r shiftJis 0).2 none chunks _ content body empty (Body.decodeBy_eq_iff.1 decoded)
  have front : Text.IsFront 3 "aé€😀".toList "aé€".toList := (cut _ _ _).1 (by decide +kernel)
  have shorter : Text.IsFront 2 "aé€".toList "aé".toList := (cut _ _ _).1 (by decide +kernel)
  exact ⟨content, body, empty, (fails _ rfl).1, (fails _ rfl).2, kept, front, (again 3 2 _ _ _ front).1 shorter⟩

end Response

end HttpReply
