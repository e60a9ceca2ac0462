import HttpReply.Proofs.Runs

/-!
# Streams as cursors

A cursor is a byte string and the number of its bytes that have been passed. However a
body is cut into chunks, a stream over them answers every run of requests as the cursor
over the whole body does, and so does each of its copies, at a place of its own.
-/
namespace HttpReply

/-- A byte string and how many of its bytes have been passed. -/
structure Cursor where
  content : Bytes
  place : Nat
deriving DecidableEq, Repr

namespace Cursor

def ofBytes (content : Bytes) : Cursor := ⟨content, 0⟩

/-- The bytes that have not been passed. -/
def left (c : Cursor) : Bytes := c.content.drop c.place

/-- The cursor `n` bytes further on, or at the end if there are fewer. -/
def pass (c : Cursor) (n : Nat) : Cursor := ⟨c.content, min (c.place + n) c.content.length⟩

def toEnd (c : Cursor) : Cursor := ⟨c.content, c.content.length⟩

/-- What a reader is given at a place of a byte string. -/
def answer (c : Cursor) : Stream.Request → Except Stream.Error Stream.Answer × Cursor
  | .byte => (.ok (.byte c.content[c.place]?), c.pass 1)
  | .nth n => (.ok (.byte c.content[c.place + n]?), c.pass (n + 1))
  | .into buffer =>
    let count := min buffer.length (c.content.length - c.place)
    (.ok (.filled count (c.left.take count ++ buffer.drop count)), c.pass count)
  | .exactly n =>
    if c.place + n ≤ c.content.length then (.ok (.bytes (c.left.take n)), c.pass n)
    else (.error .unexpectedEnd, c.toEnd)
  | .toEnd => (.ok (.bytes c.left), c.toEnd)
  | .toEndAsText =>
    match Utf8.decode? c.left with
    | some text => (.ok (.text text), c.toEnd)
    | none => (.error .invalidText, c.toEnd)
  | .size => (.ok (.size c.content.length), c)

theorem length_left (c : Cursor) : c.left.length = c.content.length - c.place := List.length_drop

theorem left_pass (c : Cursor) (n : Nat) : (c.pass n).left = c.left.drop n := by
  show c.content.drop (min (c.place + n) c.content.length) = (c.content.drop c.place).drop n
  rw [List.drop_drop]
  by_cases within : c.place + n ≤ c.content.length
  · rw [Nat.min_eq_left within]
  · rw [Nat.min_eq_right (by omega), List.drop_length, List.drop_eq_nil_of_le (by omega)]

theorem left_toEnd (c : Cursor) : c.toEnd.left = [] := List.drop_length

theorem content_answer (c : Cursor) (request : Stream.Request) : (c.answer request).2.content = c.content := by
  cases request with
  | exactly n => simp only [answer]; split <;> rfl
  | toEndAsText => simp only [answer]; split <;> rfl
  | _ => rfl

end Cursor

namespace Stream

/-- The stream is over the cursor's content and stands at the cursor's place. -/
structure At (s : Stream) (c : Cursor) : Prop where
  content : s.chunks.flatten = c.content
  left : s.left = c.left
  place : c.place ≤ c.content.length
  inside : s.InRange

theorem at_ofChunks (chunks : List Chunk) : (ofChunks chunks).At (.ofBytes chunks.flatten) where
  content := rfl
  left := by
    cases chunks with
    | nil => rfl
    | cons chunk rest => rfl
  place := Nat.zero_le _
  inside := inRange_ofChunks chunks

variable {s next : Stream} {c : Cursor}

theorem At.size (here : s.At c) : s.size = c.content.length := by
  rw [Stream.size, Body.byteCount_eq, here.content]

theorem At.pass (here : s.At c) (inside : next.InRange) {n : Nat} (chunks : next.chunks = s.chunks)
    (moved : next.left = s.left.drop n) : next.At (c.pass n) where
  content := by rw [chunks]; exact here.content
  left := by rw [moved, here.left, Cursor.left_pass]
  place := Nat.min_le_right _ _
  inside := inside

theorem At.toEnd (here : s.At c) (inside : next.InRange) (chunks : next.chunks = s.chunks)
    (finished : next.left = []) : next.At c.toEnd where
  content := by rw [chunks]; exact here.content
  left := by rw [finished, Cursor.left_toEnd]
  place := Nat.le_refl _
  inside := inside

/-! ## One request -/

theorem At.answer_byte (here : s.At c) :
    (s.answer .byte).1 = (c.answer .byte).1 ∧ (s.answer .byte).2.At (c.answer .byte).2 := by
  obtain ⟨first, rest⟩ := s.readByte_eq
  constructor
  · show Except.ok (Answer.byte s.readByte.1) = .ok (.byte c.content[c.place]?)
    rw [first, here.left, Cursor.left, List.head?_drop]
  · refine here.pass (inRange_readByte here.inside) (chunks_readByte s) ?_
    rw [List.drop_one]
    exact rest

theorem At.answer_nth (here : s.At c) (n : Nat) :
    (s.answer (.nth n)).1 = (c.answer (.nth n)).1 ∧ (s.answer (.nth n)).2.At (c.answer (.nth n)).2 := by
  obtain ⟨found, rest⟩ := s.readNth_eq n
  constructor
  · show Except.ok (Answer.byte (s.readNth n).1) = .ok (.byte c.content[c.place + n]?)
    rw [found, here.left, Cursor.left, List.getElem?_drop]
  · exact here.pass (inRange_readNth here.inside n) (chunks_readNth s n) rest

theorem At.answer_into (here : s.At c) (buffer : Bytes) :
    (s.answer (.into buffer)).1 = (c.answer (.into buffer)).1 ∧
      (s.answer (.into buffer)).2.At (c.answer (.into buffer)).2 := by
  obtain ⟨front, rest⟩ := s.readBlock_eq buffer.length
  have width : (s.readBlock buffer.length).1.length = min buffer.length (c.content.length - c.place) := by
    rw [front, List.length_take, here.left, Cursor.length_left]
  have same : (s.readBlock buffer.length).1 = c.left.take (s.readBlock buffer.length).1.length := by
    rw [front, List.length_take, here.left]
    exact List.take_eq_take_min
  constructor
  · show Except.ok (Answer.filled (s.readBlock buffer.length).1.length ((s.readBlock buffer.length).1 ++
      buffer.drop (s.readBlock buffer.length).1.length)) = (c.answer (.into buffer)).1
    rw [width] at same ⊢
    rw [same]
    rfl
  · refine here.pass (inRange_readBlock here.inside _) (chunks_readBlock s _) (rest.trans ?_)
    by_cases enough : buffer.length ≤ s.left.length
    · rw [Nat.min_eq_left (by rw [here.left, Cursor.length_left] at enough; exact enough)]
    · rw [List.drop_eq_nil_of_le (by omega), ← Cursor.length_left, ← here.left, List.drop_eq_nil_of_le (by omega)]

theorem At.answer_exactly (here : s.At c) (n : Nat) :
    (s.answer (.exactly n)).1 = (c.answer (.exactly n)).1 ∧
      (s.answer (.exactly n)).2.At (c.answer (.exactly n)).2 := by
  obtain ⟨given, rest⟩ := s.readExact_eq n
  have chunks := chunks_readExact s n
  have inside := inRange_readExact here.inside n
  have size : s.left.length = c.content.length - c.place := by rw [here.left, Cursor.length_left]
  have place := here.place
  simp only [Stream.answer, Cursor.answer]
  by_cases enough : c.place + n ≤ c.content.length
  · rw [if_pos (by omega)] at given
    rw [if_pos enough]
    split
    next value after read =>
      rw [read] at given rest chunks inside
      obtain rfl : value = s.left.take n := Option.some.inj given
      exact ⟨by rw [here.left], here.pass inside chunks rest⟩
    next after read => rw [read] at given; cases given
  · rw [if_neg (by omega)] at given
    rw [if_neg enough]
    split
    next value after read => rw [read] at given; cases given
    next after read =>
      rw [read] at rest chunks inside
      refine ⟨rfl, here.toEnd inside chunks (rest.trans ?_)⟩
      exact List.drop_eq_nil_of_le (by omega)

theorem At.answer_toEnd (here : s.At c) :
    (s.answer .toEnd).1 = (c.answer .toEnd).1 ∧ (s.answer .toEnd).2.At (c.answer .toEnd).2 := by
  obtain ⟨all, finished⟩ := s.readToEnd_eq
  refine ⟨?_, here.toEnd (inRange_readToEnd here.inside) (chunks_readToEnd s) finished⟩
  show Except.ok (Answer.bytes s.readToEnd.1) = .ok (.bytes c.left)
  rw [all, here.left]

theorem At.answer_toEndAsText (here : s.At c) :
    (s.answer .toEndAsText).1 = (c.answer .toEndAsText).1 ∧
      (s.answer .toEndAsText).2.At (c.answer .toEndAsText).2 := by
  obtain ⟨all, finished⟩ := s.readToEnd_eq
  have ended : s.readToEnd.2.At c.toEnd := here.toEnd (inRange_readToEnd here.inside) (chunks_readToEnd s) finished
  simp only [Stream.answer, Cursor.answer, all, here.left]
  cases Utf8.decode? c.left with
  | none => exact ⟨rfl, ended⟩
  | some text => exact ⟨rfl, ended⟩

/-- A stream answers every request as the cursor at its place, and both stay together. -/
theorem At.answer (here : s.At c) (request : Request) :
    (s.answer request).1 = (c.answer request).1 ∧ (s.answer request).2.At (c.answer request).2 := by
  cases request with
  | byte => exact here.answer_byte
  | nth n => exact here.answer_nth n
  | into buffer => exact here.answer_into buffer
  | exactly n => exact here.answer_exactly n
  | toEnd => exact here.answer_toEnd
  | toEndAsText => exact here.answer_toEndAsText
  | size =>
    refine ⟨?_, here⟩
    show Except.ok (Answer.size s.size) = .ok (.size c.content.length)
    rw [here.size]

/-- Nothing is found by any further read, and no read changes that. -/
structure Exhausted (s : Stream) : Prop where
  byte : (s.answer .byte).1 = .ok (.byte none)
  nth : ∀ n, (s.answer (.nth n)).1 = .ok (.byte none)
  into : ∀ buffer, (s.answer (.into buffer)).1 = .ok (.filled 0 buffer)
  toEnd : (s.answer .toEnd).1 = .ok (.bytes [])
  stays : ∀ request, (s.answer request).2.left = []

theorem At.exhausted (here : s.At c) (finished : c.place = c.content.length) : s.Exhausted := by
  have nothing : c.left = [] := by rw [Cursor.left, finished, List.drop_length]
  refine ⟨?_, fun n => ?_, fun buffer => ?_, ?_, fun request => ?_⟩
  · rw [here.answer_byte.1, Cursor.answer, finished, List.getElem?_eq_none (Nat.le_refl _)]
  · rw [(here.answer_nth n).1, Cursor.answer, finished, List.getElem?_eq_none (Nat.le_add_right _ _)]
  · rw [(here.answer_into buffer).1]
    simp [Cursor.answer, finished]
  · rw [here.answer_toEnd.1, Cursor.answer, nothing]
  · rw [(here.answer request).2.left]
    cases request with
    | byte => rw [Cursor.answer, Cursor.left_pass, nothing, List.drop_nil]
    | nth n => rw [Cursor.answer, Cursor.left_pass, nothing, List.drop_nil]
    | into buffer => simp only [Cursor.answer, Cursor.left_pass, nothing, List.drop_nil]
    | exactly n =>
      simp only [Cursor.answer]
      split
      · rw [Cursor.left_pass, nothing, List.drop_nil]
      · exact c.left_toEnd
    | toEnd => exact c.left_toEnd
    | toEndAsText =>
      simp only [Cursor.answer]
      split <;> exact c.left_toEnd
    | size => exact nothing

end Stream

/-! ## Streams and their copies -/

/-- One request to streams. A request about a stream that was never opened goes unanswered. -/
def Streams.answerStep (streams : Streams) (request : Streams.Request) : Option Streams.Answer × Streams :=
  match streams.answer? request with
  | some (given, after) => (some given, after)
  | none => (none, streams)

/-- One request to cursors that are numbered like the streams. -/
def Cursor.answerStep (cursors : List Cursor) : Streams.Request → Option Streams.Answer × List Cursor
  | .read index request =>
    match cursors[index]? with
    | some c => (some (.read (c.answer request).1), cursors.set index (c.answer request).2)
    | none => (none, cursors)
  | .copy index =>
    match cursors[index]? with
    | some c => (some (.copied cursors.length), cursors ++ [c])
    | none => (none, cursors)

/-- Each stream stands at the cursor of the same number. -/
structure Streams.Follow (streams : Streams) (cursors : List Cursor) : Prop where
  count : streams.length = cursors.length
  each : ∀ (i : Nat) (s : Stream) (c : Cursor), streams[i]? = some s → cursors[i]? = some c → s.At c

namespace Streams.Follow

variable {streams : Streams} {cursors : List Cursor} {index : Nat}

theorem found (follow : streams.Follow cursors) {s : Stream} (present : streams[index]? = some s) :
    ∃ c, cursors[index]? = some c ∧ s.At c := by
  have within : index < cursors.length := by
    rw [← follow.count]
    exact (List.getElem?_eq_some_iff.1 present).1
  exact ⟨cursors[index], List.getElem?_eq_getElem within,
    follow.each index s _ present (List.getElem?_eq_getElem within)⟩

theorem missing (follow : streams.Follow cursors) (absent : streams[index]? = none) : cursors[index]? = none := by
  rw [List.getElem?_eq_none_iff] at absent ⊢
  exact follow.count ▸ absent

theorem set (follow : streams.Follow cursors) {s : Stream} {c : Cursor} (here : s.At c) :
    Streams.Follow (streams.set index s) (cursors.set index c) where
  count := by rw [List.length_set, List.length_set, follow.count]
  each i other d present there := by
    by_cases same : index = i
    · subst same
      have within := (List.getElem?_eq_some_iff.1 present).1
      rw [List.length_set] at within
      rw [List.getElem?_set_self within] at present
      rw [List.getElem?_set_self (follow.count ▸ within)] at there
      obtain rfl := Option.some.inj present
      obtain rfl := Option.some.inj there
      exact here
    · rw [List.getElem?_set_ne same] at present there
      exact follow.each i other d present there

theorem push (follow : streams.Follow cursors) {s : Stream} {c : Cursor} (here : s.At c) :
    Streams.Follow (streams ++ [s]) (cursors ++ [c]) where
  count := by rw [List.length_append, List.length_append, follow.count]; rfl
  each i other d present there := by
    rcases Nat.lt_trichotomy i streams.length with inside | last | outside
    · rw [List.getElem?_append_left inside] at present
      rw [List.getElem?_append_left (follow.count ▸ inside)] at there
      exact follow.each i other d present there
    · subst last
      rw [List.getElem?_concat_length] at present
      rw [follow.count, List.getElem?_concat_length] at there
      obtain rfl := Option.some.inj present
      obtain rfl := Option.some.inj there
      exact here
    · have none : (streams ++ [s])[i]? = none := by
        rw [List.getElem?_eq_none_iff, List.length_append, List.length_singleton]
        omega
      rw [none] at present
      cases present

/-- One request is answered alike, and only the stream that it is about moves. -/
theorem answer (follow : streams.Follow cursors) (request : Streams.Request) :
    (Streams.answerStep streams request).1 = (Cursor.answerStep cursors request).1 ∧
      Streams.Follow (Streams.answerStep streams request).2 (Cursor.answerStep cursors request).2 := by
  cases request with
  | read index request =>
    simp only [Streams.answerStep, Streams.answer?, Cursor.answerStep]
    cases present : streams[index]? with
    | none =>
      rw [follow.missing present]
      exact ⟨rfl, follow⟩
    | some s =>
      obtain ⟨c, there, here⟩ := follow.found present
      obtain ⟨same, moved⟩ := here.answer request
      rw [there]
      exact ⟨congrArg (fun given => some (Streams.Answer.read given)) same, follow.set moved⟩
  | copy index =>
    simp only [Streams.answerStep, Streams.answer?, Cursor.answerStep]
    cases present : streams[index]? with
    | none =>
      rw [follow.missing present]
      exact ⟨rfl, follow⟩
    | some s =>
      obtain ⟨c, there, here⟩ := follow.found present
      rw [there]
      exact ⟨by rw [follow.count], follow.push here⟩

end Streams.Follow

/-- No request changes the content of any cursor. -/
theorem Cursor.content_answerStep {content : Bytes} {cursors : List Cursor}
    (same : ∀ c ∈ cursors, c.content = content) (request : Streams.Request) :
    ∀ c ∈ (Cursor.answerStep cursors request).2, c.content = content := by
  cases request with
  | read index request =>
    simp only [Cursor.answerStep]
    split
    next c found =>
      intro d member
      rcases List.mem_or_eq_of_mem_set member with old | rfl
      · exact same d old
      · rw [c.content_answer]
        exact same c (List.mem_of_getElem? found)
    next => exact same
  | copy index =>
    simp only [Cursor.answerStep]
    split
    next c found =>
      intro d member
      rcases List.mem_append.1 member with old | new
      · exact same d old
      · rw [List.mem_singleton.1 new]
        exact same c (List.mem_of_getElem? found)
    next => exact same

/-- Over every run of requests to a stream and its copies, the answers are those of cursors over
    the concatenated chunks, and each stream stands at a place of its own within these bytes and
    never past the end of a chunk. A stream at the end yields nothing any more. -/
theorem streams_follow_cursors (chunks : List Chunk) (requests : List Streams.Request) :
    let streams := Machine.run Streams.answerStep [.ofChunks chunks] requests
    let cursors := Machine.run Cursor.answerStep [.ofBytes chunks.flatten] requests
    streams.1 = cursors.1 ∧ streams.2.length = cursors.2.length ∧
      ∀ (i : Nat) (s : Stream), streams.2[i]? = some s →
        ∃ place ≤ chunks.flatten.length, cursors.2[i]? = some ⟨chunks.flatten, place⟩ ∧
          s.left = chunks.flatten.drop place ∧ s.size = chunks.flatten.length ∧ s.InRange ∧
          (place = chunks.flatten.length → s.Exhausted) := by
  intro streams cursors
  have start : Streams.Follow [.ofChunks chunks] [.ofBytes chunks.flatten] :=
    ⟨rfl, fun i s c present there => by
      cases i with
      | zero =>
        obtain rfl := Option.some.inj present
        obtain rfl := Option.some.inj there
        exact Stream.at_ofChunks chunks
      | succ i => cases present⟩
  obtain ⟨same, follow⟩ := Machine.run_related Streams.Follow
    (fun state mirror request follow => follow.answer request) start requests
  have content : ∀ c ∈ cursors.2, c.content = chunks.flatten :=
    Machine.run_keeps (fun cursors : List Cursor => ∀ c ∈ cursors, c.content = chunks.flatten)
      (fun cursors request same => Cursor.content_answerStep same request)
      (fun c member => by rw [List.mem_singleton.1 member]; rfl) requests
  refine ⟨same, follow.count, fun i s present => ?_⟩
  obtain ⟨⟨bytes, place⟩, there, here⟩ := follow.found present
  obtain rfl : bytes = chunks.flatten := content _ (List.mem_of_getElem? there)
  exact ⟨place, here.place, there, here.left, here.size, here.inside, here.exhausted⟩

end HttpReply
