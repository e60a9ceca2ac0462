import HttpReply.Proofs.Runs
import HttpReply.Proofs.TextSlices

/-!
# Slices in range and loops that end

The two loops of a stream, pass by pass and with slices of chunks and buffers that may be out of
range. A stream's place is always within its chunks, so no slice is, and each pass comes
closer to the end of the buffer or of the chunks, however many of these are empty.
-/
namespace HttpReply

namespace Loop

variable {σ ω : Type}

/-- A loop that starts at a state comes to this result in so many passes. A pass may be the last,
    lead to the state of the next one, or fail. Here none fails. -/
inductive Ends (pass : σ → Option (ω ⊕ σ)) : σ → Nat → ω → Prop
  | last {state : σ} {result : ω} : pass state = some (.inl result) → Ends pass state 1 result
  | next {state later : σ} {passes : Nat} {result : ω} :
      pass state = some (.inr later) → Ends pass later passes result → Ends pass state (passes + 1) result

/-- A loop ends if every pass keeps its states valid and the result that is to come, and leaves less to do. -/
theorem ends_of_measure {pass : σ → Option (ω ⊕ σ)} (Valid : σ → Prop) (size : σ → Nat) (result : σ → ω)
    (works : ∀ state, Valid state → pass state = some (.inl (result state)) ∨
      ∃ later, pass state = some (.inr later) ∧ Valid later ∧ size later < size state ∧ result later = result state)
    {state : σ} (valid : Valid state) : ∃ passes ≤ size state + 1, Ends pass state passes (result state) := by
  induction bound : size state using Nat.strong_induction_on generalizing state with
  | _ n ih =>
    rcases works state valid with done | ⟨later, step, still, less, same⟩
    · exact ⟨1, by omega, .last done⟩
    · obtain ⟨passes, few, ends⟩ := ih (size later) (by omega) still rfl
      rw [same] at ends
      exact ⟨passes + 1, by omega, .next step ends⟩

end Loop

namespace Stream

/-- One pass in search of a byte: it is at the place, or the search goes on in the next chunk, if there is one. -/
def seekPass (s : Stream) : Option ((Option UInt8 × Stream) ⊕ Stream) :=
  match s.chunks[s.chunkIndex]? with
  | none => some (.inl (none, s))
  | some chunk =>
    match chunk[s.byteIndex]? with
    | some byte => some (.inl (some byte, s.advance 1))
    | none => some (.inr s.nextChunk)

/-- A pass finds what the search is for, or else it leaves one chunk less to search. -/
theorem seekPass_works (s : Stream) :
    s.seekPass = some (.inl s.readByte) ∨ ∃ later, s.seekPass = some (.inr later) ∧
      later.chunks.length - later.chunkIndex < s.chunks.length - s.chunkIndex ∧ later.readByte = s.readByte := by
  cases found : s.chunks[s.chunkIndex]? with
  | none => exact .inl (by simp [seekPass, found, readByte_end found])
  | some chunk =>
    have within := lt_length_of_getElem? found
    cases byte : chunk[s.byteIndex]? with
    | some b => exact .inl (by simp [seekPass, found, byte, readByte_here found byte])
    | none =>
      refine .inr ⟨s.nextChunk, by simp [seekPass, found, byte], ?_, (readByte_next found byte).symm⟩
      simp only [nextChunk]
      omega

/-! ## A buffer -/

/-- The bytes from one index up to another replaced, if there are so many in the buffer and as many new ones. -/
def overwrite? (buffer : Bytes) (start stop : Nat) (bytes : Bytes) : Option Bytes :=
  if start ≤ stop ∧ stop ≤ buffer.length ∧ bytes.length = stop - start then
    some (buffer.take start ++ bytes ++ buffer.drop stop)
  else none

/-- Bytes that fit replace just as many, and leave those before and after them. -/
theorem overwrite?_eq {buffer bytes : Bytes} {start : Nat} (fits : start + bytes.length ≤ buffer.length) :
    ∃ next, overwrite? buffer start (start + bytes.length) bytes = some next ∧ next.length = buffer.length ∧
      next.take (start + bytes.length) = buffer.take start ++ bytes ∧
      ∀ n, next.drop (start + bytes.length + n) = buffer.drop (start + bytes.length + n) := by
  have front : (buffer.take start ++ bytes).length = start + bytes.length := by
    simp
    omega
  refine ⟨buffer.take start ++ bytes ++ buffer.drop (start + bytes.length), if_pos (by omega), ?_, ?_, ?_⟩
  · simp
    omega
  · rw [← front, List.take_left]
  · intro n
    rw [← front, List.drop_length_add_append, List.drop_drop]

/-- A stream and a buffer into which it has copied its bytes so far. -/
structure Copying where
  stream : Stream
  buffer : Bytes
  filled : Nat

namespace Copying

/-- One pass of copying: what is left of the chunk at the place, as far as there is room for it. -/
def pass (c : Copying) : Option ((Nat × Bytes × Stream) ⊕ Copying) :=
  if c.filled < c.buffer.length then
    match c.stream.chunks[c.stream.chunkIndex]? with
    | none => some (.inl (c.filled, c.buffer, c.stream))
    | some chunk => do
      let remainder ← between? chunk c.stream.byteIndex chunk.length
      if remainder.isEmpty then some (.inr { c with stream := c.stream.nextChunk })
      else
        let count := min remainder.length (c.buffer.length - c.filled)
        let source ← between? remainder 0 count
        let buffer ← overwrite? c.buffer c.filled (c.filled + count) source
        some (.inr ⟨c.stream.advance count, buffer, c.filled + count⟩)
  else some (.inl (c.filled, c.buffer, c.stream))

/-- The count, the buffer and the stream when the rest of the buffer has been filled. -/
def result (c : Copying) : Nat × Bytes × Stream :=
  let (bytes, after) := c.stream.readBlock (c.buffer.length - c.filled)
  (c.filled + bytes.length, c.buffer.take c.filled ++ bytes ++ c.buffer.drop (c.filled + bytes.length), after)

structure Valid (c : Copying) : Prop where
  place : c.stream.InRange
  room : c.filled ≤ c.buffer.length

/-- How much can still be done: bytes of the buffer and chunks. -/
def size (c : Copying) : Nat := (c.buffer.length - c.filled) + (c.stream.chunks.length - c.stream.chunkIndex)

/-- What one pass copies out of a chunk. -/
def copied (c : Copying) (chunk : Chunk) : Bytes :=
  (chunk.drop c.stream.byteIndex).take (c.buffer.length - c.filled)

theorem length_copied (c : Copying) (chunk : Chunk) :
    (c.copied chunk).length = min (chunk.length - c.stream.byteIndex) (c.buffer.length - c.filled) := by
  rw [copied, List.length_take, List.length_drop, Nat.min_comm]

/-- The slices of a chunk that a pass takes within it are in range. -/
theorem slices_copied {c : Copying} {chunk : Chunk} (within : c.stream.byteIndex < chunk.length) :
    between? chunk c.stream.byteIndex chunk.length = some (chunk.drop c.stream.byteIndex) ∧
      between? (chunk.drop c.stream.byteIndex) 0
        (min (chunk.drop c.stream.byteIndex).length (c.buffer.length - c.filled)) = some (c.copied chunk) := by
  constructor
  · rw [between?_eq (by omega) (by omega), List.take_length]
  · rw [between?_eq (by omega) (by omega), List.drop_zero, Nat.min_comm, ← List.take_eq_take_min, copied]

theorem pass_full {c : Copying} (full : c.filled = c.buffer.length) : c.pass = some (.inl c.result) := by
  simp [pass, result, full, readBlock_zero]

section

variable {c : Copying} (room : c.filled < c.buffer.length)

include room

theorem pass_end (ended : c.stream.chunks[c.stream.chunkIndex]? = none) : c.pass = some (.inl c.result) := by
  simp [pass, result, room, ended, readBlock_end ended]

variable {chunk : Chunk} (found : c.stream.chunks[c.stream.chunkIndex]? = some chunk)

include found

/-- At the end of a chunk the place moves to the next one. -/
theorem pass_next (finished : c.stream.byteIndex = chunk.length) :
    c.pass = some (.inr { c with stream := c.stream.nextChunk }) := by
  simp [pass, room, found, between?, finished]

/-- What is copied is the front of what the buffer is to hold. -/
theorem result_copied (within : c.stream.byteIndex < chunk.length) {buffer : Bytes}
    (length : buffer.length = c.buffer.length)
    (front : buffer.take (c.filled + (c.copied chunk).length) = c.buffer.take c.filled ++ c.copied chunk)
    (back : ∀ n, buffer.drop (c.filled + (c.copied chunk).length + n) =
      c.buffer.drop (c.filled + (c.copied chunk).length + n)) :
    Copying.result ⟨c.stream.advance (c.copied chunk).length, buffer, c.filled + (c.copied chunk).length⟩ =
      c.result := by
  have started : chunk.drop c.stream.byteIndex ≠ [] := by simpa using within
  let further := (c.stream.advance (c.copied chunk).length).readBlock
    (c.buffer.length - c.filled - (c.copied chunk).length)
  have block : c.stream.readBlock (c.buffer.length - c.filled) = (c.copied chunk ++ further.1, further.2) :=
    readBlock_copy found started (by omega)
  simp only [result, block, length, Nat.sub_add_eq, front, back, List.length_append]
  simp only [Nat.add_assoc, List.append_assoc, further]

/-- Within a chunk, all slices are in range, and bytes are copied. -/
theorem pass_copy (within : c.stream.byteIndex < chunk.length) :
    ∃ count buffer, 0 < count ∧ c.filled + count ≤ c.buffer.length ∧ c.stream.byteIndex + count ≤ chunk.length ∧
      buffer.length = c.buffer.length ∧
      c.pass = some (.inr ⟨c.stream.advance count, buffer, c.filled + count⟩) ∧
      Copying.result ⟨c.stream.advance count, buffer, c.filled + count⟩ = c.result := by
  obtain ⟨remainder, source⟩ := slices_copied within
  have size := c.length_copied chunk
  obtain ⟨buffer, overwritten, length, front, back⟩ :=
    overwrite?_eq (by omega : c.filled + (c.copied chunk).length ≤ c.buffer.length)
  refine ⟨(c.copied chunk).length, buffer, by omega, by omega, by omega, length, ?_,
    result_copied room found within length front back⟩
  have started : chunk.length ≤ c.stream.byteIndex ↔ False := by
    simp
    omega
  rw [List.length_drop, ← size] at source
  simp [pass, room, found, remainder, started, ← size, source, overwritten]

end

/-- A pass is the last one, or else it fills more of the buffer or moves on to the next chunk. -/
theorem pass_works (c : Copying) (valid : c.Valid) :
    c.pass = some (.inl c.result) ∨
      ∃ later, c.pass = some (.inr later) ∧ later.Valid ∧ later.size < c.size ∧ later.result = c.result := by
  obtain ⟨place, fits⟩ := valid
  by_cases room : c.filled < c.buffer.length
  · cases found : c.stream.chunks[c.stream.chunkIndex]? with
    | none => exact .inl (pass_end room found)
    | some chunk =>
      have bound := lt_length_of_getElem? found
      have inside : c.stream.byteIndex ≤ chunk.length := by simpa [found] using place.2
      by_cases within : c.stream.byteIndex < chunk.length
      · obtain ⟨count, buffer, positive, fits, inChunk, length, pass, same⟩ := pass_copy room found within
        refine .inr ⟨_, pass, ⟨inRange_advance found inChunk, length ▸ fits⟩, ?_, same⟩
        simp only [size, advance]
        omega
      · refine .inr ⟨_, pass_next room found (by omega), ⟨inRange_nextChunk found, fits⟩, ?_, ?_⟩
        · simp only [size, nextChunk]
          omega
        · have finished : chunk.drop c.stream.byteIndex = [] := List.drop_eq_nil_of_le (by omega)
          simp only [result, ← readBlock_next found finished (by omega : c.buffer.length - c.filled ≠ 0)]
  · exact .inl (pass_full (by omega))

end Copying

/-! ## Reachable states -/

theorem chunks_answer (s : Stream) (request : Request) : (s.answer request).2.chunks = s.chunks := by
  cases request with
  | byte => exact chunks_readByte s
  | nth n => exact chunks_readNth s n
  | into buffer => exact chunks_readBlock s buffer.length
  | exactly n =>
    rw [← chunks_readExact s n, answer]
    rcases s.readExact n with ⟨_ | value, after⟩ <;> rfl
  | toEnd => exact chunks_readToEnd s
  | toEndAsText =>
    rw [← chunks_readToEnd s]
    simp only [answer]
    split <;> rfl
  | size => rfl

theorem inRange_answer {s : Stream} (inside : s.InRange) (request : Request) : (s.answer request).2.InRange := by
  cases request with
  | byte => exact inRange_readByte inside
  | nth n => exact inRange_readNth inside n
  | into buffer => exact inRange_readBlock inside buffer.length
  | exactly n =>
    have next := inRange_readExact inside n
    rw [answer]
    rcases read : s.readExact n with ⟨_ | value, after⟩ <;> rw [read] at next <;> exact next
  | toEnd => exact inRange_readToEnd inside
  | toEndAsText =>
    have next := inRange_readToEnd inside
    simp only [answer]
    split <;> exact next
  | size => exact inside

/-- Whatever is asked of a stream, it keeps its chunks and its place stays within them. -/
theorem inRange_run (chunks : List Chunk) (requests : List Request) :
    (Machine.run answer (ofChunks chunks) requests).2.chunks = chunks ∧
      (Machine.run answer (ofChunks chunks) requests).2.InRange := by
  refine Machine.run_keeps (fun s : Stream => s.chunks = chunks ∧ s.InRange) ?_ ?_ requests
  · rintro s request ⟨same, inside⟩
    exact ⟨(chunks_answer s request).trans same, inRange_answer inside request⟩
  · exact ⟨rfl, inRange_ofChunks chunks⟩

end Stream

/-- No slice is out of range and every loop ends. For any text, content type, Set-Cookie value, body, limit and
    headers, the slices that are taken exist, and with them the results are what they should be. In every state
    that a stream over any chunks can reach, its place is within the chunks, the search for a byte ends, and so
    does copying into a buffer of any size, with every slice of a chunk and of the buffer in range. -/
theorem slices_exist_and_loops_end :
    (∀ text, Text.cutBySlices '=' text = some (Text.cut? '=' text)) ∧
    (∀ contentType, ContentType.charsetBySlices contentType = some (ContentType.charset? contentType)) ∧
    (∀ setCookie, Cookie.parseBySlices setCookie = some (Cookie.parse setCookie)) ∧
    (∀ text limit, Text.takeBySlice limit text = some (text.take limit)) ∧
    (∀ tables (r : Response) requested limit,
      r.excerptBySlice tables requested limit = some (r.excerpt tables requested limit)) ∧
    (∀ headers : Headers, headers.groupsBySlices = some headers.groups) ∧
    ∀ (chunks : List Chunk) (requests : List Stream.Request),
      let s := (Machine.run Stream.answer (.ofChunks chunks) requests).2
      s.chunks = chunks ∧ s.chunkIndex ≤ chunks.length ∧ s.byteIndex ≤ (chunks[s.chunkIndex]?.getD []).length ∧
        (∃ passes ≤ chunks.length - s.chunkIndex + 1, Loop.Ends Stream.seekPass s passes s.readByte) ∧
        ∀ buffer : Bytes, ∃ passes ≤ buffer.length + (chunks.length - s.chunkIndex) + 1,
          Loop.Ends Stream.Copying.pass ⟨s, buffer, 0⟩ passes (s.readInto buffer) := by
  refine ⟨Text.cutBySlices_eq (by decide), ContentType.charsetBySlices_eq, Cookie.parseBySlices_eq,
    fun text limit => Text.takeBySlice_eq limit text, Response.excerptBySlice_eq, Headers.groupsBySlices_eq, ?_⟩
  intro chunks requests
  obtain ⟨same, inside⟩ := Stream.inRange_run chunks requests
  generalize (Machine.run Stream.answer (.ofChunks chunks) requests).2 = s at same inside
  subst same
  refine ⟨rfl, inside.1, inside.2, ?_, ?_⟩
  · refine Loop.ends_of_measure (fun _ => True) (fun s => s.chunks.length - s.chunkIndex) Stream.readByte ?_ trivial
    intro state _
    simpa only [true_and] using state.seekPass_works
  · intro buffer
    have ends := Loop.ends_of_measure Stream.Copying.Valid Stream.Copying.size Stream.Copying.result
      Stream.Copying.pass_works (⟨inside, Nat.zero_le _⟩ : Stream.Copying.Valid ⟨s, buffer, 0⟩)
    simpa [Stream.Copying.size, Stream.Copying.result, Stream.readInto] using ends

/-- With a place beyond the end of its chunk there would be no slice of the chunk. -/
example : Stream.Copying.pass ⟨⟨[[1, 2]], 0, 3⟩, [0], 0⟩ = none := rfl

end HttpReply
