import HttpReply.Body.Decode

/-!
# Streams over body chunks

A stream reads the bytes of a list of chunks one after another. It holds the place of
the next byte as a chunk's index and an index into that chunk, and it moves on to the
next chunk only when it needs a byte from it. What a stream still has to yield is its
view `left`: every read takes from the front of it.
-/
namespace HttpReply

/-- A reader's place in a list of chunks. -/
structure Stream where
  chunks : List Chunk
  chunkIndex : Nat
  byteIndex : Nat
deriving DecidableEq, Repr

namespace Stream

/-- The stream at the first byte of the chunks. -/
def ofChunks (chunks : List Chunk) : Stream := ⟨chunks, 0, 0⟩

/-- How many bytes the chunks have in all, read or not. -/
def size (s : Stream) : Nat := Body.byteCount s.chunks

/-- The bytes that have not been read. -/
def left (s : Stream) : Bytes :=
  match s.chunks[s.chunkIndex]? with
  | some chunk => chunk.drop s.byteIndex ++ (s.chunks.drop (s.chunkIndex + 1)).flatten
  | none => []

/-- The stream at the start of the next chunk. -/
def nextChunk (s : Stream) : Stream := { s with chunkIndex := s.chunkIndex + 1, byteIndex := 0 }

/-- The stream `n` bytes further on in the same chunk. -/
def advance (s : Stream) (n : Nat) : Stream := { s with byteIndex := s.byteIndex + n }

theorem lt_length_of_getElem? {s : Stream} {chunk : Chunk} (h : s.chunks[s.chunkIndex]? = some chunk) :
    s.chunkIndex < s.chunks.length := by
  obtain ⟨within, -⟩ := List.getElem?_eq_some_iff.1 h
  exact within

/-- The next byte, if there is one. Empty chunks are passed over. -/
def readByte (s : Stream) : Option UInt8 × Stream :=
  match _found : s.chunks[s.chunkIndex]? with
  | none => (none, s)
  | some chunk =>
    match chunk[s.byteIndex]? with
    | some byte => (some byte, s.advance 1)
    | none => s.nextChunk.readByte
termination_by s.chunks.length - s.chunkIndex
decreasing_by
  have := lt_length_of_getElem? _found
  simp only [nextChunk]
  omega

/-- The next `n` bytes, or all that are left, copied chunk by chunk. -/
def readBlock (s : Stream) (n : Nat) : Bytes × Stream :=
  if n = 0 then ([], s)
  else
    match _found : s.chunks[s.chunkIndex]? with
    | none => ([], s)
    | some chunk =>
      match chunk.drop s.byteIndex with
      | [] => s.nextChunk.readBlock n
      | byte :: rest =>
        let copied := (byte :: rest).take n
        let (more, after) := (s.advance copied.length).readBlock (n - copied.length)
        (copied ++ more, after)
termination_by n + (s.chunks.length - s.chunkIndex)
decreasing_by
  · have := lt_length_of_getElem? _found
    simp only [nextChunk]
    omega
  · simp only [advance, List.length_take, List.length_cons]
    omega

/-- Reads into the front of a buffer. The count says how much of it is filled; the rest
    of the buffer keeps what it held. -/
def readInto (s : Stream) (buffer : Bytes) : Nat × Bytes × Stream :=
  let (bytes, after) := s.readBlock buffer.length
  (bytes.length, bytes ++ buffer.drop bytes.length, after)

/-- The byte after the next `n` ones, which are passed over one at a time. -/
def readNth (s : Stream) : Nat → Option UInt8 × Stream
  | 0 => s.readByte
  | n + 1 =>
    match s.readByte with
    | (some _, after) => after.readNth n
    | (none, after) => (none, after)

theorem readBlock_zero (s : Stream) : s.readBlock 0 = ([], s) := by
  rw [readBlock, if_pos rfl]

section

variable {s : Stream} {chunk : Chunk} {n : Nat}

theorem readByte_end (ended : s.chunks[s.chunkIndex]? = none) : s.readByte = (none, s) := by
  rw [readByte]
  split
  next => rfl
  next found => simp [ended] at found

theorem readByte_here (found : s.chunks[s.chunkIndex]? = some chunk) {byte : UInt8}
    (here : chunk[s.byteIndex]? = some byte) : s.readByte = (some byte, s.advance 1) := by
  rw [readByte]
  split
  next ended => simp [found] at ended
  next other same =>
    obtain rfl := Option.some.inj (found.symm.trans same)
    simp [here]

theorem readByte_next (found : s.chunks[s.chunkIndex]? = some chunk) (missing : chunk[s.byteIndex]? = none) :
    s.readByte = s.nextChunk.readByte := by
  rw [readByte]
  split
  next ended => simp [found] at ended
  next other same =>
    obtain rfl := Option.some.inj (found.symm.trans same)
    simp [missing]

theorem readBlock_end (ended : s.chunks[s.chunkIndex]? = none) : s.readBlock n = ([], s) := by
  rw [readBlock]
  split
  next => rfl
  next =>
    split
    next => rfl
    next found => simp [ended] at found

theorem readBlock_next (found : s.chunks[s.chunkIndex]? = some chunk) (finished : chunk.drop s.byteIndex = [])
    (wanted : n ≠ 0) : s.readBlock n = s.nextChunk.readBlock n := by
  rw [readBlock, if_neg wanted]
  split
  next ended => simp [found] at ended
  next other same =>
    obtain rfl := Option.some.inj (found.symm.trans same)
    simp [finished]

theorem readBlock_copy (found : s.chunks[s.chunkIndex]? = some chunk) (started : chunk.drop s.byteIndex ≠ [])
    (wanted : n ≠ 0) :
    let copied := (chunk.drop s.byteIndex).take n
    let further := (s.advance copied.length).readBlock (n - copied.length)
    s.readBlock n = (copied ++ further.1, further.2) := by
  rw [readBlock, if_neg wanted]
  split
  next ended => simp [found] at ended
  next other same =>
    obtain rfl := Option.some.inj (found.symm.trans same)
    split
    next finished => exact absurd finished started
    next byte rest more => simp only [more]

end

/-! ## The view of each read -/

theorem left_nextChunk {s : Stream} {chunk : Chunk} (h : s.chunks[s.chunkIndex]? = some chunk)
    (finished : chunk.drop s.byteIndex = []) : s.nextChunk.left = s.left := by
  simp only [left, nextChunk, h, finished, List.nil_append]
  cases following : s.chunks[s.chunkIndex + 1]? with
  | none => rw [List.drop_eq_nil_of_le (List.getElem?_eq_none_iff.1 following), List.flatten_nil]
  | some chunk =>
    obtain ⟨within, rfl⟩ := List.getElem?_eq_some_iff.1 following
    rw [List.drop_eq_getElem_cons within, List.flatten_cons]
    rfl

theorem left_advance {s : Stream} {chunk : Chunk} (h : s.chunks[s.chunkIndex]? = some chunk) {n : Nat}
    (within : n ≤ (chunk.drop s.byteIndex).length) : (s.advance n).left = s.left.drop n := by
  simp only [left, advance, h]
  rw [List.drop_append_of_le_length within, List.drop_drop]

/-- A byte read is the first that was left, and the others are left after it. -/
theorem readByte_eq (s : Stream) : s.readByte.1 = s.left.head? ∧ s.readByte.2.left = s.left.tail := by
  fun_induction readByte s with
  | case1 s h => simp [left, h]
  | case2 s chunk h byte found =>
    obtain ⟨within, rfl⟩ := List.getElem?_eq_some_iff.1 found
    have first := List.drop_eq_getElem_cons within
    refine ⟨by simp only [left, h, first, List.cons_append, List.head?_cons], ?_⟩
    rw [left_advance h (by simp only [List.length_drop]; omega), List.drop_one]
  | case3 s chunk h missing ih =>
    have finished : chunk.drop s.byteIndex = [] := List.drop_eq_nil_of_le (List.getElem?_eq_none_iff.1 missing)
    rwa [left_nextChunk h finished] at ih

/-- A block read is the front of what was left, and the rest is left after it. -/
theorem readBlock_eq (s : Stream) (n : Nat) :
    (s.readBlock n).1 = s.left.take n ∧ (s.readBlock n).2.left = s.left.drop n := by
  fun_induction readBlock s n with
  | case1 s => simp
  | case2 s n positive h => simp [left, h]
  | case3 s n positive chunk h finished ih => rwa [left_nextChunk h finished] at ih
  | case4 s n positive chunk h byte rest started copied more after block ih =>
    have here : s.left = (byte :: rest) ++ (s.chunks.drop (s.chunkIndex + 1)).flatten := by
      simp only [left, h, started]
    have within : copied.length ≤ (byte :: rest).length := by
      simp only [copied, List.length_take]
      omega
    have moved : (s.advance copied.length).left = s.left.drop copied.length :=
      left_advance h (by rw [started]; exact within)
    have width : copied.length ≤ n := by
      simp only [copied, List.length_take]
      omega
    have front : copied = s.left.take copied.length := by
      rw [here, List.take_append_of_le_length within]
      simp only [copied, List.length_take]
      exact List.take_eq_take_min
    have split : n = copied.length + (n - copied.length) := by omega
    rw [moved, block] at ih
    obtain ⟨ihMore, ihAfter⟩ := ih
    simp only at ihMore ihAfter ⊢
    constructor
    · rw [ihMore, split, List.take_add, ← front, ← split]
    · rw [ihAfter, List.drop_drop, ← split]

/-- The byte after the next `n` ones is found behind them, and what follows it is left. -/
theorem readNth_eq (s : Stream) (n : Nat) :
    (s.readNth n).1 = s.left[n]? ∧ (s.readNth n).2.left = s.left.drop (n + 1) := by
  induction n generalizing s with
  | zero =>
    obtain ⟨first, rest⟩ := s.readByte_eq
    rw [readNth, first, rest, List.head?_eq_getElem?, List.drop_one]
    exact ⟨rfl, rfl⟩
  | succ n ih =>
    obtain ⟨first, rest⟩ := s.readByte_eq
    unfold readNth
    split
    next byte after read =>
      obtain ⟨found, moved⟩ := ih after
      rw [read] at rest
      rw [found, moved, rest, List.getElem?_tail, List.drop_tail]
      exact ⟨rfl, rfl⟩
    next after read =>
      rw [read] at first rest
      have finished : s.left = [] := List.head?_eq_none_iff.1 first.symm
      simp only at rest ⊢
      simp [rest, finished]

/-- Exactly `n` bytes, block by block until they are complete or a block comes back empty.
    The stream moves on in either case. -/
def readExact (s : Stream) (n : Nat) : Option Bytes × Stream :=
  if n = 0 then (some [], s)
  else
    match s.readBlock n with
    | ([], after) => (none, after)
    | (byte :: bytes, after) =>
      let (more, last) := after.readExact (n - (bytes.length + 1))
      (more.map (byte :: bytes ++ ·), last)
termination_by n
decreasing_by omega

/-- Exactly `n` bytes are read if that many are left; the stream is read to its end if not. -/
theorem readExact_eq (s : Stream) (n : Nat) :
    (s.readExact n).1 = (if n ≤ s.left.length then some (s.left.take n) else none) ∧
      (s.readExact n).2.left = s.left.drop n := by
  fun_induction readExact s n with
  | case1 s => simp
  | case2 s n positive after block =>
    obtain ⟨front, back⟩ := s.readBlock_eq n
    rw [block] at front back
    have finished : s.left = [] := by
      rcases List.take_eq_nil_iff.1 front.symm with none | finished
      · exact absurd none positive
      · exact finished
    simp only at back ⊢
    simp [back, finished, positive]
  | case3 s n positive byte bytes after block more last rest ih =>
    obtain ⟨front, back⟩ := s.readBlock_eq n
    rw [block] at front back
    simp only at front back ih ⊢
    have size : bytes.length + 1 = min n s.left.length := by
      have := congrArg List.length front
      simpa using this
    rw [rest, back, List.length_drop] at ih
    obtain ⟨ihMore, ihLast⟩ := ih
    by_cases enough : n ≤ s.left.length
    · have complete : n - (bytes.length + 1) = 0 := by omega
      rw [complete] at ihMore ihLast
      simp only [Nat.zero_le, if_true, List.take_zero] at ihMore
      rw [ihMore, ihLast, if_pos enough, front]
      simp
    · have short : ¬ n - (bytes.length + 1) ≤ s.left.length - n := by omega
      have finished : s.left.drop n = [] := List.drop_eq_nil_of_le (by omega)
      rw [if_neg short] at ihMore
      simp only at ihMore ihLast
      rw [ihMore, ihLast, if_neg enough, finished]
      exact ⟨rfl, List.drop_nil⟩

/-- How many bytes are fetched at a time when a stream is read to its end. -/
def blockSize : Nat := 32

/-- All bytes that are left, block by block until a block comes back empty. -/
def readToEnd (s : Stream) : Bytes × Stream :=
  match _block : s.readBlock blockSize with
  | ([], after) => ([], after)
  | (byte :: bytes, after) =>
    let (more, last) := after.readToEnd
    (byte :: bytes ++ more, last)
termination_by s.left.length
decreasing_by
  obtain ⟨front, back⟩ := s.readBlock_eq blockSize
  rw [_block] at front back
  simp only at front back
  have some : 0 < (s.left.take blockSize).length := by simp [← front]
  rw [List.length_take, blockSize] at some
  rw [back, List.length_drop, blockSize]
  omega

/-- Reading to the end gives all that was left and leaves nothing. -/
theorem readToEnd_eq (s : Stream) : s.readToEnd.1 = s.left ∧ s.readToEnd.2.left = [] := by
  fun_induction readToEnd s with
  | case1 s after block =>
    obtain ⟨front, back⟩ := s.readBlock_eq blockSize
    rw [block] at front back
    have nothing : s.left = [] := by
      cases leftover : s.left with
      | nil => rfl
      | cons b rest => simp [leftover, blockSize] at front
    simp only at back ⊢
    simp [back, nothing]
  | case2 s byte bytes after block more last rest ih =>
    obtain ⟨front, back⟩ := s.readBlock_eq blockSize
    rw [block] at front back
    simp only [rest] at front back ih ⊢
    refine ⟨?_, ih.2⟩
    rw [front, ih.1, back, List.take_append_drop]

/-! ## The place stays within the chunks -/

/-- The place is in a chunk or at its end, or else it is just after the last chunk. -/
def InRange (s : Stream) : Prop :=
  s.chunkIndex ≤ s.chunks.length ∧ s.byteIndex ≤ (s.chunks[s.chunkIndex]?.getD []).length

theorem inRange_ofChunks (chunks : List Chunk) : (ofChunks chunks).InRange :=
  ⟨Nat.zero_le _, Nat.zero_le _⟩

theorem inRange_nextChunk {s : Stream} {chunk : Chunk} (h : s.chunks[s.chunkIndex]? = some chunk) :
    s.nextChunk.InRange :=
  ⟨lt_length_of_getElem? h, Nat.zero_le _⟩

theorem inRange_advance {s : Stream} {chunk : Chunk} (h : s.chunks[s.chunkIndex]? = some chunk) {n : Nat}
    (within : s.byteIndex + n ≤ chunk.length) : (s.advance n).InRange := by
  refine ⟨Nat.le_of_lt (lt_length_of_getElem? h), ?_⟩
  simpa only [advance, h, Option.getD_some] using within

theorem inRange_readByte {s : Stream} (inside : s.InRange) : s.readByte.2.InRange := by
  fun_induction readByte s with
  | case1 s h => exact inside
  | case2 s chunk h byte found =>
    obtain ⟨within, -⟩ := List.getElem?_eq_some_iff.1 found
    exact inRange_advance h within
  | case3 s chunk h missing ih => exact ih (inRange_nextChunk h)

theorem inRange_readBlock {s : Stream} (inside : s.InRange) (n : Nat) : (s.readBlock n).2.InRange := by
  fun_induction readBlock s n with
  | case1 s => exact inside
  | case2 s n positive h => exact inside
  | case3 s n positive chunk h finished ih => exact ih (inRange_nextChunk h)
  | case4 s n positive chunk h byte rest started copied more after block ih =>
    rw [block] at ih
    have length := congrArg List.length started
    rw [List.length_drop] at length
    apply ih
    apply inRange_advance h
    simp only [copied, List.length_take]
    simp only [List.length_cons] at length ⊢
    omega

theorem inRange_readNth {s : Stream} (inside : s.InRange) (n : Nat) : (s.readNth n).2.InRange := by
  induction n generalizing s with
  | zero => exact inRange_readByte inside
  | succ n ih =>
    have next := inRange_readByte inside
    unfold readNth
    split
    next byte after read =>
      rw [read] at next
      exact ih next
    next after read =>
      rw [read] at next
      exact next

theorem inRange_readExact {s : Stream} (inside : s.InRange) (n : Nat) : (s.readExact n).2.InRange := by
  fun_induction readExact s n with
  | case1 s => exact inside
  | case2 s n positive after block =>
    have next := inRange_readBlock inside n
    rwa [block] at next
  | case3 s n positive byte bytes after block more last rest ih =>
    have next := inRange_readBlock inside n
    rw [block] at next
    rw [rest] at ih
    exact ih next

theorem inRange_readToEnd {s : Stream} (inside : s.InRange) : s.readToEnd.2.InRange := by
  fun_induction readToEnd s with
  | case1 s after block =>
    have next := inRange_readBlock inside blockSize
    rwa [block] at next
  | case2 s byte bytes after block more last rest ih =>
    have next := inRange_readBlock inside blockSize
    rw [block] at next
    rw [rest] at ih
    exact ih next

theorem chunks_readByte (s : Stream) : s.readByte.2.chunks = s.chunks := by
  fun_induction readByte s with
  | case1 s h => rfl
  | case2 s chunk h byte found => rfl
  | case3 s chunk h missing ih => exact ih

theorem chunks_readBlock (s : Stream) (n : Nat) : (s.readBlock n).2.chunks = s.chunks := by
  fun_induction readBlock s n with
  | case1 s => rfl
  | case2 s n positive h => rfl
  | case3 s n positive chunk h finished ih => exact ih
  | case4 s n positive chunk h byte rest started copied more after block ih =>
    rw [block] at ih
    exact ih

theorem chunks_readNth (s : Stream) (n : Nat) : (s.readNth n).2.chunks = s.chunks := by
  induction n generalizing s with
  | zero => exact chunks_readByte s
  | succ n ih =>
    have same := chunks_readByte s
    unfold readNth
    split
    next byte after read => rw [ih, ← same, read]
    next after read => rw [← same, read]

theorem chunks_readExact (s : Stream) (n : Nat) : (s.readExact n).2.chunks = s.chunks := by
  fun_induction readExact s n with
  | case1 s => rfl
  | case2 s n positive after block => rw [← chunks_readBlock s n, block]
  | case3 s n positive byte bytes after block more last rest ih =>
    rw [← chunks_readBlock s n, block]
    rwa [rest] at ih

theorem chunks_readToEnd (s : Stream) : s.readToEnd.2.chunks = s.chunks := by
  fun_induction readToEnd s with
  | case1 s after block => rw [← chunks_readBlock s blockSize, block]
  | case2 s byte bytes after block more last rest ih =>
    rw [← chunks_readBlock s blockSize, block]
    rwa [rest] at ih

end Stream

end HttpReply
