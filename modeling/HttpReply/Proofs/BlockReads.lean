import Mathlib.Algebra.Ring.Nat
import Mathlib.Data.List.ReduceOption
import HttpReply.Proofs.Runs

/-!
# Blocks and single bytes

A block is copied out of the chunks piece by piece, and a single byte is looked up at its
place. Both come to the same bytes, and both leave the same stream: not only the same
bytes are left, but the place is in the same chunk and at the same index there.
-/
namespace HttpReply

namespace Stream

/-- So many bytes, read one at a time. After the end each of them is missing. -/
def readBytes (s : Stream) (n : Nat) : List (Option UInt8) × Stream :=
  Machine.run (fun state (_ : Unit) => state.readByte) s (List.replicate n ())

/-- The bytes of single reads, up to the first read that gives none. -/
def gained (reads : List (Option UInt8)) : Bytes := (reads.takeWhile Option.isSome).reduceOption

theorem readBytes_zero (s : Stream) : s.readBytes 0 = ([], s) := rfl

theorem readBytes_succ (s : Stream) (n : Nat) :
    s.readBytes (n + 1) = (s.readByte.1 :: (s.readByte.2.readBytes n).1, (s.readByte.2.readBytes n).2) :=
  rfl

theorem readBytes_add (s : Stream) (m n : Nat) :
    s.readBytes (m + n) =
      ((s.readBytes m).1 ++ ((s.readBytes m).2.readBytes n).1, ((s.readBytes m).2.readBytes n).2) := by
  rw [readBytes, ← List.replicate_append_replicate, Machine.run_append]
  rfl

theorem gained_append (bytes : Bytes) (reads : List (Option UInt8)) :
    gained (bytes.map some ++ reads) = bytes ++ gained reads := by
  have all : ∀ read ∈ bytes.map some, Option.isSome read = true := by simp
  rw [gained, List.takeWhile_append_of_pos all, List.reduceOption_append, ← gained]
  exact congrArg (· ++ gained reads) (by simp [List.reduceOption])

section

variable {s : Stream} {chunk : Chunk} {n : Nat}

/-- After the last chunk every read gives none and leaves the place. -/
theorem readBytes_end (ended : s.chunks[s.chunkIndex]? = none) (n : Nat) :
    s.readBytes n = (List.replicate n none, s) := by
  induction n with
  | zero => rfl
  | succ n ih => rw [readBytes_succ, readByte_end ended, ih, List.replicate_succ]

/-- At the end of a chunk the first read goes on in the next one. With no read at all the place stays. -/
theorem readBytes_next (found : s.chunks[s.chunkIndex]? = some chunk) (finished : chunk.drop s.byteIndex = [])
    (wanted : n ≠ 0) : s.readBytes n = s.nextChunk.readBytes n := by
  have missing : chunk[s.byteIndex]? = none := List.getElem?_eq_none_iff.2 (List.drop_eq_nil_iff.1 finished)
  obtain ⟨m, rfl⟩ := Nat.exists_eq_succ_of_ne_zero wanted
  rw [readBytes_succ, readBytes_succ, readByte_next found missing]

/-- As many reads as there are bytes in the rest of the chunk, or fewer, stay in the chunk. -/
theorem readBytes_here (found : s.chunks[s.chunkIndex]? = some chunk)
    (within : n ≤ (chunk.drop s.byteIndex).length) :
    s.readBytes n = (((chunk.drop s.byteIndex).take n).map some, s.advance n) := by
  induction n with
  | zero => rfl
  | succ n ih =>
    have here : n < (chunk.drop s.byteIndex).length := within
    have there : (s.advance n).chunks[(s.advance n).chunkIndex]? = some chunk := found
    have byte : chunk[(s.advance n).byteIndex]? = some (chunk.drop s.byteIndex)[n] := by
      rw [← List.getElem?_eq_getElem here, List.getElem?_drop]
      rfl
    have read : (s.advance n).readByte = (some (chunk.drop s.byteIndex)[n], s.advance (n + 1)) :=
      readByte_here there byte
    rw [readBytes_add, ih (Nat.le_of_lt here), readBytes_succ, readBytes_zero, read, ← List.take_append_getElem here,
      List.map_append]
    rfl

end

/-- A block holds the bytes that as many single reads give, and it ends at their place. -/
theorem readBlock_eq_readBytes (s : Stream) (n : Nat) :
    s.readBlock n = (gained (s.readBytes n).1, (s.readBytes n).2) := by
  fun_induction readBlock s n with
  | case1 s => rfl
  | case2 s n positive ended =>
    obtain ⟨m, rfl⟩ := Nat.exists_eq_succ_of_ne_zero positive
    rw [readBytes_end ended]
    rfl
  | case3 s n positive chunk found finished ih => rw [ih, readBytes_next found finished positive]
  | case4 s n positive chunk found byte rest started copied more after block ih =>
    have width : copied.length ≤ n := List.length_take_le n _
    have within : copied.length ≤ (chunk.drop s.byteIndex).length := by
      rw [started]
      exact List.length_take_le' n _
    have front : (chunk.drop s.byteIndex).take copied.length = copied := by
      simp only [started, copied, List.length_take, ← List.take_eq_take_min]
    -- The first single reads stay in the chunk and give what is copied; the others are those of the next block.
    have here := readBytes_here found within
    rw [front] at here
    rw [block] at ih
    obtain ⟨rfl, rfl⟩ := Prod.mk.inj ih
    conv => rhs; rw [← Nat.add_sub_cancel' width, readBytes_add, here]
    simp only [gained_append]

/-- A block can be read in two parts. -/
theorem readBlock_add (s : Stream) (m n : Nat) :
    s.readBlock (m + n) =
      ((s.readBlock m).1 ++ ((s.readBlock m).2.readBlock n).1, ((s.readBlock m).2.readBlock n).2) := by
  apply Prod.ext
  · obtain ⟨front, rest⟩ := s.readBlock_eq m
    rw [(readBlock_eq _ _).1, (readBlock_eq _ n).1, front, rest, List.take_add]
  · simp only [readBlock_eq_readBytes, readBytes_add]

/-- Buffers filled one after another leave the place that one block of their whole length leaves. -/
theorem run_into (s : Stream) (buffers : List Bytes) :
    (Machine.run answer s (buffers.map .into)).2 = (s.readBlock (buffers.map List.length).sum).2 := by
  induction buffers generalizing s with
  | nil => rw [List.map_nil, List.map_nil, List.sum_nil, readBlock_zero, Machine.run]
  | cons buffer rest ih =>
    rw [List.map_cons, List.map_cons, List.sum_cons, Machine.run_cons, readBlock_add, ← ih]
    rfl

/-- A block read is as many single reads. Whatever has been read from a stream over any chunks, a buffer of any
    size gets at its front the bytes that as many single reads give before the first that gives none, the count
    says how many these are, and the stream is left in the very same state. So buffers that are filled one after
    another leave the state that a single buffer of their whole size leaves. -/
theorem block_read_as_bytes (chunks : List Chunk) (requests : List Request) :
    let s := (Machine.run answer (ofChunks chunks) requests).2
    (∀ buffer : Bytes,
      let bytes := gained (s.readBytes buffer.length).1
      s.readInto buffer = (bytes.length, bytes ++ buffer.drop bytes.length, (s.readBytes buffer.length).2)) ∧
    ∀ (buffers : List Bytes) (buffer : Bytes), buffer.length = (buffers.map List.length).sum →
      (Machine.run answer s (buffers.map .into)).2 = (s.readInto buffer).2.2 := by
  intro s
  constructor
  · intro buffer
    simp only [readInto, readBlock_eq_readBytes]
  · intro buffers buffer size
    rw [run_into, ← size]
    rfl

/-- A byte is read, and then a buffer of four takes what is left behind an empty chunk. A buffer of one, an
    empty one and one of three stop just as it does, after the last chunk. -/
theorem blocks_across_empty_chunks :
    let chunks : List Chunk := [[1, 2], [], [3]]
    let s := (Machine.run answer (ofChunks chunks) [.byte]).2
    let buffers : List Bytes := [[0], [], [0, 0, 0]]
    s = ⟨chunks, 0, 1⟩ ∧ s.readBytes 4 = ([some 2, some 3, none, none], ⟨chunks, 3, 0⟩) ∧
      s.readInto [7, 7, 7, 7] = (2, [2, 3, 7, 7], ⟨chunks, 3, 0⟩) ∧ (buffers.map List.length).sum = 4 ∧
      (Machine.run answer s (buffers.map .into)).2 = ⟨chunks, 3, 0⟩ := by
  intro chunks s buffers
  have place : s = ⟨chunks, 0, 1⟩ := by decide +kernel
  have reads : s.readBytes 4 = ([some 2, some 3, none, none], ⟨chunks, 3, 0⟩) := by decide +kernel
  obtain ⟨single, together⟩ := block_read_as_bytes chunks [.byte]
  have filled : s.readInto [7, 7, 7, 7] = (2, [2, 3, 7, 7], ⟨chunks, 3, 0⟩) := by
    have four : s.readBytes ([7, 7, 7, 7] : Bytes).length = ([some 2, some 3, none, none], ⟨chunks, 3, 0⟩) := reads
    refine (single [7, 7, 7, 7]).trans ?_
    rw [four]
    rfl
  refine ⟨place, reads, filled, rfl, ?_⟩
  rw [together buffers [7, 7, 7, 7] rfl, filled]

end Stream

end HttpReply
