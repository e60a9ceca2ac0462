import HttpReply.Charset.Decode
import HttpReply.Error

/-!
# Body chunks as text

A body arrives in chunks. Each chunk is decoded by itself, so the chunks of a text
must be cut between characters.
-/
namespace HttpReply

/-- One fragment of a body, as it was received. -/
abbrev Chunk := Bytes

namespace Chunk

/-- The chunk that a text is sent as. -/
def ofText (t : Text) : Chunk := Utf8.encode t

/-- The text of a chunk, or the chunk itself as the culprit. -/
def decode (tables : EastAsian.Tables) (charset : Charset) (chunk : Chunk) : Except Error Text :=
  match charset.decode? tables chunk with
  | some text => .ok text
  | none => .error (.notText charset chunk)

theorem decode_eq_ok_iff {tables : EastAsian.Tables} {charset : Charset} {chunk : Chunk} {text : Text} :
    decode tables charset chunk = .ok text ↔ charset.decode? tables chunk = some text := by
  unfold decode
  cases charset.decode? tables chunk <;> simp

end Chunk

namespace Body

/-- How many bytes chunks hold together. -/
def byteCount : List Chunk → Nat
  | [] => 0
  | chunk :: rest => chunk.length + byteCount rest

theorem byteCount_eq (chunks : List Chunk) : byteCount chunks = chunks.flatten.length := by
  induction chunks with
  | nil => rfl
  | cons chunk rest ih => rw [byteCount, ih, List.flatten_cons, List.length_append]

/-- The text of all chunks in order, each decoded by the charset that the label names, with the
    given tables for the East Asian encodings. -/
def decodeBy (tables : EastAsian.Tables) (label : Text) (chunks : List Chunk) : Except Error Text :=
  match Charset.ofLabel? label with
  | none => .error (.unknownCharset label)
  | some charset => (chunks.mapM (Chunk.decode tables charset)).map List.flatten

section

variable {tables : EastAsian.Tables} {label : Text} {charset : Charset} (named : Charset.ofLabel? label = some charset)

include named

theorem decodeBy_nil : decodeBy tables label [] = .ok [] := by
  simp only [decodeBy, named]
  rfl

theorem decodeBy_cons (chunk : Chunk) (rest : List Chunk) :
    decodeBy tables label (chunk :: rest) =
      (Chunk.decode tables charset chunk).bind fun text => (decodeBy tables label rest).map (text ++ ·) := by
  simp only [decodeBy, named, List.mapM_cons]
  cases Chunk.decode tables charset chunk with
  | error e => rfl
  | ok text =>
    cases rest.mapM (Chunk.decode tables charset) <;> rfl

theorem decodeBy_singleton (chunk : Chunk) :
    decodeBy tables label [chunk] = Chunk.decode tables charset chunk := by
  rw [decodeBy_cons named, decodeBy_nil named]
  cases Chunk.decode tables charset chunk with
  | error e => rfl
  | ok text =>
    show Except.ok (text ++ []) = .ok text
    rw [List.append_nil]

/-- Chunks are decoded to what the first and then the others are decoded to. -/
theorem decodeBy_cons_eq_ok_iff {chunk : Chunk} {rest : List Chunk} {text : Text} :
    decodeBy tables label (chunk :: rest) = .ok text ↔
      ∃ first others, charset.decode? tables chunk = some first ∧ decodeBy tables label rest = .ok others ∧
        text = first ++ others := by
  rw [decodeBy_cons named]
  constructor
  · intro decoded
    cases head : Chunk.decode tables charset chunk with
    | error e =>
      rw [head] at decoded
      cases decoded
    | ok first =>
      cases tail : decodeBy tables label rest with
      | error e =>
        rw [head, tail] at decoded
        cases decoded
      | ok others =>
        rw [head, tail] at decoded
        exact ⟨first, others, Chunk.decode_eq_ok_iff.1 head, rfl, (Except.ok.inj decoded).symm⟩
  · rintro ⟨first, others, head, tail, rfl⟩
    rw [Chunk.decode_eq_ok_iff.2 head, tail]
    rfl

end

/-- A label that decodes anything names a charset. -/
theorem named_of_decodeBy {tables : EastAsian.Tables} {label : Text} {chunks : List Chunk} {text : Text}
    (decoded : decodeBy tables label chunks = .ok text) : ∃ charset, Charset.ofLabel? label = some charset := by
  unfold decodeBy at decoded
  cases named : Charset.ofLabel? label with
  | none =>
    rw [named] at decoded
    cases decoded
  | some charset => exact ⟨charset, rfl⟩

end Body

end HttpReply
