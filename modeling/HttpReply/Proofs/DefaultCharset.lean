import Mathlib.Data.List.Nodup
import HttpReply.Proofs.BodyStreams

/-!
# The default charset

In the default charset every byte stands for a character of its own, so that a body is the
bytes of its text again. A stream over the body therefore yields the same bytes before the
body is decoded in that charset and after.
-/
namespace HttpReply

namespace CodePage

variable {page : CodePage}

theorem toNat_ascii {n : Nat} (low : n < 0x80) : (Char.ofNat n).toNat = n := by
  have valid : n.isValidChar := .inl (by omega)
  exact scalar?_eq_some_iff.1 (if_pos valid)

theorem char?_of_lt {b : UInt8} (low : b.toNat < 0x80) : page.char? b = some (Char.ofNat b.toNat) := by
  have small : b < 0x80 := low
  rw [char?, if_pos small]

theorem char?_eq_some_iff_of_le {b : UInt8} (high : 0x80 ≤ b.toNat) {c : Char} :
    page.char? b = some c ↔ page.upperHalf[b.toNat - 0x80]? = some (some c) := by
  have large : ¬ b < 0x80 := Nat.not_lt.2 high
  rw [char?, if_neg large, Option.join_eq_some_iff]

/-- Where no character stands twice in the upper half and none of ASCII, the byte of a character
    is the only one that stands for it. -/
theorem byte?_eq_some_iff (distinct : page.upperHalf.Nodup)
    (beyond : ∀ c, some c ∈ page.upperHalf → 0x80 ≤ c.toNat) {c : Char} {b : UInt8} :
    page.byte? c = some b ↔ page.char? b = some c := by
  have range := b.toNat_lt
  unfold byte?
  by_cases low : c.toNat < 0x80
  · rw [if_pos low]
    constructor
    · intro same
      obtain rfl := Option.some.inj same
      have value : (UInt8.ofNat c.toNat).toNat = c.toNat := by simp; omega
      rw [char?_of_lt (by omega), value, Char.ofNat_toNat]
    · intro stands
      by_cases small : b.toNat < 0x80
      · rw [char?_of_lt small] at stands
        obtain rfl := Option.some.inj stands
        rw [toNat_ascii small, UInt8.ofNat_toNat]
      · have member := List.mem_of_getElem? ((char?_eq_some_iff_of_le (by omega)).1 stands)
        have := beyond c member
        omega
  · rw [if_neg low, Option.map_eq_some_iff]
    constructor
    · rintro ⟨i, found, rfl⟩
      obtain ⟨within, there, -⟩ := List.idxOf?_eq_some_iff.1 found
      have width := page.length_upperHalf
      have value : (UInt8.ofNat (0x80 + i)).toNat = 0x80 + i := by simp; omega
      rw [char?_eq_some_iff_of_le (by omega), value, Nat.add_sub_cancel_left, List.getElem?_eq_getElem within, there]
    · intro stands
      have high : 0x80 ≤ b.toNat := by
        by_contra small
        rw [char?_of_lt (by omega)] at stands
        obtain rfl := Option.some.inj stands
        rw [toNat_ascii (by omega)] at low
        omega
      obtain ⟨within, there⟩ := List.getElem?_eq_some_iff.1 ((char?_eq_some_iff_of_le high).1 stands)
      refine ⟨b.toNat - 0x80, List.idxOf?_eq_some_iff.2 ⟨within, there, ?_⟩, ?_⟩
      · intro j earlier again
        have same : j = b.toNat - 0x80 := distinct.getElem_inj_iff.1 (again.trans there.symm)
        omega
      · rw [Nat.add_sub_cancel' high, UInt8.ofNat_toNat]

end CodePage

namespace Charset.Default

theorem distinct_page : page.upperHalf.Nodup := by
  -- Code points are compared much faster than characters.
  have codes : (page.upperHalf.map fun entry => entry.elim 0 Char.toNat).Nodup := by decide +kernel
  exact codes.of_map

theorem beyond_page (c : Char) (member : some c ∈ page.upperHalf) : 0x80 ≤ c.toNat := by
  have all : page.upperHalf.all (fun entry => entry.all fun c => 0x80 ≤ c.toNat) = true := by decide +kernel
  simpa using List.all_eq_true.1 all _ member

theorem total_page (b : UInt8) : ∃ c, page.char? b = some c := by
  by_cases low : b.toNat < 0x80
  · exact ⟨_, CodePage.char?_of_lt low⟩
  · have range := b.toNat_lt
    have within : b.toNat - 0x80 < page.upperHalf.length := by
      rw [CodePage.length_upperHalf]
      omega
    have full : page.upperHalf.all Option.isSome = true := by decide +kernel
    obtain ⟨c, there⟩ := Option.isSome_iff_exists.1 (List.all_eq_true.1 full _ (List.getElem_mem within))
    exact ⟨c, (CodePage.char?_eq_some_iff_of_le (by omega)).2 (by rw [List.getElem?_eq_getElem within, there])⟩

/-- The character that a byte stands for in the default charset. -/
def char (b : UInt8) : Char := (page.char? b).getD '\uFFFD'

theorem char?_eq (b : UInt8) : page.char? b = some (char b) := by
  obtain ⟨c, stands⟩ := total_page b
  rw [char, stands]
  rfl

theorem encodeChar_char (b : UInt8) : encodeChar (char b) = [b] := by
  have byte : page.byte? (char b) = some b := (CodePage.byte?_eq_some_iff distinct_page beyond_page).2 (char?_eq b)
  rw [encodeChar, byte]

/-- The bytes of characters that bytes stand for are these bytes. -/
theorem encode_map_char (bytes : Bytes) : encode (bytes.map char) = bytes := by
  induction bytes with
  | nil => rfl
  | cons b rest ih => rw [List.map_cons, encode, List.flatMap_cons, ← encode, ih, encodeChar_char]; rfl

theorem decode?_eq (tables : EastAsian.Tables) (bytes : Bytes) :
    (Charset.singleByte page).decode? tables bytes = some (bytes.map char) := by
  rw [decode?, CodePage.readAll_next]
  induction bytes with
  | nil => rfl
  | cons b rest ih =>
    rw [List.mapM_cons, char?_eq, ih]
    rfl

end Charset.Default

namespace Body

/-- A label of the default charset decodes every body, byte by byte. -/
theorem decodeBy_eq_of_default (tables : EastAsian.Tables) {label : Text}
    (named : Charset.ofLabel? label = Charset.ofLabel? Charset.Default.label) (chunks : List Chunk) :
    decodeBy tables label chunks = .ok (chunks.flatten.map Charset.Default.char) := by
  rw [Charset.Default.ofLabel?_label] at named
  induction chunks with
  | nil => exact decodeBy_nil named
  | cons chunk rest ih =>
    refine (decodeBy_cons_eq_ok_iff named).2 ⟨_, _, Charset.Default.decode?_eq _ chunk, ih, ?_⟩
    rw [List.flatten_cons, List.map_append]

end Body

namespace Response

/-- Whatever stands in the tables, a label of the default charset decodes every body to one character for
    each byte, and the text in the default charset is the body again. So, whatever has been asked before
    of a response that keeps no text yet, and whatever is asked after its body has been decoded in that
    charset: the streams opened before and after have the same bytes, the same size, and the same
    answers to all requests. -/
theorem lossless_in_default_charset :
    (∀ (tables : EastAsian.Tables) (label : Text) (chunks : List Chunk),
      Charset.ofLabel? label = Charset.ofLabel? Charset.Default.label →
        ∃ text, Body.decodeBy tables label chunks = .ok text ∧ text.length = Body.byteCount chunks ∧
          Charset.Default.encode text = chunks.flatten) ∧
    ∀ (tables : EastAsian.Tables) (status : Option Status) (headers : Headers) (chunks : List Chunk)
      (before after : List Call) (call : Call) (requested : Option Text),
      let start := ((received status (some headers) (some chunks)).askAll tables before).2
      let decoded := ((start.ask tables call).after.askAll tables after).2
      let label := (CharsetChoice.make (headers.value? contentTypeName) requested).label
      chunks ≠ [] → start.text = none → call.requested? = some requested →
      Charset.ofLabel? label = Charset.ofLabel? Charset.Default.label →
        ∃ text first second, (start.ask tables call).answer = .ok (.text (call.shown text)) ∧ decoded.text = some text ∧
          start.bodyStream.answer = .ok first ∧ decoded.bodyStream.answer = .ok second ∧
          first.left = chunks.flatten ∧ second.left = chunks.flatten ∧
          first.size = Body.byteCount chunks ∧ second.size = Body.byteCount chunks ∧
          ∀ requests, (Machine.run Stream.answer first requests).1 = (Machine.run Stream.answer second requests).1 := by
  refine ⟨?_, ?_⟩
  · intro tables label chunks named
    refine ⟨_, Body.decodeBy_eq_of_default tables named chunks, ?_, Charset.Default.encode_map_char _⟩
    rw [List.length_map, Body.byteCount_eq]
  · intro tables status headers chunks before after call requested start decoded label body empty asks named
    have decodes : start.freshText tables requested = .ok (chunks.flatten.map Charset.Default.char) := by
      rw [freshText_askAll, freshText_received status headers body]
      exact Body.decodeBy_eq_of_default tables named chunks
    obtain ⟨answered, moved⟩ := @ask_text tables start _ _ asks
    obtain ⟨fresh, keeps⟩ := @bodyText_of_none tables start empty requested
    have kept : decoded.text = some (chunks.flatten.map Charset.Default.char) := by
      rw [text_askAll, moved, keeps, decodes]
      rfl
    have bodyBefore : start.getChunks = .ok chunks :=
      (getChunks_askAll _ before).trans (getChunks_received status (some headers) body)
    have bodyAfter : decoded.getChunks = .ok chunks :=
      (getChunks_askAll _ after).trans ((getChunks_askAll start [call]).trans bodyBefore)
    obtain ⟨first, opened, firstAt⟩ := bodyStream_at bodyBefore
    obtain ⟨second, reopened, secondAt⟩ := bodyStream_at bodyAfter
    rw [streamed, empty] at firstAt
    simp only [streamed, kept, Charset.Default.encode_map_char] at secondAt
    refine ⟨_, first, second, ?_, kept, opened, reopened, firstAt.left, secondAt.left, ?_, ?_, ?_⟩
    · rw [answered, fresh, decodes]
      rfl
    · rw [firstAt.size, Body.byteCount_eq]
      rfl
    · rw [secondAt.size, Body.byteCount_eq]
      rfl
    · intro requests
      have agree := fun (s : Stream) (c : Cursor) request (here : s.At c) => here.answer request
      rw [(Machine.run_related Stream.At agree firstAt requests).1,
        (Machine.run_related Stream.At agree secondAt requests).1]

/-- A first attempt fails, an excerpt decodes the body, and the charset asked for after it is unknown. -/
theorem lossless_after_failed_attempt :
    let tables := EastAsian.Tables.blank
    let chunks : List Chunk := [[0x80], [0x00, 0xE9]]
    let start := ((received none (some {}) (some chunks)).askAll tables [.body (some "utf-8".toList), .cookies]).2
    let decoded :=
      ((start.ask tables (.excerpt (some " US-ASCII\t".toList) 1)).after.askAll tables [.body (some "bogus".toList)]).2
    chunks ≠ [] ∧ start.text = none ∧
      Charset.ofLabel? " US-ASCII\t".toList = Charset.ofLabel? Charset.Default.label ∧
      ∃ first second, start.bodyStream.answer = .ok first ∧ decoded.bodyStream.answer = .ok second ∧
        first.left = [0x80, 0x00, 0xE9] ∧ second.left = [0x80, 0x00, 0xE9] := by
  intro tables chunks start decoded
  have body : chunks ≠ [] := by decide
  have empty : start.text = none := by decide +kernel
  have named : Charset.ofLabel? " US-ASCII\t".toList = Charset.ofLabel? Charset.Default.label := by decide +kernel
  obtain ⟨_, first, second, -, -, opened, reopened, left, again, -⟩ :=
    lossless_in_default_charset.2 tables none {} chunks [.body (some "utf-8".toList), .cookies]
      [.body (some "bogus".toList)] (.excerpt (some " US-ASCII\t".toList) 1) (some " US-ASCII\t".toList)
      body empty rfl named
  exact ⟨body, empty, named, first, second, opened, reopened, left, again⟩

end Response

end HttpReply
