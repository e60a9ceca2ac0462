import HttpReply.Proofs.ChunkDecoding

/-!
# Single-byte charsets

In a single-byte charset a byte stands for one character or for none, whatever stands around it. So the
text of a body is that of its bytes one by one, however they are cut into chunks. If a byte
stands for none, the chunk that holds the first such byte is reported.
-/
namespace HttpReply

/-- The charsets in which characters are single bytes. -/
inductive SingleByte
  | codePage (page : CodePage)
  | userDefined
deriving DecidableEq, Repr

namespace SingleByte

def charset : SingleByte → Charset
  | codePage page => .singleByte page
  | userDefined => .userDefined

/-- The character that a byte stands for, if there is one. -/
def char? : SingleByte → UInt8 → Option Char
  | codePage page, b => page.char? b
  | userDefined, b => some (Charset.userDefinedChar b)

/-- The bytes one by one stand for the characters of the text. -/
def Spells (code : SingleByte) (bytes : Bytes) (text : Text) : Prop := bytes.map code.char? = text.map some

/-- The byte at the place stands for no character, and every byte before it stands for one. -/
def FirstUnmapped (code : SingleByte) (bytes : Bytes) (place : Nat) : Prop :=
  (∃ b, bytes[place]? = some b ∧ code.char? b = none) ∧ ∀ b ∈ bytes.take place, ∃ c, code.char? b = some c

variable {code : SingleByte}

theorem mapM_eq_some_iff {bytes : Bytes} {text : Text} :
    bytes.mapM code.char? = some text ↔ code.Spells bytes text := by
  induction bytes generalizing text with
  | nil => cases text <;> simp [Spells]
  | cons b rest ih =>
    rw [List.mapM_cons]
    cases found : code.char? b with
    | none => cases text <;> simp [Spells, found]
    | some c =>
      simp only [Option.pure_def, Option.bind_eq_bind, Option.bind_some, Option.bind_eq_some_iff, ih, Option.some.injEq]
      constructor
      · rintro ⟨others, spells, rfl⟩
        rw [Spells, List.map_cons, List.map_cons, found, spells]
      · intro spells
        rw [Spells, List.map_cons, found] at spells
        obtain ⟨d, others, rfl, first, rest⟩ := List.map_eq_cons_iff.1 spells.symm
        obtain rfl := Option.some.inj first
        exact ⟨others, rest.symm, rfl⟩

theorem decode?_eq_mapM (code : SingleByte) (tables : EastAsian.Tables) (bytes : Bytes) :
    code.charset.decode? tables bytes = bytes.mapM code.char? := by
  cases code with
  | codePage page => exact page.readAll_next bytes
  | userDefined =>
    have total : bytes.map userDefined.char? = (bytes.map Charset.userDefinedChar).map some := by
      rw [List.map_map]
      rfl
    exact (mapM_eq_some_iff.2 total).symm

theorem decode?_eq_some_iff {tables : EastAsian.Tables} {bytes : Bytes} {text : Text} :
    code.charset.decode? tables bytes = some text ↔ code.Spells bytes text := by
  rw [decode?_eq_mapM, mapM_eq_some_iff]

theorem spells_append {front back : Bytes} {text : Text} :
    code.Spells (front ++ back) text ↔
      ∃ first others, code.Spells front first ∧ code.Spells back others ∧ text = first ++ others := by
  constructor
  · intro spells
    rw [Spells, List.map_append] at spells
    obtain ⟨first, others, rfl, left, right⟩ := List.map_eq_append_iff.1 spells.symm
    exact ⟨first, others, left.symm, right.symm, rfl⟩
  · rintro ⟨first, others, left, right, rfl⟩
    rw [Spells, List.map_append, List.map_append, left, right]

/-- Bytes have a text exactly if each of them stands for a character. -/
theorem exists_spells_iff {bytes : Bytes} :
    (∃ text, code.Spells bytes text) ↔ ∀ b ∈ bytes, ∃ c, code.char? b = some c := by
  constructor
  · rintro ⟨text, spells⟩ b member
    have inside : code.char? b ∈ text.map some := by
      rw [← spells]
      exact List.mem_map_of_mem member
    obtain ⟨c, -, stands⟩ := List.mem_map.1 inside
    exact ⟨c, stands.symm⟩
  · intro mapped
    induction bytes with
    | nil => exact ⟨[], rfl⟩
    | cons b rest ih =>
      obtain ⟨c, stands⟩ := mapped b List.mem_cons_self
      obtain ⟨text, spells⟩ := ih fun other member => mapped other (List.mem_cons_of_mem b member)
      exact ⟨c :: text, by rw [Spells, List.map_cons, List.map_cons, stands, spells]⟩

theorem exists_firstUnmapped {bytes : Bytes} (unmapped : ∃ b ∈ bytes, code.char? b = none) :
    ∃ place, code.FirstUnmapped bytes place := by
  induction bytes with
  | nil =>
    obtain ⟨b, member, -⟩ := unmapped
    cases member
  | cons b rest ih =>
    cases found : code.char? b with
    | none => exact ⟨0, ⟨b, rfl, found⟩, fun other member => by cases member⟩
    | some c =>
      obtain ⟨other, member, nothing⟩ := unmapped
      rcases List.mem_cons.1 member with rfl | later
      · rw [found] at nothing
        cases nothing
      · obtain ⟨place, here, mapped⟩ := ih ⟨other, later, nothing⟩
        exact ⟨place + 1, here, List.forall_mem_cons.2 ⟨⟨c, found⟩, mapped⟩⟩

theorem firstUnmapped_front {front back : Bytes} {place : Nat} (first : code.FirstUnmapped (front ++ back) place)
    (within : place < front.length) : ∃ b ∈ front, code.char? b = none := by
  obtain ⟨⟨b, here, nothing⟩, -⟩ := first
  rw [List.getElem?_append_left within] at here
  exact ⟨b, List.mem_of_getElem? here, nothing⟩

theorem firstUnmapped_back {front back : Bytes} {place : Nat} (first : code.FirstUnmapped (front ++ back) place)
    (beyond : front.length ≤ place) :
    (∀ b ∈ front, ∃ c, code.char? b = some c) ∧ code.FirstUnmapped back (place - front.length) := by
  obtain ⟨⟨b, here, nothing⟩, mapped⟩ := first
  rw [List.getElem?_append_right beyond] at here
  rw [List.take_append, List.take_of_length_le beyond, List.forall_mem_append] at mapped
  exact ⟨mapped.1, ⟨b, here, nothing⟩, mapped.2⟩

end SingleByte

namespace Body

/-- The chunk that holds the byte at a place of the body. -/
def chunkAt? : List Chunk → Nat → Option Chunk
  | [], _ => none
  | chunk :: rest, place => if place < chunk.length then some chunk else chunkAt? rest (place - chunk.length)

variable {tables : EastAsian.Tables} {label : Text} {code : SingleByte}

section

variable (named : Charset.ofLabel? label = some code.charset)

include named

theorem decodeBy_eq_ok_iff_spells {chunks : List Chunk} {text : Text} :
    decodeBy tables label chunks = .ok text ↔ code.Spells chunks.flatten text := by
  induction chunks generalizing text with
  | nil =>
    rw [decodeBy_nil named]
    cases text <;> simp [SingleByte.Spells]
  | cons chunk rest ih =>
    simp only [decodeBy_cons_eq_ok_iff named, SingleByte.decode?_eq_some_iff, ih, List.flatten_cons,
      SingleByte.spells_append]

/-- The chunk with the first byte that stands for nothing is reported. -/
theorem decodeBy_of_firstUnmapped {chunks : List Chunk} {place : Nat}
    (first : code.FirstUnmapped chunks.flatten place) :
    ∃ chunk, chunkAt? chunks place = some chunk ∧
      decodeBy tables label chunks = .error (.notText code.charset chunk) := by
  induction chunks generalizing place with
  | nil =>
    obtain ⟨⟨b, here, -⟩, -⟩ := first
    cases here
  | cons chunk rest ih =>
    rw [List.flatten_cons] at first
    rw [decodeBy_cons named]
    -- The chunk holds the byte and has no text, or else it has a text and the byte is in a later one.
    by_cases within : place < chunk.length
    · have undecodable : ¬ ∃ text, code.charset.decode? tables chunk = some text := by
        simp only [SingleByte.decode?_eq_some_iff, SingleByte.exists_spells_iff]
        obtain ⟨b, member, nothing⟩ := SingleByte.firstUnmapped_front first within
        intro mapped
        obtain ⟨c, stands⟩ := mapped b member
        rw [nothing] at stands
        cases stands
      have failed := Option.eq_none_iff_forall_ne_some.2 fun text found => undecodable ⟨text, found⟩
      refine ⟨chunk, if_pos within, ?_⟩
      rw [Chunk.decode_eq_error_iff.2 ⟨failed, rfl⟩]
      rfl
    · obtain ⟨mapped, later⟩ := SingleByte.firstUnmapped_back first (Nat.le_of_not_lt within)
      obtain ⟨text, spells⟩ := SingleByte.exists_spells_iff.2 mapped
      obtain ⟨culprit, holds, failed⟩ := ih later
      refine ⟨culprit, by rw [chunkAt?, if_neg within, holds], ?_⟩
      rw [Chunk.decode_eq_ok_iff.2 (SingleByte.decode?_eq_some_iff.2 spells), failed]
      rfl

end

/-- Whatever stands in the tables of other encodings: with a label of a single-byte charset, a body is decoded
    exactly if each of its bytes stands for a character, and the text is that of the bytes one
    by one, for other chunks with the same bytes too. If a byte stands for nothing, each body is
    reported by its chunk that holds the first such byte. -/
theorem cut_without_influence (code : SingleByte) (tables : EastAsian.Tables) {label : Text}
    (named : Charset.ofLabel? label = some code.charset) {chunks others : List Chunk}
    (same : chunks.flatten = others.flatten) :
    ((∃ text, decodeBy tables label chunks = .ok text) ↔ ∃ text, decodeBy tables label others = .ok text) ∧
    ((∃ text, decodeBy tables label chunks = .ok text) ↔ ∀ b ∈ chunks.flatten, ∃ c, code.char? b = some c) ∧
    (∀ text, decodeBy tables label chunks = .ok text ↔ code.Spells chunks.flatten text) ∧
    (∀ text, decodeBy tables label others = .ok text ↔ code.Spells chunks.flatten text) ∧
    ((∃ b ∈ chunks.flatten, code.char? b = none) → ∃ place, code.FirstUnmapped chunks.flatten place) ∧
    ∀ place, code.FirstUnmapped chunks.flatten place → ∃ chunk other,
      chunkAt? chunks place = some chunk ∧ decodeBy tables label chunks = .error (.notText code.charset chunk) ∧
      chunkAt? others place = some other ∧ decodeBy tables label others = .error (.notText code.charset other) := by
  have decoded : ∀ text, decodeBy tables label chunks = .ok text ↔ code.Spells chunks.flatten text :=
    fun _ => decodeBy_eq_ok_iff_spells named
  have alike : ∀ text, decodeBy tables label others = .ok text ↔ code.Spells chunks.flatten text := by
    intro text
    rw [same]
    exact decodeBy_eq_ok_iff_spells named
  refine ⟨?_, ?_, decoded, alike, SingleByte.exists_firstUnmapped, fun place first => ?_⟩
  · simp only [decoded, alike]
  · simp only [decoded, SingleByte.exists_spells_iff]
  · have culprit := @decodeBy_of_firstUnmapped tables label code named
    obtain ⟨chunk, holds, failed⟩ := culprit first
    rw [same] at first
    obtain ⟨other, holds', failed'⟩ := culprit first
    exact ⟨chunk, other, holds, failed, holds', failed'⟩

/-- The same five bytes twice, with a byte in the third place that has no character in ISO-8859-3. -/
theorem first_unmapped_byte_reported :
    let code := SingleByte.codePage .iso8859_3
    let chunks : List Chunk := [[0x41, 0xA1], [], [0xA5, 0x42], [0xA5]]
    let others : List Chunk := [[0x41], [0xA1, 0xA5], [0x42, 0xA5]]
    Charset.ofLabel? "latin3".toList = some code.charset ∧ chunks.flatten = others.flatten ∧
      code.FirstUnmapped chunks.flatten 2 ∧
      decodeBy .blank "latin3".toList chunks = .error (.notText code.charset [0xA5, 0x42]) ∧
      decodeBy .blank "latin3".toList others = .error (.notText code.charset [0xA1, 0xA5]) := by
  intro code chunks others
  have named : Charset.ofLabel? "latin3".toList = some code.charset := by decide +kernel
  have first : code.FirstUnmapped chunks.flatten 2 := by
    refine ⟨⟨0xA5, rfl, by decide +kernel⟩, ?_⟩
    intro b member
    rcases List.mem_cons.1 member with rfl | member
    · exact ⟨'A', by decide +kernel⟩
    · rw [List.mem_singleton.1 member]
      exact ⟨'Ħ', by decide +kernel⟩
  have same : chunks.flatten = others.flatten := rfl
  obtain ⟨-, -, -, -, -, culprits⟩ := cut_without_influence code .blank named same
  obtain ⟨chunk, other, holds, failed, holds', failed'⟩ := culprits 2 first
  obtain rfl := Option.some.inj holds
  obtain rfl := Option.some.inj holds'
  exact ⟨named, same, first, failed, failed'⟩

end Body

end HttpReply
