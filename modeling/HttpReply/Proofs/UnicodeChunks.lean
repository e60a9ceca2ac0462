import Mathlib.Algebra.Ring.Nat
import HttpReply.Proofs.ChunkDecoding

/-!
# Chunks in UTF-8 and UTF-16

In these charsets every text has one written form. A body is decoded exactly if each of its chunks is
the written form of some text, and otherwise the first chunk that is none is reported. A chunk is
none if it goes on, after some text, with an overlong form, a surrogate, a number beyond the
code points or a lone unit of a pair, if it ends within a character, or if a byte is left over.
-/
namespace HttpReply

/-! ## Bytes that no text goes on with -/

namespace CharReader.Undoes

variable {next : CharReader} {write : Char → Bytes} (undoes : next.Undoes write)

include undoes

/-- After a text, bytes from which no character can be read are not written in any text. -/
theorem ne_of_next_eq_none {b : UInt8} {rest : Bytes} (stuck : next b rest = none) (t whole : Text) :
    t.flatMap write ++ b :: rest ≠ whole.flatMap write := by
  intro written
  have read := undoes.readAll_eq_some_iff.2 written
  have front : next.readAll (t.flatMap write) = some t := undoes.readAll_eq_some_iff.2 rfl
  have back : next.readAll (b :: rest) = none := by rw [readAll, stuck]
  rw [readAll_append undoes.isLocal front, back] at read
  cases read

/-- No character can be read from a part of one. -/
theorem next_of_cut {c : Char} {b : UInt8} {front back : Bytes} (written : write c = b :: (front ++ back))
    (cut : back ≠ []) : next b front = none := by
  cases read : next b front with
  | none => rfl
  | some result =>
    obtain ⟨text, extra⟩ := result
    obtain ⟨d, rfl, within, shorter⟩ := undoes.written read
    -- Whichever of the two is read first, it is read from the same bytes.
    have first := undoes.read shorter (front.drop extra ++ back)
    have second := undoes.read written []
    rw [← List.append_assoc, List.take_append_drop] at first
    rw [List.append_nil, first] at second
    have lengths : (front.take extra).length = (front ++ back).length := (Prod.mk.inj (Option.some.inj second)).2
    rw [List.length_take, List.length_append] at lengths
    exact absurd (List.eq_nil_of_length_eq_zero (by omega)) cut

end CharReader.Undoes

namespace Utf8

/-- How many values fit into a first byte that so many bytes follow. -/
def span : Nat → Nat
  | 0 => 0x80
  | extra + 1 => 0x20 / 2 ^ extra

/-- The high bits of a first byte, which tell how many bytes follow it. -/
def mark : Nat → Nat
  | 0 => 0
  | extra + 1 => 0x100 - 2 * span (extra + 1)

/-- How many numbers can be spelled with so many bytes after the first. -/
def room (extra : Nat) : Nat := span extra * 64 ^ extra

/-- The bytes after the first hold six bits of the number each. -/
def tail : Nat → Nat → Bytes
  | 0, _ => []
  | extra + 1, n => tail extra (n / 64) ++ [UInt8.ofNat (0x80 + n % 64)]

/-- A number spelled with so many bytes after the first, whether or not there is such a character and
    whether or not fewer bytes would do. -/
def spelling (extra n : Nat) : Bytes := UInt8.ofNat (mark extra + n / 64 ^ extra) :: tail extra n

/-- The bytes begin with the spelling of a number that is to be spelled otherwise, or not at all. -/
inductive Malformed : Bytes → Prop
  | overlong {fewer extra n : Nat} (few : extra ≤ 5) (shorter : fewer < extra) (fits : n < room fewer) (rest : Bytes) :
      Malformed (spelling extra n ++ rest)
  | surrogate {n : Nat} (low : 0xD800 ≤ n) (high : n < 0xE000) (rest : Bytes) : Malformed (spelling 2 n ++ rest)
  | beyond {extra n : Nat} (few : extra ≤ 5) (fits : n < room extra) (large : 0x110000 ≤ n) (rest : Bytes) :
      Malformed (spelling extra n ++ rest)

theorem length_tail (extra n : Nat) : (tail extra n).length = extra := by
  induction extra generalizing n with
  | zero => rfl
  | succ extra ih => rw [tail, List.length_append, ih]; rfl

theorem codePoint_tail (high extra n : Nat) :
    codePoint high (tail extra n) = high * 64 ^ extra + n % 64 ^ extra := by
  induction extra generalizing n with
  | zero => simp [tail, codePoint, Nat.mod_one]
  | succ extra ih =>
    have low : (UInt8.ofNat (0x80 + n % 64)).toNat % 64 = n % 64 := by
      simp
      omega
    have step : codePoint high (tail (extra + 1) n) = 64 * codePoint high (tail extra (n / 64)) + n % 64 := by
      simp only [codePoint, tail, List.foldl_append, List.foldl_cons, List.foldl_nil, low]
    rw [step, ih, Nat.pow_succ, Nat.mul_comm (64 ^ extra) 64, Nat.mod_mul, Nat.mul_add, Nat.mul_left_comm]
    omega

theorem room_mono {fewer extra : Nat} (few : extra ≤ 5) (shorter : fewer < extra) : room fewer ≤ room extra := by
  have all : ∀ extra ≤ 5, ∀ fewer < extra, room fewer ≤ room extra := by decide
  exact all extra few fewer shorter

/-- A first byte tells how many bytes follow it, unless they are more than three. -/
theorem firstByte?_spelling {extra n : Nat} (few : extra ≤ 5) (fits : n < room extra) :
    firstByte? (UInt8.ofNat (mark extra + n / 64 ^ extra)) =
      if extra ≤ 3 then some (extra, n / 64 ^ extra) else none := by
  have bits : n / 64 ^ extra < span extra := Nat.div_lt_of_lt_mul (by rwa [Nat.mul_comm])
  generalize n / 64 ^ extra = high at bits
  have value : mark extra + high < 0x100 → (UInt8.ofNat (mark extra + high)).toNat = mark extra + high := by
    intro byte
    simp
    omega
  match extra with
  | 0 | 1 | 2 | 3 | 4 | 5 =>
    simp only [span, mark] at bits value ⊢
    rw [firstByte?, value (by omega)]
    grind

/-- A character takes no more bytes than any spelling of its code point. -/
theorem utf8Size_le {c : Char} {extra : Nat} (fits : c.toNat < room extra) : c.utf8Size ≤ extra + 1 := by
  have sizes : c.utf8Size =
      if c.toNat ≤ 0x7F then 1 else if c.toNat ≤ 0x7FF then 2 else if c.toNat ≤ 0xFFFF then 3 else 4 := rfl
  rw [sizes]
  match extra with
  | 0 => simp only [room, span] at fits; split_ifs <;> omega
  | 1 => simp only [room, span] at fits; split_ifs <;> omega
  | 2 => simp only [room, span] at fits; split_ifs <;> omega
  | more + 3 => split_ifs <;> omega

/-- A spelled number is not read unless it is the code point of a character that needs so many bytes. -/
theorem next_spelling {extra n : Nat} (few : extra ≤ 5) (fits : n < room extra)
    (wrong : ∀ c : Char, c.toNat = n → c.utf8Size ≤ extra) (rest : Bytes) :
    next (UInt8.ofNat (mark extra + n / 64 ^ extra)) (tail extra n ++ rest) = none := by
  have spelled : codePoint (n / 64 ^ extra) (tail extra n) = n := by
    rw [codePoint_tail, Nat.mul_comm, Nat.div_add_mod]
  have front : (tail extra n ++ rest).take extra = tail extra n := by
    exact List.take_left' (length_tail extra n)
  simp only [next, firstByte?_spelling few fits]
  by_cases short : extra ≤ 3
  · simp only [if_pos short, front, spelled]
    cases found : scalar? n with
    | none => rfl
    | some c =>
      have size := wrong c (scalar?_eq_some_iff.1 found)
      have longer : String.utf8EncodeChar c ≠ spelling extra n := by
        intro same
        have lengths := congrArg List.length same
        rw [String.length_utf8EncodeChar, spelling, List.length_cons, length_tail] at lengths
        omega
      exact if_neg longer
  · simp only [if_neg short]

theorem Malformed.stuck {bytes : Bytes} (malformed : Malformed bytes) :
    ∃ b rest, bytes = b :: rest ∧ next b rest = none := by
  cases malformed with
  | @overlong fewer extra n few shorter fits rest =>
    refine ⟨_, _, rfl, next_spelling few (Nat.lt_of_lt_of_le fits (room_mono few shorter)) ?_ rest⟩
    rintro c rfl
    have size := utf8Size_le fits
    omega
  | @surrogate n low high rest =>
    refine ⟨_, _, rfl, next_spelling (by decide) (by simp only [room, span]; omega) ?_ rest⟩
    rintro c rfl
    have valid : c.toNat.isValidChar := c.valid
    simp only [Nat.isValidChar] at valid
    omega
  | @beyond extra n few fits large rest =>
    refine ⟨_, _, rfl, next_spelling few fits ?_ rest⟩
    rintro c rfl
    have valid : c.toNat.isValidChar := c.valid
    simp only [Nat.isValidChar] at valid
    omega

example : spelling 1 0x2F = [0xC0, 0xAF] ∧ spelling 2 0xD800 = [0xED, 0xA0, 0x80] ∧
    spelling 3 0x110000 = [0xF4, 0x90, 0x80, 0x80] := by decide

end Utf8

namespace Utf16

variable {order : ByteOrder}

/-- The bytes begin with a surrogate unit that is not followed, or not preceded, by its partner. -/
inductive Malformed (order : ByteOrder) : Bytes → Prop
  | leading {unit : Nat} (low : 0xD800 ≤ unit) (high : unit < 0xDC00) {rest : Bytes}
      (alone : ∀ trail more, 0xDC00 ≤ trail → trail < 0xE000 → rest ≠ unitBytes order trail ++ more) :
      Malformed order (unitBytes order unit ++ rest)
  | trailing {unit : Nat} (low : 0xDC00 ≤ unit) (high : unit < 0xE000) (rest : Bytes) :
      Malformed order (unitBytes order unit ++ rest)

theorem scalar?_surrogate {n : Nat} (low : 0xD800 ≤ n) (high : n < 0xE000) : scalar? n = none := by
  cases found : scalar? n with
  | none => rfl
  | some c =>
    have valid : c.toNat.isValidChar := c.valid
    rw [scalar?_eq_some_iff.1 found] at valid
    simp only [Nat.isValidChar] at valid
    omega

theorem Malformed.stuck {bytes : Bytes} (malformed : Malformed order bytes) :
    ∃ b rest, bytes = b :: rest ∧ next order b rest = none := by
  cases malformed with
  | @leading unit low high rest alone =>
    obtain ⟨a, b, written, same⟩ := unitBytes_eq order unit (by omega)
    refine ⟨a, b :: rest, by rw [written]; rfl, ?_⟩
    simp only [next, same]
    rw [if_pos ⟨low, high⟩]
    split
    next c d more =>
      have pair := alone (unitOf order c d) more
      rw [unitBytes_unitOf] at pair
      rw [if_neg]
      rintro ⟨from', upto⟩
      exact pair from' upto rfl
    next => rfl
  | @trailing unit low high rest =>
    obtain ⟨a, b, written, same⟩ := unitBytes_eq order unit (by omega)
    refine ⟨a, b :: rest, by rw [written]; rfl, ?_⟩
    simp only [next, same]
    rw [if_neg (by omega), scalar?_surrogate (by omega) high]
    rfl

theorem even_write (order : ByteOrder) (c : Char) : (write order c).length % 2 = 0 := by
  unfold write
  split <;> cases order <;> simp [unitBytes]

end Utf16

/-! ## The Unicode charsets -/

/-- The charsets in which a text is written character by character, whatever its characters. -/
inductive UnicodeForm
  | utf8
  | utf16 (order : Utf16.ByteOrder)
deriving DecidableEq, Repr

namespace UnicodeForm

def charset : UnicodeForm → Charset
  | utf8 => .utf8
  | utf16 .big => .utf16be
  | utf16 .little => .utf16le

/-- The bytes of a character. -/
def write : UnicodeForm → Char → Bytes
  | utf8 => String.utf8EncodeChar
  | utf16 order => Utf16.write order

/-- The bytes of a text. A byte order mark is a character as any other. -/
def encode (form : UnicodeForm) (t : Text) : Bytes := t.flatMap form.write

/-- How the character at the front of a byte string is read. -/
def next : UnicodeForm → CharReader
  | utf8 => Utf8.next
  | utf16 order => Utf16.next order

/-- The bytes begin with a sequence that is no part of a written text. -/
def Malformed : UnicodeForm → Bytes → Prop
  | utf8 => Utf8.Malformed
  | utf16 order => Utf16.Malformed order

/-- A chunk with a malformed sequence after some text, one that ends within a character, or one with
    a byte too few or too many for units of two bytes. -/
inductive Broken (form : UnicodeForm) : Chunk → Prop
  | malformed (t : Text) {bytes : Bytes} (malformed : form.Malformed bytes) : Broken form (form.encode t ++ bytes)
  | cut (t : Text) {c : Char} {front back : Bytes} (written : form.write c = front ++ back) (started : front ≠ [])
      (unfinished : back ≠ []) : Broken form (form.encode t ++ front)
  | odd {order : Utf16.ByteOrder} (units : form = utf16 order) {bytes : Bytes} (odd : bytes.length % 2 = 1) :
      Broken form bytes

/-- The chunk is the written form of no text, and every chunk before it is that of one. -/
def FirstUnwritten (form : UnicodeForm) (chunks : List Chunk) (chunk : Chunk) : Prop :=
  ∃ before after, chunks = before ++ chunk :: after ∧ (∀ t, chunk ≠ form.encode t) ∧
    ∀ earlier ∈ before, ∃ t, earlier = form.encode t

variable {form : UnicodeForm}

theorem next_undoes (form : UnicodeForm) : form.next.Undoes form.write := by
  cases form with
  | utf8 => exact Utf8.next_undoes
  | utf16 order => exact Utf16.next_undoes order

theorem decode?_eq_some_iff {tables : EastAsian.Tables} {bytes : Bytes} {t : Text} :
    form.charset.decode? tables bytes = some t ↔ bytes = form.encode t := by
  cases form with
  | utf8 => exact Utf8.decode?_eq_some_iff
  | utf16 order => cases order <;> exact Utf16.decode?_eq_some_iff

theorem even_encode (order : Utf16.ByteOrder) (t : Text) : ((utf16 order).encode t).length % 2 = 0 := by
  induction t with
  | nil => rfl
  | cons c rest ih =>
    have first := Utf16.even_write order c
    have split : (utf16 order).encode (c :: rest) = Utf16.write order c ++ (utf16 order).encode rest := rfl
    rw [split, List.length_append]
    omega

theorem Malformed.stuck {bytes : Bytes} (malformed : form.Malformed bytes) :
    ∃ b rest, bytes = b :: rest ∧ form.next b rest = none := by
  cases form with
  | utf8 => exact Utf8.Malformed.stuck malformed
  | utf16 order => exact Utf16.Malformed.stuck malformed

/-- A broken chunk is the written form of no text. -/
theorem Broken.ne_encode {chunk : Chunk} (broken : form.Broken chunk) (t : Text) : chunk ≠ form.encode t := by
  cases broken with
  | malformed before malformed =>
    obtain ⟨b, rest, rfl, stuck⟩ := malformed.stuck
    exact form.next_undoes.ne_of_next_eq_none stuck before t
  | @cut before c front back written started unfinished =>
    obtain ⟨b, rest, rfl⟩ := List.exists_cons_of_ne_nil started
    exact form.next_undoes.ne_of_next_eq_none (form.next_undoes.next_of_cut written unfinished) before t
  | @odd order units bytes odd =>
    subst units
    rintro rfl
    have even := even_encode order t
    omega

end UnicodeForm

namespace Body

variable {tables : EastAsian.Tables} {label : Text} {form : UnicodeForm}

theorem decodes_iff {chunks : List Chunk} {texts : List Text} :
    Decodes tables form.charset chunks texts ↔ chunks = texts.map form.encode := by
  simp only [Decodes, UnicodeForm.decode?_eq_some_iff]
  rw [← List.forall₂_map_right_iff, List.forall₂_eq_eq_eq]

theorem firstUndecodable_iff {chunks : List Chunk} {chunk : Chunk} :
    FirstUndecodable tables form.charset chunks chunk ↔ form.FirstUnwritten chunks chunk := by
  simp only [FirstUndecodable, UnicodeForm.FirstUnwritten, Option.eq_none_iff_forall_ne_some, ne_eq,
    UnicodeForm.decode?_eq_some_iff]

/-- Whatever stands in the tables of other encodings: with a label of UTF-8 or UTF-16, a body is decoded to
    a text exactly if its chunks are the written forms of texts that are this text together. Otherwise
    the first chunk that is the written form of none is reported, and a broken chunk is none. What
    strings are sent as is read again in UTF-8. -/
theorem whole_encodings_decoded (form : UnicodeForm) (tables : EastAsian.Tables) {label : Text}
    (named : Charset.ofLabel? label = some form.charset) :
    (∀ chunks text, decodeBy tables label chunks = .ok text ↔
      ∃ texts : List Text, chunks = texts.map form.encode ∧ text = texts.flatten) ∧
    (∀ chunks e, decodeBy tables label chunks = .error e ↔
      ∃ chunk, form.FirstUnwritten chunks chunk ∧ e = .notText form.charset chunk) ∧
    (∀ before chunk after, (∀ earlier ∈ before, ∃ t, earlier = form.encode t) → form.Broken chunk →
      decodeBy tables label (before ++ chunk :: after) = .error (.notText form.charset chunk)) ∧
    ∀ texts : List Text, decodeBy tables "utf-8".toList (texts.map Chunk.ofText) = .ok texts.flatten := by
  have failure : ∀ chunks e, decodeBy tables label chunks = .error e ↔
      ∃ chunk, form.FirstUnwritten chunks chunk ∧ e = .notText form.charset chunk := by
    intro chunks e
    simp only [decodeBy_eq_error_iff named, firstUndecodable_iff]
  refine ⟨fun chunks text => ?_, failure, ?_, fun texts => ?_⟩
  · simp only [decodeBy_eq_ok_iff named, decodes_iff]
  · intro before chunk after whole broken
    exact (failure _ _).2 ⟨chunk, ⟨before, after, rfl, broken.ne_encode, whole⟩, rfl⟩
  · have utf8 : Charset.ofLabel? "utf-8".toList = some UnicodeForm.utf8.charset := by decide +kernel
    exact (decodeBy_eq_ok_iff utf8).2 ⟨texts, decodes_iff.2 rfl, rfl⟩

/-- After a chunk that is a byte order mark, a character is whole in one chunk, and cut between two. -/
theorem cut_character_reported :
    Charset.ofLabel? " UTF8".toList = some UnicodeForm.utf8.charset ∧ UnicodeForm.utf8.Broken [0x39, 0xC2] ∧
      decodeBy .blank " UTF8".toList [[0xEF, 0xBB, 0xBF], [0x39, 0xC2, 0xBE]] = .ok ['\uFEFF', '9', '¾'] ∧
      decodeBy .blank " UTF8".toList [[0xEF, 0xBB, 0xBF], [0x39, 0xC2], [0xBE]] =
        .error (.notText .utf8 [0x39, 0xC2]) := by
  have named : Charset.ofLabel? " UTF8".toList = some UnicodeForm.utf8.charset := by decide +kernel
  have parts : UnicodeForm.utf8.write '¾' = [0xC2] ++ [0xBE] := by decide
  have broken : UnicodeForm.utf8.Broken [0x39, 0xC2] := .cut ['9'] parts (by decide) (by decide)
  have mark : ∀ earlier ∈ ([[0xEF, 0xBB, 0xBF]] : List Chunk), ∃ t, earlier = UnicodeForm.utf8.encode t := by
    intro earlier member
    exact ⟨['\uFEFF'], by rw [List.mem_singleton.1 member]; decide⟩
  obtain ⟨whole, -, reported, -⟩ := whole_encodings_decoded .utf8 .blank named
  refine ⟨named, broken, ?_, reported _ _ [[0xBE]] mark broken⟩
  exact (whole _ _).2 ⟨[['\uFEFF'], ['9', '¾']], by decide, rfl⟩

end Body

end HttpReply
