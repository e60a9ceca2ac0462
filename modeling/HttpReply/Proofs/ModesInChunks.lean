import HttpReply.Body.Decode

/-!
# Modes in chunks

A chunk in ISO-2022-JP may end in any mode, and the next one starts in ASCII again. If the bytes
of both were one chunk, the mode would go on. That makes no difference to the text exactly if the
bytes after the boundary begin with an escape sequence or mean the same in both modes up to the
next one, and no two escape sequences meet.
-/
namespace HttpReply

namespace Iso2022Jp

/-- The text of bytes that are read from a state on. -/
def textFrom (jis0208 : Nat → Option Char) (state : State) (bytes : Bytes) : Option Text :=
  (read jis0208 state bytes).map Prod.fst

/-- The state makes no difference to the bytes. An escape sequence is not followed by another one.
    And the mode is ASCII, or the bytes begin with an escape sequence, or the mode is Roman and
    neither of the two bytes that it reads otherwise stands before the next escape sequence. -/
structure Harmless (state : State) (bytes : Bytes) : Prop where
  apart : state.escaped = true → bytes.head? ≠ some 0x1B
  alike : state.mode = .ascii ∨ bytes.head? = some 0x1B ∨
    state.mode = .roman ∧ ∀ b ∈ bytes.takeWhile (· != 0x1B), b ≠ 0x5C ∧ b ≠ 0x7E

variable {jis0208 : Nat → Option Char} {state : State} {mode : Mode} {escaped : Bool} {b : UInt8} {bytes : Bytes}
  {text : Text}

theorem decode?_append {front : Bytes} {after : State} (read : read jis0208 .initial front = some (text, after))
    (back : Bytes) : decode? jis0208 (front ++ back) = (textFrom jis0208 after back).map (text ++ ·) := by
  rw [decode?, read_append read back, textFrom, Option.map_map, Option.map_map]
  rfl

/-- Outside the mode of pairs each byte is a character, and the mode goes on. -/
theorem textFrom_char (single : mode ≠ .pairs) (plain : b ≠ 0x1B) :
    textFrom jis0208 ⟨mode, escaped⟩ (b :: bytes) =
      (mode.char? b).bind fun c => (textFrom jis0208 ⟨mode, false⟩ bytes).map (c :: ·) := by
  have step : next jis0208 ⟨mode, escaped⟩ b bytes = (mode.char? b).map fun c => ([c], 0, ⟨mode, false⟩) := by
    unfold next
    rw [if_neg plain, if_neg single]
  rw [textFrom, read, step]
  cases mode.char? b with
  | none => rfl
  | some c => simp [textFrom, Function.comp_def]

theorem textFrom_char_eq_some_iff (single : mode ≠ .pairs) (plain : b ≠ 0x1B) :
    textFrom jis0208 ⟨mode, escaped⟩ (b :: bytes) = some text ↔
      ∃ c onward, mode.char? b = some c ∧ textFrom jis0208 ⟨mode, false⟩ bytes = some onward ∧ text = c :: onward := by
  simp only [textFrom_char single plain, Option.bind_eq_some_iff, Option.map_eq_some_iff]
  constructor
  · rintro ⟨c, found, onward, read, rfl⟩
    exact ⟨c, onward, found, read, rfl⟩
  · rintro ⟨c, onward, found, read, rfl⟩
    exact ⟨c, found, onward, read, rfl⟩

/-- In the mode of pairs a byte belongs to the next one, which is no escape byte. -/
theorem exists_pair (plain : b ≠ 0x1B) (read : textFrom jis0208 ⟨.pairs, escaped⟩ (b :: bytes) = some text) :
    ∃ trail rest c onward, bytes = trail :: rest ∧ trail ≠ 0x1B ∧
      textFrom jis0208 ⟨.pairs, false⟩ rest = some onward ∧ text = c :: onward := by
  cases bytes with
  | nil => simp [textFrom, Iso2022Jp.read, next, plain] at read
  | cons trail rest =>
    cases found : (EastAsian.japanese? 0x21 b trail).bind jis0208 with
    | none => simp [textFrom, Iso2022Jp.read, next, plain, found] at read
    | some c =>
      have other : trail ≠ 0x1B := by
        rintro rfl
        simp [EastAsian.japanese?, EastAsian.position?, EastAsian.numberIn?, EastAsian.between] at found
      simp only [textFrom, Iso2022Jp.read, next, if_neg plain, if_pos, found, Option.map_some, List.drop_succ_cons,
        List.drop_zero, Option.map_map, Option.map_eq_some_iff] at read
      obtain ⟨onward, onwards, rfl⟩ := read
      exact ⟨trail, rest, c, onward.1, rfl, other, by rw [textFrom, onwards, Option.map_some], rfl⟩

/-- An escape sequence ends every mode, and is refused right after another one. -/
theorem textFrom_escape :
    textFrom jis0208 ⟨mode, escaped⟩ (0x1B :: bytes) =
      if escaped then none else decode? jis0208 (0x1B :: bytes) := by
  cases escaped with
  | false => simp [textFrom, decode?, read, next, State.initial]
  | true => rcases bytes with _ | ⟨second, _ | ⟨third, rest⟩⟩ <;> simp [textFrom, read, next]

theorem textFrom_of_apart (apart : escaped = true → (0x1B :: bytes).head? ≠ some 0x1B) :
    textFrom jis0208 ⟨mode, escaped⟩ (0x1B :: bytes) = decode? jis0208 (0x1B :: bytes) := by
  have first : escaped = false := by simpa using apart
  rw [textFrom_escape, first]
  rfl

/-- The Roman mode reads two bytes otherwise than ASCII, and no others. -/
theorem char?_roman_iff : Mode.roman.char? b = ascii? b ↔ b ≠ 0x5C ∧ b ≠ 0x7E := by
  constructor
  · intro same
    refine ⟨?_, ?_⟩
    · rintro rfl
      exact absurd same (by decide)
    · rintro rfl
      exact absurd same (by decide)
  · rintro ⟨yen, overline⟩
    rw [Mode.char?, if_neg yen, if_neg overline]

/-- Bytes that the Roman mode reads as ASCII up to an escape sequence are read in it as by themselves. -/
theorem textFrom_roman (apart : escaped = true → bytes.head? ≠ some 0x1B)
    (alike : ∀ b ∈ bytes.takeWhile (· != 0x1B), b ≠ 0x5C ∧ b ≠ 0x7E) :
    textFrom jis0208 ⟨.roman, escaped⟩ bytes = decode? jis0208 bytes := by
  induction bytes generalizing escaped with
  | nil => simp [textFrom, decode?, read]
  | cons b rest ih =>
    by_cases escape : b = 0x1B
    · subst escape
      exact textFrom_of_apart apart
    · rw [List.takeWhile_cons_of_pos (by simpa using escape), List.forall_mem_cons] at alike
      have onward : textFrom jis0208 ⟨.roman, false⟩ rest = decode? jis0208 rest := ih (by simp) alike.2
      rw [textFrom_char (by decide) escape, char?_roman_iff.2 alike.1, onward]
      exact (@textFrom_char jis0208 .ascii false b rest (by decide) escape).symm

/-- From a state that makes no difference bytes are read as by themselves. -/
theorem textFrom_of_harmless (harmless : Harmless state bytes) :
    textFrom jis0208 state bytes = decode? jis0208 bytes := by
  obtain ⟨mode, escaped⟩ := state
  obtain ⟨apart, rfl | escape | ⟨rfl, alike⟩⟩ := harmless
  · cases escaped with
    | false => rfl
    | true => exact read_escaped (apart rfl)
  · obtain ⟨rest, rfl⟩ := List.head?_eq_some_iff.1 escape
    exact textFrom_of_apart apart
  · exact textFrom_roman apart alike

theorem toNat_of_ascii? {c : Char} (found : ascii? b = some c) : c.toNat < 0x80 := by
  unfold ascii? at found
  split at found
  next low =>
    have small : b.toNat < 0x80 := low.1
    have valid : b.toNat.isValidChar := .inl (by omega)
    obtain rfl := Option.some.inj found
    rw [scalar?_eq_some_iff.1 (if_pos valid)]
    exact small
  next => cases found

theorem toNat_of_katakana {c : Char} (found : Mode.katakana.char? b = some c) : 0x80 ≤ c.toNat := by
  simp only [Mode.char?] at found
  split at found
  next within =>
    have most : b.toNat ≤ 0x5F := within.2
    have valid : (0xFF61 + (b.toNat - 0x21)).isValidChar := .inr ⟨by omega, by omega⟩
    obtain rfl := Option.some.inj found
    rw [scalar?_eq_some_iff.1 (if_pos valid)]
    omega
  next => cases found

end Iso2022Jp

namespace Body

open Iso2022Jp

variable {tables : EastAsian.Tables} {label : Text} (named : Charset.ofLabel? label = some .iso2022Jp)
  {chunks : List Chunk} {b : UInt8} {bytes : Bytes} {apart text : Text}

/-! ## Reading chunk by chunk and in one go -/

section

include named

/-- The first byte of all chunks is the first of a chunk, the ones before it being empty. -/
theorem exists_first_chunk (decoded : decodeBy tables label chunks = .ok apart) (inside : chunks.flatten = b :: bytes) :
    ∃ front back, bytes = front ++ back.flatten ∧ decodeBy tables label ((b :: front) :: back) = .ok apart := by
  induction chunks generalizing apart with
  | nil => cases inside
  | cons chunk rest ih =>
    cases chunk with
    | nil =>
      obtain ⟨first, others, head, tail, rfl⟩ := (decodeBy_cons_eq_ok_iff named).1 decoded
      rw [Charset.decode?_nil] at head
      obtain rfl := Option.some.inj head
      exact ih tail inside
    | cons c front =>
      obtain ⟨rfl, rfl⟩ := List.cons.inj inside
      exact ⟨front, rest, rfl, decoded⟩

/-- A first byte that is no escape byte is a character of ASCII, and the bytes after it stay in chunks. -/
theorem exists_first_char (decoded : decodeBy tables label chunks = .ok apart) (inside : chunks.flatten = b :: bytes)
    (plain : b ≠ 0x1B) :
    ∃ c onward others, ascii? b = some c ∧ apart = c :: onward ∧ others.flatten = bytes ∧
      decodeBy tables label others = .ok onward := by
  obtain ⟨front, back, rfl, decoded⟩ := exists_first_chunk named decoded inside
  obtain ⟨first, further, head, tail, rfl⟩ := (decodeBy_cons_eq_ok_iff named).1 decoded
  have head : textFrom tables.jis0208 ⟨.ascii, false⟩ (b :: front) = some first := head
  obtain ⟨c, onward, found, read, rfl⟩ := (textFrom_char_eq_some_iff (by decide) plain).1 head
  refine ⟨c, onward ++ further, front :: back, found, rfl, List.flatten_cons, ?_⟩
  exact (decodeBy_cons_eq_ok_iff named).2 ⟨onward, further, read, tail, rfl⟩

/-- Read in one go, from whatever state, chunks give no more characters than each by itself. -/
theorem length_le_of_decodeBy (decoded : decodeBy tables label chunks = .ok apart) {state : State}
    (joined : textFrom tables.jis0208 state chunks.flatten = some text) : text.length ≤ apart.length := by
  induction size : chunks.flatten.length using Nat.strongRecOn generalizing chunks apart state text with
  | _ n ih =>
    cases inside : chunks.flatten with
    | nil =>
      rw [inside] at joined
      obtain rfl : [] = text := by simpa [textFrom, Iso2022Jp.read] using joined
      exact Nat.zero_le _
    | cons b bytes =>
      rw [inside] at joined size
      rw [List.length_cons] at size
      obtain ⟨mode, escaped⟩ := state
      by_cases escape : b = 0x1B
      · -- The chunk with the escape sequence is read alike both times, and then the states may differ.
        subst escape
        obtain ⟨front, back, rfl, decoded⟩ := exists_first_chunk named decoded inside
        obtain ⟨first, further, head, tail, rfl⟩ := (decodeBy_cons_eq_ok_iff named).1 decoded
        obtain ⟨⟨first, after⟩, whole, rfl⟩ := Option.map_eq_some_iff.1 head
        rw [textFrom_escape] at joined
        cases escaped with
        | true => cases joined
        | false =>
          rw [if_neg (by decide), ← List.cons_append, decode?_append whole] at joined
          obtain ⟨onward, remaining, rfl⟩ := Option.map_eq_some_iff.1 joined
          rw [List.length_append] at size
          have shorter := ih back.flatten.length (by omega) tail remaining rfl
          simpa using shorter
      · obtain ⟨c, onward, others, -, rfl, rfl, rest⟩ := exists_first_char named decoded inside escape
        by_cases pairs : mode = .pairs
        · subst pairs
          obtain ⟨trail, left, c', onward', pair, plain, remaining, rfl⟩ := exists_pair escape joined
          obtain ⟨c'', onward'', others', -, rfl, rfl, rest⟩ := exists_first_char named rest pair plain
          rw [pair, List.length_cons] at size
          have shorter := ih others'.flatten.length (by omega) rest remaining rfl
          simp only [List.length_cons]
          omega
        · obtain ⟨c', onward', -, remaining, rfl⟩ := (textFrom_char_eq_some_iff pairs escape).1 joined
          have shorter := ih others.flatten.length (by omega) rest remaining rfl
          simpa using shorter

/-- If the Roman mode gives the same text as ASCII then the two bytes that it reads otherwise do not come
    before an escape sequence. -/
theorem plain_of_decodeBy {escaped : Bool} (decoded : decodeBy tables label chunks = .ok apart)
    (joined : textFrom tables.jis0208 ⟨.roman, escaped⟩ chunks.flatten = some apart) :
    ∀ b ∈ chunks.flatten.takeWhile (· != 0x1B), b ≠ 0x5C ∧ b ≠ 0x7E := by
  induction inside : chunks.flatten generalizing chunks apart escaped with
  | nil => simp
  | cons b bytes ih =>
    by_cases escape : b = 0x1B
    · simp [escape]
    · rw [inside] at joined
      obtain ⟨c, onward, others, ascii, rfl, rfl, rest⟩ := exists_first_char named decoded inside escape
      obtain ⟨c', onward', roman, remaining, same⟩ := (textFrom_char_eq_some_iff (by decide) escape).1 joined
      obtain ⟨rfl, rfl⟩ := List.cons.inj same
      rw [List.takeWhile_cons_of_pos (by simpa using escape), List.forall_mem_cons]
      exact ⟨char?_roman_iff.1 (roman.trans ascii.symm), ih rest remaining rfl⟩

/-- A state from which chunks give the same text in one go as each by itself makes no difference to them. -/
theorem harmless_of_decodeBy (decoded : decodeBy tables label chunks = .ok apart) (filled : chunks.flatten ≠ [])
    {state : State} (joined : textFrom tables.jis0208 state chunks.flatten = some apart) :
    Harmless state chunks.flatten := by
  obtain ⟨b, bytes, inside⟩ := List.exists_cons_of_ne_nil filled
  obtain ⟨mode, escaped⟩ := state
  by_cases escape : b = 0x1B
  · subst escape
    rw [inside, textFrom_escape] at joined
    rw [inside]
    refine ⟨?_, .inr (.inl rfl)⟩
    rintro rfl
    cases joined
  · obtain ⟨c, onward, others, ascii, rfl, flat, rest⟩ := exists_first_char named decoded inside escape
    refine ⟨fun _ => by simpa [inside] using escape, ?_⟩
    cases mode with
    | ascii => exact .inl rfl
    | roman => exact .inr (.inr ⟨rfl, plain_of_decodeBy named decoded joined⟩)
    | katakana =>
      rw [inside] at joined
      obtain ⟨c', onward', katakana, -, same⟩ := (textFrom_char_eq_some_iff (by decide) escape).1 joined
      obtain ⟨rfl, -⟩ := List.cons.inj same
      have low := toNat_of_ascii? ascii
      have high := toNat_of_katakana katakana
      omega
    | pairs =>
      -- The two bytes of a pair are one character here and two there, and what follows cannot make up for it.
      rw [inside] at joined
      obtain ⟨trail, left, c', onward', rfl, plain, remaining, same⟩ := exists_pair escape joined
      obtain ⟨c'', onward'', others', -, rfl, rfl, rest⟩ := exists_first_char named rest flat plain
      obtain ⟨-, rfl⟩ := List.cons.inj same
      have shorter := length_le_of_decodeBy named rest remaining
      rw [List.length_cons] at shorter
      omega

end

end Body

end HttpReply
