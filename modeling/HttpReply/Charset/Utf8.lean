import HttpReply.Charset.Reader

/-!
# UTF-8

A byte sequence is the encoding of the character whose code point its bits spell, or
of none: what has been read is compared with what that character is written as. So
overlong forms, surrogates and stray bytes are all refused by one test.
-/
namespace HttpReply.Utf8

/-- The bytes of a text, character by character. -/
def encode (t : Text) : Bytes := t.flatMap String.utf8EncodeChar

/-- How many bytes follow a first byte, and the high bits that it holds itself. -/
def firstByte? (b : UInt8) : Option (Nat × Nat) :=
  if b.toNat < 0x80 then some (0, b.toNat)
  else if b.toNat < 0xC0 then none
  else if b.toNat < 0xE0 then some (1, b.toNat - 0xC0)
  else if b.toNat < 0xF0 then some (2, b.toNat - 0xE0)
  else if b.toNat < 0xF8 then some (3, b.toNat - 0xF0)
  else none

/-- The code point whose high bits are followed by six bits from each byte. -/
def codePoint (high : Nat) (bytes : Bytes) : Nat :=
  bytes.foldl (fun n b => 64 * n + b.toNat % 64) high

/-- Reads one character, in its only written form. -/
def next : CharReader := fun b rest =>
  match firstByte? b with
  | none => none
  | some (extra, high) =>
    match scalar? (codePoint high (rest.take extra)) with
    | none => none
    | some c =>
      if String.utf8EncodeChar c = b :: rest.take extra then some ([c], extra) else none

/-- The text that a byte string encodes. -/
def decode? : Bytes → Option Text := next.readAll

/-- The first byte of a written character tells its length, and its bits spell the
    code point. -/
theorem firstByte?_written {c : Char} {b : UInt8} {tail : Bytes}
    (written : String.utf8EncodeChar c = b :: tail) :
    ∃ high, firstByte? b = some (tail.length, high) ∧ codePoint high tail = c.toNat := by
  have bound : c.toNat < 0x110000 := by
    have valid : c.toNat.isValidChar := c.valid
    simp only [Nat.isValidChar] at valid
    omega
  simp only [String.utf8EncodeChar] at written
  change (if c.toNat ≤ _ then _ else if c.toNat ≤ _ then _ else if c.toNat ≤ _ then _ else _) = _ at written
  simp only [Char.toNat_val] at written
  split at written
  next small =>
    simp only [List.cons.injEq] at written
    obtain ⟨rfl, rfl⟩ := written
    refine ⟨c.toNat, ?_, by simp [codePoint]⟩
    have value : (UInt8.ofNat c.toNat).toNat = c.toNat := by simp; omega
    simp only [firstByte?, value, List.length_nil]
    rw [if_pos (by omega)]
  next =>
    split at written
    next small =>
      simp only [List.cons.injEq] at written
      obtain ⟨rfl, rfl⟩ := written
      refine ⟨c.toNat / 64, ?_, ?_⟩
      · have value : (UInt8.ofNat (c.toNat / 64 % 32 + 192)).toNat = c.toNat / 64 + 192 := by
          simp
          omega
        simp only [firstByte?, value]
        rw [if_neg (by omega), if_neg (by omega), if_pos (by omega)]
        simp
      · simp [codePoint]
        omega
    next =>
      split at written
      next small =>
        simp only [List.cons.injEq] at written
        obtain ⟨rfl, rfl⟩ := written
        refine ⟨c.toNat / 4096, ?_, ?_⟩
        · have value : (UInt8.ofNat (c.toNat / 4096 % 16 + 224)).toNat = c.toNat / 4096 + 224 := by
            simp
            omega
          simp only [firstByte?, value]
          rw [if_neg (by omega), if_neg (by omega), if_neg (by omega), if_pos (by omega)]
          simp
        · simp [codePoint]
          omega
      next large =>
        simp only [List.cons.injEq] at written
        obtain ⟨rfl, rfl⟩ := written
        refine ⟨c.toNat / 262144, ?_, ?_⟩
        · have value : (UInt8.ofNat (c.toNat / 262144 % 8 + 240)).toNat = c.toNat / 262144 + 240 := by
            simp
            omega
          simp only [firstByte?, value]
          rw [if_neg (by omega), if_neg (by omega), if_neg (by omega), if_neg (by omega),
            if_pos (by omega)]
          simp
        · simp [codePoint]
          omega

theorem next_undoes : CharReader.Undoes next String.utf8EncodeChar where
  write_ne_nil c := by
    have size := String.length_utf8EncodeChar c
    have positive := c.utf8Size_pos
    intro empty
    simp [empty] at size
    omega
  read {c b tail} written more := by
    obtain ⟨high, first, spelled⟩ := firstByte?_written written
    simp [next, first, spelled, written]
  written {b rest text extra} h := by
    unfold next at h
    split at h
    next => simp at h
    next extra' high first =>
      split at h
      next => simp at h
      next c spelled =>
        split at h
        next written =>
          simp only [Option.some.injEq, Prod.mk.injEq] at h
          obtain ⟨rfl, rfl⟩ := h
          obtain ⟨high', first', -⟩ := firstByte?_written written
          simp only [first, Option.some.injEq, Prod.mk.injEq, List.length_take] at first'
          exact ⟨c, rfl, by omega, written⟩
        next => simp at h

/-- A byte string is the encoding of the text that is read from it, and of no other. -/
theorem decode?_eq_some_iff {bytes : Bytes} {t : Text} : decode? bytes = some t ↔ bytes = encode t :=
  next_undoes.readAll_eq_some_iff

end HttpReply.Utf8
