import HttpReply.Charset.EastAsian

/-!
# ISO-2022-JP

This encoding has modes. An escape sequence of three bytes changes the mode, and the
mode says what the following bytes stand for. A byte string starts in the ASCII mode
and may end in any mode. Two escape sequences need a character between them.
-/
namespace HttpReply.Iso2022Jp

/-- What the bytes stand for until the next escape sequence. -/
inductive Mode
  | ascii
  | roman
  | katakana
  /-- Pairs of bytes from a table. -/
  | pairs
deriving DecidableEq, Repr

/-- The mode that the two bytes after an escape byte select. -/
def mode? (second third : UInt8) : Option Mode :=
  if second = 0x28 ∧ third = 0x42 then some .ascii
  else if second = 0x28 ∧ third = 0x4A then some .roman
  else if second = 0x28 ∧ third = 0x49 then some .katakana
  else if second = 0x24 ∧ (third = 0x40 ∨ third = 0x42) then some .pairs
  else none

/-- The ASCII character that the byte is. The two shift bytes are none. -/
def ascii? (b : UInt8) : Option Char :=
  if b < 0x80 ∧ b ≠ 0x0E ∧ b ≠ 0x0F then some (Char.ofNat b.toNat) else none

/-- The character that a byte alone, not the escape byte, stands for in a mode. -/
def Mode.char? (mode : Mode) (b : UInt8) : Option Char :=
  match mode with
  | .ascii => ascii? b
  | .roman => if b = 0x5C then some '¥' else if b = 0x7E then some '‾' else ascii? b
  | .katakana => if 0x21 ≤ b ∧ b ≤ 0x5F then some (Char.ofNat (0xFF61 + (b.toNat - 0x21))) else none
  | .pairs => none

/-- What is kept in mind from one character to the next. -/
structure State where
  mode : Mode
  /-- An escape sequence has just been read. -/
  escaped : Bool
deriving DecidableEq, Repr

/-- The state before the first byte. -/
def State.initial : State := ⟨.ascii, false⟩

section

variable (jis0208 : Nat → Option Char)

/-- Reads an escape sequence or a character. The first byte and the bytes after it determine the
    text, how many of the bytes after it belong to it, and the state that follows. -/
def next (state : State) (b : UInt8) (rest : Bytes) : Option (Text × Nat × State) :=
  if b = 0x1B then
    match rest with
    | second :: third :: _ =>
      if state.escaped then none else (mode? second third).map fun mode => ([], 2, ⟨mode, true⟩)
    | _ => none
  else if state.mode = .pairs then
    match rest with
    | trail :: _ => ((EastAsian.japanese? 0x21 b trail).bind jis0208).map fun c => ([c], 1, ⟨.pairs, false⟩)
    | [] => none
  else (state.mode.char? b).map fun c => ([c], 0, ⟨state.mode, false⟩)

/-- The text of bytes read from a state on, and the state after them. -/
def read (state : State) : Bytes → Option (Text × State)
  | [] => some ([], state)
  | b :: rest =>
    match next jis0208 state b rest with
    | none => none
    | some (text, extra, after) =>
      (read after (rest.drop extra)).map fun onward => (text ++ onward.1, onward.2)
termination_by bytes => bytes.length
decreasing_by
  simp only [List.length_drop, List.length_cons]
  omega

/-- The text that a byte string encodes. -/
def decode? (bytes : Bytes) : Option Text := (read jis0208 .initial bytes).map Prod.fst

end

section

variable {jis0208 : Nat → Option Char} {state after : State} {b : UInt8} {rest : Bytes} {text : Text} {extra : Nat}

theorem next_local (h : next jis0208 state b rest = some (text, extra, after)) :
    extra ≤ rest.length ∧ ∀ more, next jis0208 state b (rest ++ more) = some (text, extra, after) := by
  unfold next at h ⊢
  by_cases escape : b = 0x1B
  · rw [if_pos escape] at h
    match rest with
    | [] | [_] => cases h
    | second :: third :: rest =>
      by_cases escaped : state.escaped = true
      · simp [escaped] at h
      · simp only [if_neg escaped] at h
        obtain ⟨mode, selected, same⟩ := Option.map_eq_some_iff.1 h
        simp only [Prod.mk.injEq] at same
        obtain ⟨rfl, rfl, rfl⟩ := same
        exact ⟨by simp, fun more => by simp [escape, escaped, selected]⟩
  · rw [if_neg escape] at h
    by_cases pairs : state.mode = .pairs
    · rw [if_pos pairs] at h
      cases rest with
      | nil => cases h
      | cons trail rest =>
        obtain ⟨c, found, same⟩ := Option.map_eq_some_iff.1 h
        simp only [Prod.mk.injEq] at same
        obtain ⟨rfl, rfl, rfl⟩ := same
        exact ⟨by simp, fun more => by simp [escape, pairs, found]⟩
    · rw [if_neg pairs] at h
      obtain ⟨c, found, same⟩ := Option.map_eq_some_iff.1 h
      simp only [Prod.mk.injEq] at same
      obtain ⟨rfl, rfl, rfl⟩ := same
      exact ⟨by simp, fun more => by simp [escape, pairs, found]⟩

/-- Bytes are read in one go as they are read in two parts, the second from the state that the
    first leads to. -/
theorem read_append {front : Bytes} (h : read jis0208 state front = some (text, after)) (back : Bytes) :
    read jis0208 state (front ++ back) =
      (read jis0208 after back).map fun onward => (text ++ onward.1, onward.2) := by
  fun_induction read jis0208 state front generalizing text with
  | case1 state =>
    obtain ⟨rfl, rfl⟩ := Prod.mk.inj (Option.some.inj h)
    simp
  | case2 state b rest refused => cases h
  | case3 state b rest first extra middle found ih =>
    obtain ⟨⟨more, last⟩, readOn, same⟩ := Option.map_eq_some_iff.1 h
    obtain ⟨rfl, rfl⟩ := Prod.mk.inj same
    obtain ⟨within, onward⟩ := next_local found
    rw [List.cons_append, read, onward back]
    simp only [List.drop_append_of_le_length within, ih readOn, Option.map_map]
    congr 1
    funext further
    simp

/-- That an escape sequence has just been read matters only to another one. -/
theorem read_escaped {mode : Mode} {bytes : Bytes} (free : bytes.head? ≠ some 0x1B) :
    (read jis0208 ⟨mode, true⟩ bytes).map Prod.fst = (read jis0208 ⟨mode, false⟩ bytes).map Prod.fst := by
  cases bytes with
  | nil => simp [read]
  | cons b rest =>
    have other : b ≠ 0x1B := fun escape => free (congrArg some escape)
    have same : next jis0208 ⟨mode, true⟩ b rest = next jis0208 ⟨mode, false⟩ b rest := by
      simp [next, other]
    rw [read, read, same]

end

end HttpReply.Iso2022Jp
