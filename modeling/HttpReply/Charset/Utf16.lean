import HttpReply.Charset.Reader

/-!
# UTF-16

A character is written as one 16-bit unit, or as a pair of surrogate units if its
code point does not fit into one. The two charsets differ in the order of the two
bytes of a unit.
-/
namespace HttpReply.Utf16

/-- Which of the two bytes of a unit comes first. -/
inductive ByteOrder
  | big
  | little
deriving DecidableEq, Repr

/-- The two bytes of a unit. -/
def unitBytes (order : ByteOrder) (unit : Nat) : Bytes :=
  match order with
  | .big => [UInt8.ofNat (unit / 256), UInt8.ofNat (unit % 256)]
  | .little => [UInt8.ofNat (unit % 256), UInt8.ofNat (unit / 256)]

/-- The unit that two bytes make. -/
def unitOf (order : ByteOrder) (first second : UInt8) : Nat :=
  match order with
  | .big => 256 * first.toNat + second.toNat
  | .little => 256 * second.toNat + first.toNat

/-- The bytes of a character. -/
def write (order : ByteOrder) (c : Char) : Bytes :=
  if c.toNat < 0x10000 then unitBytes order c.toNat
  else
    unitBytes order (0xD800 + (c.toNat - 0x10000) / 0x400) ++
      unitBytes order (0xDC00 + (c.toNat - 0x10000) % 0x400)

/-- The bytes of a text, character by character. -/
def encode (order : ByteOrder) (t : Text) : Bytes := t.flatMap (write order)

/-- Reads one unit, or two if the first is a leading surrogate. -/
def next (order : ByteOrder) : CharReader
  | a, b :: rest =>
    let unit := unitOf order a b
    if 0xD800 ≤ unit ∧ unit < 0xDC00 then
      match rest with
      | c :: d :: _ =>
        let trail := unitOf order c d
        if 0xDC00 ≤ trail ∧ trail < 0xE000 then
          (scalar? (0x10000 + 0x400 * (unit - 0xD800) + (trail - 0xDC00))).map fun c => ([c], 3)
        else none
      | _ => none
    else (scalar? unit).map fun c => ([c], 1)
  | _, [] => none

/-- The text that a byte string encodes. -/
def decode? (order : ByteOrder) : Bytes → Option Text := (next order).readAll

theorem unitBytes_unitOf (order : ByteOrder) (a b : UInt8) : unitBytes order (unitOf order a b) = [a, b] := by
  have := a.toNat_lt
  have := b.toNat_lt
  cases order with
  | big =>
    have high : (256 * a.toNat + b.toNat) / 256 = a.toNat := by omega
    have low : (256 * a.toNat + b.toNat) % 256 = b.toNat := by omega
    simp [unitBytes, unitOf, high, low]
  | little =>
    have high : (256 * b.toNat + a.toNat) / 256 = b.toNat := by omega
    have low : (256 * b.toNat + a.toNat) % 256 = a.toNat := by omega
    simp [unitBytes, unitOf, high, low]

/-- A unit in range is made by exactly its two bytes. -/
theorem unitBytes_eq (order : ByteOrder) (unit : Nat) (range : unit < 0x10000) :
    ∃ a b, unitBytes order unit = [a, b] ∧ unitOf order a b = unit := by
  cases order with
  | big =>
    refine ⟨_, _, rfl, ?_⟩
    simp [unitOf]
    omega
  | little =>
    refine ⟨_, _, rfl, ?_⟩
    simp [unitOf]
    omega

theorem next_undoes (order : ByteOrder) : CharReader.Undoes (next order) (write order) where
  write_ne_nil c := by
    unfold write
    split <;> cases order <;> simp [unitBytes]
  read {c b tail} written more := by
    have valid : c.toNat.isValidChar := c.valid
    simp only [Nat.isValidChar] at valid
    unfold write at written
    split at written
    next small =>
      obtain ⟨x, y, bytes, unit⟩ := unitBytes_eq order _ small
      rw [bytes] at written
      simp only [List.cons.injEq] at written
      obtain ⟨rfl, rfl⟩ := written
      simp only [next, List.cons_append, List.nil_append, unit]
      rw [if_neg (by omega)]
      simp
    next large =>
      obtain ⟨x, y, first, lead⟩ :=
        unitBytes_eq order (0xD800 + (c.toNat - 0x10000) / 0x400) (by omega)
      obtain ⟨z, w, second, trail⟩ :=
        unitBytes_eq order (0xDC00 + (c.toNat - 0x10000) % 0x400) (by omega)
      rw [first, second] at written
      simp only [List.cons_append, List.nil_append, List.cons.injEq] at written
      obtain ⟨rfl, rfl⟩ := written
      simp only [next, List.cons_append, List.nil_append, lead, trail]
      rw [if_pos (by omega), if_pos (by omega)]
      have spelled : 0x10000 + 0x400 * (0xD800 + (c.toNat - 0x10000) / 0x400 - 0xD800) +
          (0xDC00 + (c.toNat - 0x10000) % 0x400 - 0xDC00) = c.toNat := by omega
      rw [spelled, scalar?_toNat]
      simp
  written {a rest text extra} h := by
    match rest with
    | [] => simp [next] at h
    | b :: rest =>
      have whole := unitBytes_unitOf order a b
      simp only [next] at h
      split at h
      next lead =>
        match rest with
        | [] => simp at h
        | [_] => simp at h
        | c :: d :: rest =>
          have pair := unitBytes_unitOf order c d
          simp only at h
          split at h
          next trail =>
            obtain ⟨x, spelled, hx⟩ := Option.map_eq_some_iff.1 h
            simp only [Prod.mk.injEq] at hx
            obtain ⟨rfl, rfl⟩ := hx
            refine ⟨x, rfl, by simp, ?_⟩
            have code := scalar?_eq_some_iff.1 spelled
            unfold write
            rw [if_neg (by omega), code]
            have high : 0xD800 + (0x10000 + 0x400 * (unitOf order a b - 0xD800) +
                (unitOf order c d - 0xDC00) - 0x10000) / 0x400 = unitOf order a b := by omega
            have low : 0xDC00 + (0x10000 + 0x400 * (unitOf order a b - 0xD800) +
                (unitOf order c d - 0xDC00) - 0x10000) % 0x400 = unitOf order c d := by omega
            rw [high, low, whole, pair]
            simp
          next => simp at h
      next =>
        obtain ⟨x, spelled, hx⟩ := Option.map_eq_some_iff.1 h
        simp only [Prod.mk.injEq] at hx
        obtain ⟨rfl, rfl⟩ := hx
        refine ⟨x, rfl, by simp, ?_⟩
        have code := scalar?_eq_some_iff.1 spelled
        have small : unitOf order a b < 0x10000 := by
          have := a.toNat_lt
          have := b.toNat_lt
          cases order <;> simp only [unitOf] <;> omega
        unfold write
        rw [if_pos (by omega), code, whole]
        simp

/-- A byte string is the encoding of the text that is read from it, and of no other. -/
theorem decode?_eq_some_iff {order : ByteOrder} {bytes : Bytes} {t : Text} :
    decode? order bytes = some t ↔ bytes = encode order t :=
  (next_undoes order).readAll_eq_some_iff

end HttpReply.Utf16
