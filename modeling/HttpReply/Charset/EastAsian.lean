import HttpReply.Charset.Reader

/-!
# East Asian encodings

In these encodings a byte below 0x80 is ASCII and a character beyond it takes one to
four bytes. Some characters are computed from their bytes, and the others stand at a
position of a table. The tables are large and are not kept here: what stands at their
positions is a parameter.
-/
namespace HttpReply.EastAsian

/-- What stands at the positions of the tables. -/
structure Tables where
  /-- Two bytes of GB 18030. -/
  gb18030 : Nat → Option Char
  /-- Four bytes of GB 18030, for code points up to U+FFFF. -/
  gb18030Four : Nat → Option Char
  big5 : Nat → Option Char
  /-- The table of all Japanese encodings. -/
  jis0208 : Nat → Option Char
  /-- The further table of EUC-JP. -/
  jis0212 : Nat → Option Char
  eucKr : Nat → Option Char

/-- Tables in which nothing stands. -/
def Tables.blank : Tables where
  gb18030 _ := none
  gb18030Four _ := none
  big5 _ := none
  jis0208 _ := none
  jis0212 _ := none
  eucKr _ := none

/-- Tables in which one character stands, the hiragana a of the Japanese encodings. -/
def Tables.onlyA : Tables := { blank with jis0208 := fun n => if n = 283 then some 'あ' else none }

/-- The byte lies between the two bounds, both included. -/
def between (low high : Nat) (b : UInt8) : Bool := low ≤ b.toNat && b.toNat ≤ high

/-- The number of a byte among those between the two bounds. -/
def numberIn? (low high : Nat) (b : UInt8) : Option Nat :=
  if between low high b then some (b.toNat - low) else none

/-- The number of a byte among those from 0x40 to 0x7E and then between the two bounds. -/
def columnIn? (low high : Nat) (b : UInt8) : Option Nat :=
  (numberIn? 0x40 0x7E b).or ((numberIn? low high b).map (0x3F + ·))

/-- The position of a row and a column in a table whose rows have the given width. -/
def position? (width : Nat) (row column : Option Nat) : Option Nat :=
  row.bind fun row => column.map fun column => width * row + column

/-- The half-width katakana that the byte stands for, counted from 0xA1 on. -/
def katakana (b : UInt8) : Char := Char.ofNat (0xFF61 + (b.toNat - 0xA1))

/-- The character that a byte alone is in ASCII. -/
def ascii? (b : UInt8) : Option Char :=
  if b.toNat < 0x80 then some (Char.ofNat b.toNat) else none

/-- Reads a byte that stands alone, or else two bytes and as many more as these two call for. -/
def oneOrMore (alone : UInt8 → Option Char) (extra : UInt8 → UInt8 → Nat)
    (several : UInt8 → UInt8 → Bytes → Option Text) : CharReader :=
  fun a rest =>
    match alone a, rest with
    | some c, _ => some ([c], 0)
    | none, [] => none
    | none, b :: rest =>
      if extra a b ≤ rest.length then
        (several a b (rest.take (extra a b))).map fun text => (text, extra a b + 1)
      else none

/-- Reads a byte that stands alone, or else two bytes. -/
def oneOrTwo (alone : UInt8 → Option Char) (pair : UInt8 → UInt8 → Option Text) : CharReader :=
  oneOrMore alone (fun _ _ => 0) fun a b _ => pair a b

section

variable (tables : Tables)

/-! ## Chinese -/

/-- The character that two bytes of GB 18030 stand for. -/
def gb18030Pair? (a b : UInt8) : Option Char :=
  (position? 190 (numberIn? 0x81 0xFE a) (columnIn? 0x80 0xFE b)).bind tables.gb18030

/-- The position that four bytes have among all sequences of four. -/
def fourByteIndex (a b c d : UInt8) : Nat :=
  (((a.toNat - 0x81) * 10 + (b.toNat - 0x30)) * 126 + (c.toNat - 0x81)) * 10 + (d.toNat - 0x30)

/-- The character that four bytes of GB 18030 stand for. Beyond U+FFFF it is computed. -/
def gb18030Four? (a b c d : UInt8) : Option Char :=
  if between 0x81 0xFE a && between 0x30 0x39 b && between 0x81 0xFE c && between 0x30 0x39 d then
    if fourByteIndex a b c d < 189000 then tables.gb18030Four (fourByteIndex a b c d)
    else scalar? (0x10000 + (fourByteIndex a b c d - 189000))
  else none

/-- GB 18030, by which GBK is read too. The byte 0x80 is the euro sign, and a digit after
    the first byte announces four of them. -/
def gb18030 : CharReader :=
  oneOrMore (fun a => if a = 0x80 then some '€' else ascii? a)
    (fun _ b => if between 0x30 0x39 b then 2 else 0)
    fun a b more =>
      match more with
      | [c, d] => (gb18030Four? tables a b c d).map fun x => [x]
      | _ => (gb18030Pair? tables a b).map fun x => [x]

/-- Four pairs of Big5 that each stand for a letter with a combining mark after it. -/
def combined? (a b : UInt8) : Option Text :=
  if a = 0x88 ∧ b = 0x62 then some ['\u00CA', '\u0304']
  else if a = 0x88 ∧ b = 0x64 then some ['\u00CA', '\u030C']
  else if a = 0x88 ∧ b = 0xA3 then some ['\u00EA', '\u0304']
  else if a = 0x88 ∧ b = 0xA5 then some ['\u00EA', '\u030C']
  else none

/-- The character that a pair of Big5 stands for by the table. -/
def big5Pair? (a b : UInt8) : Option Char :=
  (position? 157 (numberIn? 0x81 0xFE a) (columnIn? 0xA1 0xFE b)).bind tables.big5

/-- The encoding Big5. -/
def big5 : CharReader :=
  oneOrTwo ascii? fun a b => (combined? a b).or ((big5Pair? tables a b).map fun x => [x])

/-! ## Japanese and Korean -/

/-- The position of a pair in a table of 94 rows and columns, counted from the given byte on. -/
def japanese? (low : Nat) (a b : UInt8) : Option Nat :=
  position? 94 (numberIn? low (low + 93) a) (numberIn? low (low + 93) b)

/-- EUC-JP, in which 0x8E announces a half-width katakana and 0x8F a pair of the further table. -/
def eucJp : CharReader :=
  oneOrMore ascii? (fun a _ => if a = 0x8F then 1 else 0)
    fun a b more =>
      match more with
      | [c] => ((japanese? 0xA1 b c).bind tables.jis0212).map fun x => [x]
      | _ =>
        if a = 0x8E && between 0xA1 0xDF b then some [katakana b]
        else ((japanese? 0xA1 a b).bind tables.jis0208).map fun x => [x]

/-- The position of a pair of Shift_JIS, whose first bytes leave out those of the katakana. -/
def shiftJisPosition? (a b : UInt8) : Option Nat :=
  position? 188 ((numberIn? 0x81 0x9F a).or ((numberIn? 0xE0 0xFC a).map (31 + ·))) (columnIn? 0x80 0xFC b)

/-- The character that a pair of Shift_JIS stands for. Ten rows are for private use. -/
def shiftJisPair? (a b : UInt8) : Option Char :=
  (shiftJisPosition? a b).bind fun n =>
    if 8836 ≤ n ∧ n < 10716 then some (Char.ofNat (0xE000 + (n - 8836))) else tables.jis0208 n

/-- Shift_JIS, in which 0x80 stands for itself and half-width katakana are single bytes. -/
def shiftJis : CharReader :=
  oneOrTwo
    (fun a => if a = 0x80 then some '\u0080' else if between 0xA1 0xDF a then some (katakana a) else ascii? a)
    (fun a b => (shiftJisPair? tables a b).map fun x => [x])

/-- EUC-KR, in which every character beyond ASCII is a pair of a table. -/
def eucKr : CharReader :=
  oneOrTwo ascii? fun a b =>
    ((position? 190 (numberIn? 0x81 0xFE a) (numberIn? 0x41 0xFE b)).bind tables.eucKr).map fun x => [x]

end

theorem oneOrMore_local (alone : UInt8 → Option Char) (extra : UInt8 → UInt8 → Nat)
    (several : UInt8 → UInt8 → Bytes → Option Text) : CharReader.Local (oneOrMore alone extra several) := by
  intro a rest text width h
  unfold oneOrMore at h ⊢
  cases single : alone a with
  | some c =>
    simp only [single, Option.some.injEq, Prod.mk.injEq] at h
    obtain ⟨rfl, rfl⟩ := h
    simp
  | none =>
    cases rest with
    | nil => simp [single] at h
    | cons b rest =>
      simp only [single] at h
      split at h
      next within =>
        obtain ⟨text', read, same⟩ := Option.map_eq_some_iff.1 h
        obtain ⟨rfl, rfl⟩ := Prod.mk.inj same
        refine ⟨Nat.succ_le_succ within, fun more => ?_⟩
        have longer : extra a b ≤ (rest ++ more).length := by
          rw [List.length_append]
          omega
        simp only [List.cons_append]
        rw [if_pos longer, List.take_append_of_le_length within, read, Option.map_some]
      next => cases h

theorem oneOrTwo_local (alone : UInt8 → Option Char) (pair : UInt8 → UInt8 → Option Text) :
    CharReader.Local (oneOrTwo alone pair) :=
  oneOrMore_local _ _ _

end HttpReply.EastAsian
