import HttpReply.Charset.Label
import HttpReply.Charset.Utf8
import HttpReply.Charset.Utf16
import HttpReply.Charset.EastAsian
import HttpReply.Charset.Iso2022Jp

/-!
# Decoding in a charset

A byte string is decoded as a whole: one sequence of bytes that stands for nothing
makes it no text at all. What the tables of the East Asian encodings hold is given.
-/
namespace HttpReply

/-- Reads one byte by a code page. -/
def CodePage.next (page : CodePage) : CharReader := fun b _ => (page.char? b).map fun c => ([c], 0)

theorem CodePage.next_local (page : CodePage) : page.next.Local := by
  intro b rest text extra h
  simp only [next, Option.map_eq_some_iff, Prod.mk.injEq] at h
  obtain ⟨c, found, rfl, rfl⟩ := h
  simp [next, found]

/-- The text of bytes that each stand for a character of a code page. -/
theorem CodePage.readAll_next (page : CodePage) (bytes : Bytes) :
    page.next.readAll bytes = bytes.mapM page.char? := by
  induction bytes with
  | nil => simp
  | cons b rest ih =>
    rw [CharReader.readAll, List.mapM_cons]
    cases found : page.char? b with
    | none => simp [next, found]
    | some c =>
      cases more : rest.mapM page.char? <;> simp [next, found, ih, more]

namespace Charset

/-- ASCII below 0x80 and the private use characters from U+F780 on above it. -/
def userDefinedChar (b : UInt8) : Char :=
  Char.ofNat (if b < 0x80 then b.toNat else 0xF780 + (b.toNat - 0x80))

/-- The text that a byte string encodes in a charset, if it encodes one. -/
def decode? (tables : EastAsian.Tables) : Charset → Bytes → Option Text
  | .singleByte page => page.next.readAll
  | .utf8 => Utf8.decode?
  | .utf16be => Utf16.decode? .big
  | .utf16le => Utf16.decode? .little
  | .gb18030 | .gbk => (EastAsian.gb18030 tables).readAll
  | .big5 => (EastAsian.big5 tables).readAll
  | .eucJp => (EastAsian.eucJp tables).readAll
  | .eucKr => (EastAsian.eucKr tables).readAll
  | .iso2022Jp => Iso2022Jp.decode? tables.jis0208
  | .shiftJis => (EastAsian.shiftJis tables).readAll
  | .userDefined => fun bytes => some (bytes.map userDefinedChar)
  | .replacement => fun bytes => if bytes.isEmpty then some [] else none

/-- No bytes are the empty text in every charset. -/
@[simp] theorem decode?_nil (tables : EastAsian.Tables) (charset : Charset) :
    charset.decode? tables [] = some [] := by
  cases charset <;>
    simp [decode?, Utf8.decode?, Utf16.decode?, Iso2022Jp.decode?, Iso2022Jp.read]

end Charset

end HttpReply
