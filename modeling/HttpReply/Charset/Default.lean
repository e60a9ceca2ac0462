import HttpReply.Charset.Label
import HttpReply.Text.Numeral

/-!
# The default charset

A body whose charset nobody names is read in the default charset, and text is
written in it again. A character that the charset lacks is written as a numeric
reference to its code point.
-/
namespace HttpReply.Charset.Default

/-- The label of the default charset. -/
def label : Text := "iso-8859-1".toList

/-- The code page that the default label names. -/
def page : CodePage := .windows1252

theorem ofLabel?_label : Charset.ofLabel? label = some (.singleByte page) := by
  decide +kernel

/-- The decimal reference to a character, in ASCII. -/
def reference (c : Char) : Text := ['&', '#'] ++ Text.decimal c.toNat ++ [';']

/-- The bytes that a character is written as in the default charset. -/
def encodeChar (c : Char) : Bytes :=
  match page.byte? c with
  | some b => [b]
  | none => (reference c).map fun d => UInt8.ofNat d.toNat

/-- The bytes of a text in the default charset, character by character. -/
def encode (t : Text) : Bytes := t.flatMap encodeChar

theorem encode_append (s t : Text) :
    encode (s ++ t) = encode s ++ encode t := by
  simp [encode]

end HttpReply.Charset.Default
