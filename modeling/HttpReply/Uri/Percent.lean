import HttpReply.Uri.Basic

/-!
# Percent-encoding

In each part of a URI a byte outside the part's character set is written as a percent
sign and two hexadecimal digits.
-/
namespace HttpReply.Uri

/-- The value of a hexadecimal digit, in either case. -/
def hexDigit? (c : Char) : Option Nat :=
  if c.isDigit then some (c.toNat - '0'.toNat)
  else if 'a' ≤ c ∧ c ≤ 'f' then some (c.toNat - 'a'.toNat + 10)
  else if 'A' ≤ c ∧ c ≤ 'F' then some (c.toNat - 'A'.toNat + 10)
  else none

/-- A hexadecimal digit in either case. -/
def isHexDigit (c : Char) : Bool := (hexDigit? c).isSome

/-- The byte that two hexadecimal digits spell. -/
def hexByte? (high low : Char) : Option UInt8 :=
  match hexDigit? high, hexDigit? low with
  | some h, some l => some (UInt8.ofNat (16 * h + l))
  | _, _ => none

/-- The bytes that a part spells. An escape that the part's end cuts short adds none. -/
def decodePart (part : Part) (allowed : Char → Bool) : Text → Except Error Bytes
  | [] => .ok []
  | c :: rest =>
    if c = '%' then
      match rest with
      | high :: low :: rest =>
        match hexByte? high low with
        | some byte => (decodePart part allowed rest).map (byte :: ·)
        | none => .error .badEscape
      | [high] => if isHexDigit high then .ok [] else .error .badEscape
      | [] => .ok []
    else if allowed c then (decodePart part allowed rest).map (UInt8.ofNat c.toNat :: ·)
    else .error (.illegalCharacter part)

/-- The digit of a value below sixteen, in upper case. -/
def hexDigit (n : Nat) : Char := Char.ofNat (if n < 10 then 0x30 + n else 0x41 + (n - 10))

/-- A byte as it is written in a part with the given character set. -/
def encodeByte (allowed : Char → Bool) (b : UInt8) : Text :=
  let c := Char.ofNat b.toNat
  if b.toNat < 0x80 && allowed c then [c] else ['%', hexDigit (b.toNat / 16), hexDigit (b.toNat % 16)]

/-- The text of a part with the given character set. -/
def encodePart (allowed : Char → Bool) (bytes : Bytes) : Text := bytes.flatMap (encodeByte allowed)

end HttpReply.Uri
