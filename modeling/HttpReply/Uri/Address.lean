import HttpReply.Text.Numeral
import HttpReply.Uri.Percent

/-!
# Numeric host addresses

An IPv4 address has four decimal groups. An IPv6 address has eight hexadecimal groups,
of which a double colon may leave out any number; the last two may be written as an
IPv4 address. A text is checked from left to right and the first fault is reported.
-/
namespace HttpReply.Uri

/-- A text that is an octet in decimal. -/
def isOctet (digits : Text) : Bool :=
  match Text.natural? digits with
  | some n => n ≤ 255
  | none => false

/-- Checks an IPv4 address after `count` groups and the first digits of the next group. -/
def checkIpv4 (count : Nat) (digits : Text) : Text → Except Error Unit
  | [] =>
    if digits.isEmpty then .error .unfinishedHost
    else if !isOctet digits then .error .octetOutOfRange
    else if count + 1 < 4 then .error .tooFewGroups
    else if 4 < count + 1 then .error .tooManyGroups
    else .ok ()
  | c :: rest =>
    if c.isDigit then checkIpv4 count (digits ++ [c]) rest
    else if digits.isEmpty || c != '.' then .error (.illegalCharacter .ipv4Address)
    else if 4 < count + 1 then .error .tooManyGroups
    else if !isOctet digits then .error .octetOutOfRange
    else checkIpv4 (count + 1) [] rest

/-- Checks the number of groups of an IPv6 address. -/
def checkGroupCount (shortened : Bool) (count : Nat) : Except Error Unit :=
  if shortened then if count ≤ 7 then .ok () else .error .tooManyGroups
  else if count < 8 then .error .tooFewGroups
  else if 8 < count then .error .tooManyGroups
  else .ok ()

/-- What is wrong with a character that can neither extend a group nor end it. After four
    decimal digits it is taken for a fifth one. -/
def groupFault (digits : Text) : Error :=
  if digits.length = 4 && digits.all Char.isDigit then .groupTooLong
  else .illegalCharacter .ipv6Address

/-- Checks an IPv6 address after `count` groups and the first digits of the next group.
    The flag tells that a double colon has been read. -/
def checkGroups (shortened : Bool) (count : Nat) (digits : Text) : Text → Except Error Unit
  | [] => checkGroupCount shortened (if digits.isEmpty then count else count + 1)
  | c :: rest =>
    if isHexDigit c then
      if digits.length < 4 then checkGroups shortened count (digits ++ [c]) rest
      else .error .groupTooLong
    else if digits.isEmpty then .error (.illegalCharacter .ipv6Address)
    else if c = '.' && digits.all Char.isDigit then
      match checkIpv4 0 digits (c :: rest) with
      | .ok () => checkGroupCount shortened (count + 2)
      | .error e => .error e
    else if c = ':' then
      match rest with
      | [] => .error .unfinishedHost
      | next :: more =>
        if next != ':' then checkGroups shortened (count + 1) [] (next :: more)
        else if shortened then .error .secondDoubleColon
        else checkGroups true (count + 1) [] more
    else .error (groupFault digits)

/-- Checks an IPv6 address. -/
def checkIpv6 : Text → Except Error Unit
  | [':'] => .error .unfinishedHost
  | ':' :: ':' :: rest => checkGroups true 0 [] rest
  | ':' :: _ => .error (.illegalCharacter .ipv6Address)
  | t => checkGroups false 0 [] t

/-- A text that is an IPv6 address. -/
def isIpv6 (t : Text) : Bool := (checkIpv6 t).toBool

end HttpReply.Uri
