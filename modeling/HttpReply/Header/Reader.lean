import HttpReply.Charset.Utf8
import HttpReply.Header.Basic

/-!
# Header text

Header text is lines that end in a carriage return and a line feed; an empty line ends
it. A line that begins with a blank continues the line before it, so a header is known
to be whole only when the line after it has arrived.
-/
namespace HttpReply

namespace Headers

/-- Why header text is refused. -/
inductive ReadError
  | lineNotText
  | lineWithoutColon
  | badNameCharacter
  | badValueCharacter
deriving DecidableEq, Repr

/-- The cause in words. -/
def ReadError.message : ReadError → String
  | .lineNotText => "header line could not be interpreted as text"
  | .lineWithoutColon => "invalid header line"
  | .badNameCharacter => "header name contains an illegal character"
  | .badValueCharacter => "header value contains an illegal character"

/-- How far a reading got. -/
structure Progress where
  /-- The empty line has been read. -/
  complete : Bool
  /-- How many bytes have been dealt with. -/
  consumed : Nat
deriving DecidableEq, Repr

/-- The lines of a text without their ends. The last one has no end. -/
def splitLines : Bytes → List Bytes
  | [] => [[]]
  | [b] => [[b]]
  | b :: c :: rest =>
    if b = 0x0D ∧ c = 0x0A then [] :: splitLines rest
    else (splitLines (c :: rest)).modifyHead (b :: ·)

/-- The lines whose end has been received. -/
def completeLines (bytes : Bytes) : List Bytes := (splitLines bytes).dropLast

/-- A line that continues the one before it. -/
def isContinuation : Bytes → Bool
  | b :: _ => b == 0x20 || b == 0x09
  | [] => false

/-- The visible ASCII characters. -/
def isGraphic (c : Char) : Bool := 0x21 ≤ c.toNat && c.toNat ≤ 0x7E

/-- The characters of a header value. -/
def isValueChar (c : Char) : Bool := isGraphic c || c == ' ' || c == '\t'

/-- The text of a line. -/
def lineText (line : Bytes) : Except ReadError Text :=
  match Utf8.decode? line with
  | some text => .ok text
  | none => .error .lineNotText

/-- The name and the untrimmed value on the first line of a header. -/
def readLine (line : Bytes) : Except ReadError (Text × Text) := do
  let text ← lineText line
  match Text.cut? ':' text with
  | none => .error .lineWithoutColon
  | some (name, value) =>
    if !name.all isGraphic then .error .badNameCharacter
    else if !value.all isValueChar then .error .badValueCharacter
    else .ok (name, value)

/-- What a continuation adds to a value: a space and its own trimmed text. -/
def readContinuation (line : Bytes) : Except ReadError Text := do
  let text ← lineText line
  if text.all isValueChar then .ok (' ' :: Text.trim text) else .error .badValueCharacter

/-- How many bytes lines take, their ends included. -/
def lineBytes : List Bytes → Nat
  | [] => 0
  | line :: rest => line.length + 2 + lineBytes rest

/-- Reads headers from complete lines, after `consumed` bytes. A header is stored when
    the line after it is known to be text; what is stored stays stored whatever follows. -/
def readLines (headers : Headers) (consumed : Nat) :
    List Bytes → Headers × Except ReadError Progress
  | [] => (headers, .ok ⟨false, consumed⟩)
  | line :: rest =>
    if line.isEmpty then (headers, .ok ⟨true, consumed + 2⟩)
    else
      match readLine line with
      | .error e => (headers, .error e)
      | .ok (name, value) =>
        match (rest.takeWhile isContinuation).mapM readContinuation with
        | .error e => (headers, .error e)
        | .ok more =>
          match rest.dropWhile isContinuation with
          | [] => (headers, .ok ⟨false, consumed⟩)
          | next :: _ =>
            match lineText next with
            | .error e => (headers, .error e)
            | .ok _ =>
              readLines (headers.add name (Text.trim (value ++ more.flatten)))
                (consumed + lineBytes (line :: rest.takeWhile isContinuation))
                (rest.dropWhile isContinuation)
termination_by lines => lines.length
decreasing_by
  have := (List.dropWhile_sublist (l := rest) isContinuation).length_le
  simp only [List.length_cons]
  omega

/-- Reads header text from its beginning and adds what it holds to the headers. -/
def read (headers : Headers) (bytes : Bytes) : Headers × Except ReadError Progress :=
  readLines headers 0 (completeLines bytes)

end Headers

end HttpReply
