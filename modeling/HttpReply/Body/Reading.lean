import HttpReply.Body.Stream

/-!
# Reading from streams

The requests that a reader can make of a stream, as data, and collections of streams
that are read independently of each other.
-/
namespace HttpReply

namespace Stream

/-- Why a stream cannot grant a request. -/
inductive Error
  /-- Fewer bytes are left than were asked for. -/
  | unexpectedEnd
  /-- What is left is not text in UTF-8. -/
  | invalidText
deriving DecidableEq, Repr

/-- The cause in words. -/
def Error.message : Error → String
  | unexpectedEnd => "failed to fill whole buffer"
  | invalidText => "stream did not contain valid UTF-8"

/-- What a reader asks of a stream. -/
inductive Request
  /-- The next byte. -/
  | byte
  /-- The byte after the next `n` ones. -/
  | nth (n : Nat)
  /-- As many bytes as a buffer has room for, put into it. -/
  | into (buffer : Bytes)
  /-- Exactly `n` bytes. -/
  | exactly (n : Nat)
  /-- All bytes that are left. -/
  | toEnd
  /-- All bytes that are left, as text. -/
  | toEndAsText
  /-- The number of bytes in all chunks. -/
  | size
deriving DecidableEq, Repr

/-- What a reader is given. -/
inductive Answer
  | byte (value : Option UInt8)
  | filled (count : Nat) (buffer : Bytes)
  | bytes (value : Bytes)
  | text (value : Text)
  | size (value : Nat)
deriving DecidableEq, Repr

/-- Answers a request. A stream that cannot grant it is read to the end all the same. -/
def answer (s : Stream) : Request → Except Error Answer × Stream
  | .byte =>
    let (value, after) := s.readByte
    (.ok (.byte value), after)
  | .nth n =>
    let (value, after) := s.readNth n
    (.ok (.byte value), after)
  | .into buffer =>
    let (count, filled, after) := s.readInto buffer
    (.ok (.filled count filled), after)
  | .exactly n =>
    match s.readExact n with
    | (some value, after) => (.ok (.bytes value), after)
    | (none, after) => (.error .unexpectedEnd, after)
  | .toEnd =>
    let (value, after) := s.readToEnd
    (.ok (.bytes value), after)
  | .toEndAsText =>
    let (value, after) := s.readToEnd
    match Utf8.decode? value with
    | some text => (.ok (.text text), after)
    | none => (.error .invalidText, after)
  | .size => (.ok (.size s.size), s)

end Stream

/-- Streams that were opened one after another, each at its own place. -/
abbrev Streams := List Stream

namespace Streams

/-- What can be asked of the streams. -/
inductive Request
  /-- A request to one of them. -/
  | read (index : Nat) (request : Stream.Request)
  /-- A new stream at the place where another stands. -/
  | copy (index : Nat)
deriving DecidableEq, Repr

/-- What is answered: the answer of one stream, or the index of a new one. -/
inductive Answer
  | read (answer : Except Stream.Error Stream.Answer)
  | copied (index : Nat)

/-- Answers a request, unless it is about a stream that was never opened. -/
def answer? (streams : Streams) : Request → Option (Answer × Streams)
  | .read index request =>
    match streams[index]? with
    | some stream =>
      let (given, after) := stream.answer request
      some (.read given, streams.set index after)
    | none => none
  | .copy index =>
    match streams[index]? with
    | some stream => some (.copied streams.length, streams ++ [stream])
    | none => none

end Streams

end HttpReply
