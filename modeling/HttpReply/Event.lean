import HttpReply.Text.Numeral

/-!
# Events

What the library reports about its work while it answers a question.
-/
namespace HttpReply

/-- How much attention an event asks for. -/
inductive Level
  | trace
  | debug
deriving DecidableEq, Repr

/-- Something worth reporting. -/
inductive Event
  /-- The content type names the charset of the body. -/
  | charsetFromContentType (label : Text)
  /-- The caller's charset is used for the body. -/
  | charsetFromCaller (label : Text)
  /-- The body has been decoded. -/
  | bodyDecoded (byteCount chunkCount : Nat) (label : Text)
  /-- A stream over the decoded and encoded body has been opened. -/
  | textStreamed
  /-- A stream over the body as it was received has been opened. -/
  | chunksStreamed (chunkCount : Nat)
  /-- The cookies have been read from the headers. -/
  | cookiesRead (count : Nat)
deriving DecidableEq, Repr

namespace Event

/-- The level of an event: finished work is of more interest than choices on the way. -/
def level : Event → Level
  | charsetFromContentType _ | charsetFromCaller _ | textStreamed | chunksStreamed _ => .trace
  | bodyDecoded .. | cookiesRead _ => .debug

/-- The event in words. -/
def message : Event → Text
  | charsetFromContentType label => "using charset ".toList ++ label ++ " from Content-Type".toList
  | charsetFromCaller label => "using requested charset ".toList ++ label
  | bodyDecoded byteCount chunkCount label =>
    "decoded ".toList ++ Text.decimal byteCount ++ " byte response body from ".toList ++
      Text.decimal chunkCount ++ " chunk(s) as ".toList ++ label
  | textStreamed => "streaming re-encoded response body".toList
  | chunksStreamed chunkCount =>
    "streaming ".toList ++ Text.decimal chunkCount ++ " response body chunk(s)".toList
  | cookiesRead count => "parsed ".toList ++ Text.decimal count ++ " cookie(s) from response headers".toList

end Event

end HttpReply
