import HttpReply.Text.Basic

/-!
# Status

What the status line of a response says, and what was asked for.
-/
namespace HttpReply

/-- The status of a response and the URI of the requested resource. -/
structure Status where
  code : Nat
  reason : Text
  uri : Text
deriving DecidableEq, Repr

/-- A code from 300 to 399 sends the client elsewhere. -/
def Status.isRedirection (status : Status) : Bool := 300 ≤ status.code && status.code ≤ 399

end HttpReply
