import HostDispatch.Dispatch.Controller
import HostDispatch.Validation

/-!
# Publishing receivers

A publisher is a receiver that encodes each completion and publishes it on a channel. It counts
the publications that succeeded and the completions that failed, either in encoding or in
publishing, so the two counts always add up to the completions received. A successful publication
that reached no subscriber closes every promise the publisher tracks, unless it keeps unheard
channels. Failures are logged through a limited logger.

The channel client here is scripted: its k-th publication answers the k-th reply of a list (the
last reply repeats, and no list means one subscriber each time), and every publication it was
asked for is kept. The encoder fails on the completions whose numbers are listed and otherwise
writes `channel#k@time`.
-/

namespace HostDispatch

/-- A scripted answer to a publication. -/
inductive Reply where
  /-- Delivered to this many subscribers. -/
  | subscribers (n : Int)
  /-- Failed with this message. -/
  | failure (message : String)
  /-- Failed because the server answered with nothing. -/
  | nothing
deriving Inhabited

/-- The message of a reply of nothing. -/
def Reply.nothingMessage : String := "redis: nil"

/-- A publishing receiver with its scripted client and encoder. -/
structure Publisher where
  channel : String
  replies : List Reply
  encodeFailures : List Int
  keepUnheard : Bool
  /-- Completions encoded so far. -/
  encoded : Nat := 0
  published : Nat := 0
  failed : Nat := 0
  tracker : Tracker := {}
  /-- Every publication asked of the client: channel and payload. -/
  messages : Array (String × String) := #[]
  logger : Log.Logger
  limited : Log.Limited
deriving Inhabited

namespace Publisher

/-- The default publish timeout, one second. -/
def defaultTimeout : Int := 1000000000

/-- Make a publisher, checking the client, channel, encoder and timeout in that order. -/
def make (hasClient : Bool) (channel : String) (hasEncoder : Bool) (timeout : Int)
    (replies : List Reply) (encodeFailures : List Int) (keepUnheard : Bool)
    (logger : Log.Logger) : Except Fault Publisher := do
  if !hasClient then throw (Validation.missing "redisrecv" "client")
  Validation.notEmpty "redisrecv" "channel" channel
  if !hasEncoder then throw (Validation.missing "redisrecv" "encode")
  Validation.nonNegativeDuration "redisrecv" "publish_timeout" timeout
  let logger := logger.withFields [Log.text "component" "redisrecv", Log.text "channel" channel]
  pure { channel := channel, replies := replies, encodeFailures := encodeFailures,
         keepUnheard := keepUnheard, logger := logger, limited := { logger := logger } }

/-- The reply to the k-th publication (from 1). -/
def reply (p : Publisher) (k : Nat) : Reply :=
  match p.replies with
  | [] => .subscribers 1
  | rs => rs.getD (k - 1) (rs.getLast?.getD (.subscribers 1))

/-- The payload of the k-th encoding at a time, or the failure message. -/
def encode (p : Publisher) (k : Nat) (now : String) : Except String String :=
  if p.encodeFailures.contains k then .error ("encode " ++ toString k ++ " failed")
  else .ok (p.channel ++ "#" ++ toString k ++ "@" ++ now)

end Publisher

end HostDispatch
