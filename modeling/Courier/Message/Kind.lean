/-!
# Message kinds

The six shapes of a message body.
-/

namespace Courier

set_option autoImplicit false

/-- A plain message has headers and properties only. -/
inductive MessageKind
  | plain | text | bytes | stream | map | object
  deriving DecidableEq, Repr

def MessageKind.name : MessageKind → String
  | .plain => "message"
  | .text => "text message"
  | .bytes => "bytes message"
  | .stream => "stream message"
  | .map => "map message"
  | .object => "object message"

end Courier
