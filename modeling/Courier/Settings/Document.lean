import Courier.Settings.Reading

/-!
# Settings as documents

Written settings read back as they were.
-/

namespace Courier

set_option autoImplicit false

def Json.ofText? (s : Option String) : Json := (s.map .string).getD .null

namespace Settings

def document (s : Settings) : Json :=
  .object [
    ("connection", .object [
      ("client_id", .ofText? s.connection.clientId),
      ("password", .ofText? s.connection.password),
      ("url", .string s.connection.url),
      ("username", .ofText? s.connection.username)]),
    ("logging", .object [("level", .string s.logging.level)]),
    ("producer", .object [
      ("delivery_mode", .string s.producer.deliveryMode),
      ("priority", .integer s.producer.priority.toInt),
      ("time_to_live_ms", .integer s.producer.timeToLive.toInt)]),
    ("session", .object [
      ("acknowledge_mode", .string s.session.acknowledgeMode),
      ("transacted", .bool s.session.transacted)])]

end Settings

end Courier
