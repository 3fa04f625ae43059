/-!
# Settings

What a program is configured with, its defaults, and how a partial configuration overrides it.
-/

namespace Courier

set_option autoImplicit false

structure ConnectionSettings where
  url : String
  clientId : Option String
  username : Option String
  password : Option String
  deriving DecidableEq

structure SessionSettings where
  transacted : Bool
  acknowledgeMode : String
  deriving DecidableEq

structure ProducerSettings where
  deliveryMode : String
  priority : Int32
  timeToLive : Int64
  deriving DecidableEq

structure LoggingSettings where
  level : String
  deriving DecidableEq

structure Settings where
  connection : ConnectionSettings
  session : SessionSettings
  producer : ProducerSettings
  logging : LoggingSettings
  deriving DecidableEq

/-- A connection section in which anything may be left out. -/
structure PartialConnection where
  url : Option String := none
  clientId : Option String := none
  username : Option String := none
  password : Option String := none

structure PartialSession where
  transacted : Option Bool := none
  acknowledgeMode : Option String := none

structure PartialProducer where
  deliveryMode : Option String := none
  priority : Option Int32 := none
  timeToLive : Option Int64 := none

structure PartialLogging where
  level : Option String := none

structure PartialSettings where
  connection : Option PartialConnection := none
  session : Option PartialSession := none
  producer : Option PartialProducer := none
  logging : Option PartialLogging := none

namespace Settings

def default : Settings where
  connection := ⟨"vm://default", none, none, none⟩
  session := ⟨false, "auto_acknowledge"⟩
  producer := ⟨"persistent", 4, 0⟩
  logging := ⟨"info"⟩

/-- Whatever `p` leaves out is kept. -/
def merge (s : Settings) (p : PartialSettings) : Settings :=
  let connection := p.connection.getD {}
  let session := p.session.getD {}
  let producer := p.producer.getD {}
  let logging := p.logging.getD {}
  { connection :=
      { url := connection.url.getD s.connection.url
        clientId := connection.clientId <|> s.connection.clientId
        username := connection.username <|> s.connection.username
        password := connection.password <|> s.connection.password }
    session :=
      { transacted := session.transacted.getD s.session.transacted
        acknowledgeMode := session.acknowledgeMode.getD s.session.acknowledgeMode }
    producer :=
      { deliveryMode := producer.deliveryMode.getD s.producer.deliveryMode
        priority := producer.priority.getD s.producer.priority
        timeToLive := producer.timeToLive.getD s.producer.timeToLive }
    logging := { level := logging.level.getD s.logging.level } }

end Settings

end Courier
