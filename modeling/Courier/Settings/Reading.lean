import Courier.Conversion
import Courier.Json.Forms
import Courier.Settings.Basic

/-!
# Reading settings

Settings are read from documents of any kind through a `Shape`, which says how the kind of
document gives out texts, flags, numbers and records. An optional field that is missing or null
counts as left out; members with unknown names are passed over.
-/

namespace Courier

set_option autoImplicit false

/-- How a kind of document is read. `fields` gives the members of a record whose fields have the
given names; a list may stand for a record by position. -/
structure Shape (τ : Type) where
  isNull : τ → Bool
  text : τ → Option String
  flag : τ → Option Bool
  integer : Int → Int → τ → Option Int
  fields : List String → τ → Option (List (String × τ))

namespace Shape

variable {τ : Type} (sh : Shape τ)

/-- An optional field: `none` when its value has the wrong form. -/
def optional {α : Type} (read : τ → Option α) (fields : List (String × τ)) (name : String) :
    Option (Option α) :=
  match fields.find? (·.1 = name) with
  | none => some none
  | some (_, v) => if sh.isNull v then some none else (read v).map some

def required {α : Type} (read : τ → Option α) (fields : List (String × τ)) (name : String) :
    Option α :=
  (fields.find? (·.1 = name)).bind fun m => read m.2

def int (v : τ) : Option Int32 := (sh.integer (-2147483648) 2147483647 v).map Int32.ofInt

def long (v : τ) : Option Int64 :=
  (sh.integer (-9223372036854775808) 9223372036854775807 v).map Int64.ofInt

def connectionFields : List String := ["url", "client_id", "username", "password"]

def sessionFields : List String := ["transacted", "acknowledge_mode"]

def producerFields : List String := ["delivery_mode", "priority", "time_to_live_ms"]

def loggingFields : List String := ["level"]

def sections : List String := ["connection", "session", "producer", "logging"]

def partialConnection (v : τ) : Option PartialConnection := do
  let fs ← sh.fields connectionFields v
  return {
    url := ← sh.optional sh.text fs "url"
    clientId := ← sh.optional sh.text fs "client_id"
    username := ← sh.optional sh.text fs "username"
    password := ← sh.optional sh.text fs "password" }

def partialSession (v : τ) : Option PartialSession := do
  let fs ← sh.fields sessionFields v
  return {
    transacted := ← sh.optional sh.flag fs "transacted"
    acknowledgeMode := ← sh.optional sh.text fs "acknowledge_mode" }

def partialProducer (v : τ) : Option PartialProducer := do
  let fs ← sh.fields producerFields v
  return {
    deliveryMode := ← sh.optional sh.text fs "delivery_mode"
    priority := ← sh.optional sh.int fs "priority"
    timeToLive := ← sh.optional sh.long fs "time_to_live_ms" }

def partialLogging (v : τ) : Option PartialLogging := do
  let fs ← sh.fields loggingFields v
  return { level := ← sh.optional sh.text fs "level" }

def partialSettings (v : τ) : Option PartialSettings := do
  let fs ← sh.fields sections v
  return {
    connection := ← sh.optional sh.partialConnection fs "connection"
    session := ← sh.optional sh.partialSession fs "session"
    producer := ← sh.optional sh.partialProducer fs "producer"
    logging := ← sh.optional sh.partialLogging fs "logging" }

def connection (v : τ) : Option ConnectionSettings := do
  let fs ← sh.fields connectionFields v
  return {
    url := ← required sh.text fs "url"
    clientId := ← sh.optional sh.text fs "client_id"
    username := ← sh.optional sh.text fs "username"
    password := ← sh.optional sh.text fs "password" }

def session (v : τ) : Option SessionSettings := do
  let fs ← sh.fields sessionFields v
  return {
    transacted := ← required sh.flag fs "transacted"
    acknowledgeMode := ← required sh.text fs "acknowledge_mode" }

def producer (v : τ) : Option ProducerSettings := do
  let fs ← sh.fields producerFields v
  return {
    deliveryMode := ← required sh.text fs "delivery_mode"
    priority := ← required sh.int fs "priority"
    timeToLive := ← required sh.long fs "time_to_live_ms" }

def logging (v : τ) : Option LoggingSettings := do
  let fs ← sh.fields loggingFields v
  return { level := ← required sh.text fs "level" }

/-- Complete settings. -/
def settings (v : τ) : Option Settings := do
  let fs ← sh.fields sections v
  return {
    connection := ← required sh.connection fs "connection"
    session := ← required sh.session fs "session"
    producer := ← required sh.producer fs "producer"
    logging := ← required sh.logging fs "logging" }

end Shape

/-- JSON is read as it stands, without conversions. -/
def Json.shape : Shape Json where
  isNull v := match v with
    | .null => true
    | _ => false
  text := Json.asString
  flag := Json.asBool
  integer := Json.asInteger
  fields names v := match v with
    | .object members => some members
    | .array items => if items.length = names.length then some (names.zip items) else none
    | _ => none

end Courier
