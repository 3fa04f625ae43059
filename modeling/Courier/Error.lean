import Courier.Destination
import Courier.Message.Kind
import Courier.Url.Parse
import Courier.Value

/-!
# Errors

Every failure is one of the causes below. A cause belongs to a kind, which is what callers branch
on, and has a detail text for people.
-/

namespace Courier

set_option autoImplicit false

/-- A read or write that ran out of data is told apart from one that met broken data. -/
inductive ErrorKind
  | format | endOfMessage | notWritable | notReadable | illegalState | invalidClientId
  | invalidDestination | invalidUrl | unsupportedOperation | invalidArgument
  deriving DecidableEq, Repr

def ErrorKind.heading : ErrorKind → String
  | .format => "message format error"
  | .endOfMessage => "end of message"
  | .notWritable => "message not writeable"
  | .notReadable => "message not readable"
  | .illegalState => "illegal state"
  | .invalidClientId => "invalid client id"
  | .invalidDestination => "invalid destination"
  | .invalidUrl => "invalid url"
  | .unsupportedOperation => "unsupported operation"
  | .invalidArgument => "invalid argument"

/-- A short name of the kind, for programs. -/
def ErrorKind.code : ErrorKind → String
  | .format => "Format"
  | .endOfMessage => "Eof"
  | .notWritable => "NotWritable"
  | .notReadable => "NotReadable"
  | .illegalState => "IllegalState"
  | .invalidClientId => "InvalidClientId"
  | .invalidDestination => "InvalidDestination"
  | .invalidUrl => "InvalidUrl"
  | .unsupportedOperation => "UnsupportedOperation"
  | .invalidArgument => "InvalidArgument"

inductive TransactionStep
  | commit | rollback | recover
  deriving DecidableEq, Repr

def TransactionStep.name : TransactionStep → String
  | .commit => "commit"
  | .rollback => "rollback"
  | .recover => "recover"

inductive Error
  -- wire data
  | shortInput (needed : Nat) (what : String) (left : Nat)
  | charTooWide (c : Char)
  | loneSurrogate (unit : UInt16)
  | stringTooLong (size : Nat)
  | malformedGroup (index : Nat)
  | malformedContinuation (index : Nat)
  | truncatedGroup
  | unpairedSurrogate
  | unknownTag (tag : UInt8)
  | arrayTooLong (size : Nat)
  | negativeArrayLength (length : Int)
  | mapTooLarge (size : Nat)
  | negativeMapSize (size : Int)
  -- conversions
  | unsupportedConversion (target source : ValueType)
  | unreadable (text : String) (target : ValueType)
  | nullChar
  -- headers and properties
  | correlationNotUtf8 (fault : Text.Utf8.Fault)
  | badMessageId (id : String)
  | priorityOutOfRange (priority : Int)
  | illegalDeliveryMode (code : Int)
  | unknownDeliveryMode (name : String)
  | emptyPropertyName
  | propertiesReadOnly (name : String)
  | notPropertyType (type : ValueType)
  -- bodies
  | wrongShape (wanted actual : MessageKind)
  | bodyReadOnly
  | bodyWriteOnly
  | textNotUtf8 (fault : Text.Utf8.Fault)
  | nullInBytes
  | arrayReadInProgress
  | notArrayEntry (type : ValueType)
  | emptyEntryName
  | rangeOutside (offset length size : Nat)
  | lengthExceeds (length size : Nat)
  | objectSerialization
  -- brokers
  | emptyDestinationName
  | notTemporary (d : Destination)
  | noSuchDestination (d : Destination)
  | foreignDestination (d : Destination)
  | hasConsumers (d : Destination) (count : Nat)
  | foreignConsumer (d : Destination)
  | alreadyRegistered (id : String) (d : Destination)
  | notInterned (d : Destination) (broker : String)
  | emptyClientId
  | clientIdInUse (id : String)
  | brokerReplaced (name : String)
  | brokerGone (name : String)
  -- providers
  | noScheme (url : String)
  | noProvider (scheme : String)
  | malformedUrl (url : String) (fault : Url.Fault)
  | noBrokerName (url : Url)
  -- clients
  | connectionClosed
  | sessionClosed
  | sessionAlreadyClosed
  | producerClosed
  | consumerClosed
  | clientIdAlreadySet (id : String)
  | illegalAcknowledgeMode (code : Int)
  | unknownAcknowledgeMode (name : String)
  | transactedModeAlone
  | notTransacted (step : TransactionStep)
  | noTransactions (step : TransactionStep)
  | negativeTimeToLive (ttl : Int)
  | boundProducer (bound given : Destination)
  | unboundProducer
  | boundConsumer (bound : Destination)
  | unboundConsumer
  deriving DecidableEq

namespace Error

def kind : Error → ErrorKind
  | shortInput .. => .endOfMessage
  | charTooWide _ | loneSurrogate _ | stringTooLong _ | malformedGroup _
  | malformedContinuation _ | truncatedGroup | unpairedSurrogate | unknownTag _ | arrayTooLong _
  | negativeArrayLength _ | mapTooLarge _ | negativeMapSize _ | unsupportedConversion ..
  | unreadable .. | nullChar | correlationNotUtf8 _ | notPropertyType _ | textNotUtf8 _
  | nullInBytes | arrayReadInProgress | notArrayEntry _ | objectSerialization => .format
  | propertiesReadOnly _ | bodyReadOnly => .notWritable
  | bodyWriteOnly => .notReadable
  | foreignDestination _ | hasConsumers .. | foreignConsumer _ | alreadyRegistered ..
  | brokerReplaced _ | brokerGone _ | connectionClosed | sessionClosed | sessionAlreadyClosed
  | producerClosed | consumerClosed | clientIdAlreadySet _ | transactedModeAlone
  | notTransacted _ => .illegalState
  | emptyClientId | clientIdInUse _ => .invalidClientId
  | emptyDestinationName | notTemporary _ | noSuchDestination _ | notInterned .. =>
    .invalidDestination
  | noScheme _ | noProvider _ | malformedUrl .. | noBrokerName _ => .invalidUrl
  | wrongShape .. | noTransactions _ | boundProducer .. | unboundProducer | boundConsumer _
  | unboundConsumer => .unsupportedOperation
  | badMessageId _ | priorityOutOfRange _ | illegalDeliveryMode _ | unknownDeliveryMode _
  | emptyPropertyName | emptyEntryName | rangeOutside .. | lengthExceeds ..
  | illegalAcknowledgeMode _ | unknownAcknowledgeMode _ | negativeTimeToLive _ => .invalidArgument

/-- A code in hexadecimal, with at least four digits. -/
def fourDigits (n : Nat) : String :=
  let digits := Nat.toDigits 16 n
  String.ofList (List.replicate (4 - digits.length) '0' ++ digits)

def detail : Error → String
  | shortInput needed what left => s!"need {needed} bytes to read {what}, have {left}"
  | charTooWide c =>
    "char U+" ++ (fourDigits c.toNat).toUpper ++ " does not fit in a single UTF-16 code unit"
  | loneSurrogate unit => "code unit 0x" ++ fourDigits unit.toNat ++ " is a lone surrogate"
  | stringTooLong size => s!"encoded string is {size} bytes, limit is 65535"
  | malformedGroup index => s!"malformed modified UTF-8 at byte {index}"
  | malformedContinuation index => s!"malformed modified UTF-8 continuation at byte {index}"
  | truncatedGroup => "truncated modified UTF-8 sequence"
  | unpairedSurrogate => "modified UTF-8 contains an unpaired surrogate"
  | unknownTag tag => s!"invalid type read: {tag.toNat}"
  | arrayTooLong size => s!"byte array of {size} bytes is too long"
  | negativeArrayLength length => s!"invalid byte array length: {length}"
  | mapTooLarge size => s!"map of {size} entries is too large"
  | negativeMapSize size => s!"invalid map size: {size}"
  | unsupportedConversion target source =>
    "unsupported conversion to " ++ target.name ++ " from type: " ++ source.name
  | unreadable text target => "cannot parse " ++ Text.quote text ++ " as " ++ target.name
  | nullChar => "null value cannot be converted to char"
  | correlationNotUtf8 fault => "correlation id is not UTF-8: " ++ fault.message
  | badMessageId id => "message id " ++ Text.quote id ++ " must start with \"ID:\""
  | priorityOutOfRange priority => s!"priority must be between 0 and 9, got {priority}"
  | illegalDeliveryMode code => s!"illegal delivery mode: {code}"
  | unknownDeliveryMode name => "unknown delivery mode: " ++ name
  | emptyPropertyName => "property name must not be empty"
  | propertiesReadOnly name => "properties are read-only, cannot set " ++ Text.quote name
  | notPropertyType type => type.name ++ " is not a valid property type"
  | wrongShape wanted actual => wanted.name ++ " operation called on a " ++ actual.name
  | bodyReadOnly => "message body is read-only"
  | bodyWriteOnly => "message body is write-only"
  | textNotUtf8 fault => "text body is not UTF-8: " ++ fault.message
  | nullInBytes => "cannot write null to a bytes body"
  | arrayReadInProgress => "a byte array read is in progress, finish it with read_bytes first"
  | notArrayEntry type => "next stream entry is a " ++ type.name ++ ", not a byte array"
  | emptyEntryName => "map entry name must not be empty"
  | rangeOutside offset length size =>
    s!"range {offset}+{length} is outside a buffer of {size} bytes"
  | lengthExceeds length size => s!"length {length} exceeds a buffer of {size} bytes"
  | objectSerialization => "object serialization failed"
  | emptyDestinationName => "destination name must not be empty"
  | notTemporary d => d.text ++ " is not a temporary destination"
  | noSuchDestination d => d.text ++ " does not exist"
  | foreignDestination d => d.text ++ " belongs to another connection"
  | hasConsumers d count => d.text ++ " still has " ++ toString count ++ " consumer(s)"
  | foreignConsumer d => d.text ++ " can only be consumed by the connection that created it"
  | alreadyRegistered id d => "consumer " ++ id ++ " is already registered on " ++ d.text
  | notInterned d broker => d.text ++ " was not created through broker " ++ broker
  | emptyClientId => "client id must not be empty"
  | clientIdInUse id => "client id " ++ Text.quote id ++ " is already in use"
  | brokerReplaced name => "broker " ++ name ++ " was replaced since the connection was opened"
  | brokerGone name => "broker " ++ name ++ " no longer exists"
  | noScheme url => Text.quote url ++ " has no scheme"
  | noProvider scheme => "no provider for scheme " ++ Text.quote scheme
  | malformedUrl url fault => Text.quote url ++ ": " ++ fault.message
  | noBrokerName url => url.text ++ " does not name a broker"
  | connectionClosed => "connection is closed"
  | sessionClosed => "session is closed"
  | sessionAlreadyClosed => "session is already closed"
  | producerClosed => "producer is closed"
  | consumerClosed => "consumer is closed"
  | clientIdAlreadySet id => "client id is already set to " ++ Text.quote id
  | illegalAcknowledgeMode code => s!"illegal acknowledge mode: {code}"
  | unknownAcknowledgeMode name => "unknown acknowledge mode: " ++ name
  | transactedModeAlone => "session_transacted requires a transacted session"
  | notTransacted step => step.name ++ " called on a non-transacted session"
  | noTransactions step => step.name ++ " is not supported"
  | negativeTimeToLive ttl => s!"time to live must not be negative, got {ttl}"
  | boundProducer bound given =>
    "producer is bound to " ++ bound.text ++ ", cannot send to " ++ given.text
  | unboundProducer => "producer has no destination, one must be given on send"
  | boundConsumer bound => "consumer is bound to " ++ bound.text ++ ", use receive_no_wait"
  | unboundConsumer => "consumer has no destination, use receive_no_wait_from"

def message (e : Error) : String := e.kind.heading ++ ": " ++ e.detail

end Error

end Courier
