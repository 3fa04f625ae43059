import Courier.Hub.Describe
import Courier.Hub.Loopback
import Courier.Main
import Courier.Settings.Document
import Courier.Proofs.Text.Utf16
import Courier.Proofs.Text.Surrogates
import Courier.Proofs.Text.Utf8
import Courier.Proofs.Wire.ModifiedUtf8
import Courier.Proofs.Wire.Groups
import Courier.Proofs.Wire.Scanning
import Courier.Proofs.Wire.Canonical
import Courier.Proofs.Table
import Courier.Proofs.Wire.Reading
import Courier.Proofs.Wire.Values
import Courier.Proofs.Wire.Maps
import Courier.Proofs.Wire.Leftovers
import Courier.Proofs.Wire.Truncation
import Courier.Proofs.Wire.Advancing
import Courier.Proofs.Wire.Reencoding
import Courier.Proofs.Wire.Demands
import Courier.Proofs.Wire.Counts
import Courier.Proofs.Number.Numerals
import Courier.Proofs.Conversion
import Courier.Proofs.Conversion.Integers
import Courier.Proofs.Body.Uses
import Courier.Proofs.Body.Entries
import Courier.Proofs.Conversion.Texts
import Courier.Proofs.Body.Primitives
import Courier.Proofs.Body.Frozen
import Courier.Proofs.Body.Progress
import Courier.Proofs.Body.Chunks
import Courier.Proofs.Wire.Indices
import Courier.Proofs.Message.Copy
import Courier.Proofs.Message.Frozen
import Courier.Proofs.Broker
import Courier.Proofs.Broker.Interning
import Courier.Proofs.Broker.Temporaries
import Courier.Proofs.Hub.Closing
import Courier.Proofs.Hub.Growth
import Courier.Proofs.Hub.Registrations
import Courier.Proofs.Hub.Fanout
import Courier.Proofs.Hub.Sending
import Courier.Proofs.Message.Envelope
import Courier.Proofs.Hub.Serving
import Courier.Proofs.Hub.Silence
import Courier.Proofs.Hub.Mail
import Courier.Proofs.Hub.ClientIds
import Courier.Proofs.Hub.Legality
import Courier.Proofs.Hub.Identity
import Courier.Proofs.Hub.Attempts
import Courier.Proofs.Chat.Joining
import Courier.Proofs.Chat.Transcript
