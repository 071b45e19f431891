import AlertLine.Action
import AlertLine.Bus.Host
import AlertLine.Bus.Publication
import AlertLine.Bus.Worker
import AlertLine.Delivery
import AlertLine.Encoding.Base64
import AlertLine.Encoding.Form
import AlertLine.Encoding.Percent
import AlertLine.Json.Basic
import AlertLine.Json.Decode
import AlertLine.Json.Parser
import AlertLine.Json.Printer
import AlertLine.Json.Token
import AlertLine.Main
import AlertLine.Metrics
import AlertLine.Notification
import AlertLine.Outbound
import AlertLine.Proofs.Attempt
import AlertLine.Proofs.Bus.Accounting
import AlertLine.Proofs.Bus.Carried
import AlertLine.Proofs.Bus.Documents
import AlertLine.Proofs.Bus.Lookup
import AlertLine.Proofs.Bus.RoundTrip
import AlertLine.Proofs.Bus.Routing
import AlertLine.Proofs.Bus.Secrecy
import AlertLine.Proofs.Delivery
import AlertLine.Proofs.Encoding.Base64
import AlertLine.Proofs.Encoding.Form
import AlertLine.Proofs.Encoding.Percent
import AlertLine.Proofs.Json.Fields
import AlertLine.Proofs.Json.Length
import AlertLine.Proofs.Json.Printed
import AlertLine.Proofs.Json.Records
import AlertLine.Proofs.Json.Room
import AlertLine.Proofs.Json.Tokens
import AlertLine.Proofs.Provider.Addresses
import AlertLine.Proofs.Provider.Dispatch
import AlertLine.Proofs.Provider.Identifiers
import AlertLine.Proofs.Provider.Operations
import AlertLine.Proofs.Provider.Outcomes
import AlertLine.Proofs.Provider.Pretended
import AlertLine.Proofs.Provider.Refusals
import AlertLine.Proofs.Provider.Secrecy
import AlertLine.Proofs.Provider.Sends
import AlertLine.Proofs.Provider.Spellings
import AlertLine.Proofs.Provider.Texts
import AlertLine.Proofs.Reply.Grammar
import AlertLine.Proofs.Reply.OwnTexts
import AlertLine.Proofs.Reply.Splitting
import AlertLine.Proofs.Settings.Accepted
import AlertLine.Proofs.Subject
import AlertLine.Proofs.Text.Blank
import AlertLine.Proofs.Text.Decimal
import AlertLine.Proofs.Text.LetterCase
import AlertLine.Proofs.Text.Utf8
import AlertLine.Proofs.Text.Words
import AlertLine.Proofs.Url.Beneath
import AlertLine.Proofs.Url.HostMarks
import AlertLine.Proofs.Url.Marks
import AlertLine.Proofs.Url.Query
import AlertLine.Proofs.Url.Segments
import AlertLine.Proofs.Url.Targets
import AlertLine.Proofs.Voice.Callback
import AlertLine.Proofs.Voice.Characters
import AlertLine.Proofs.Voice.Context
import AlertLine.Proofs.Voice.Documents
import AlertLine.Proofs.Voice.Keypad
import AlertLine.Proofs.Voice.Override
import AlertLine.Proofs.Voice.ReadBack
import AlertLine.Proofs.Voice.Reader
import AlertLine.Proofs.Voice.Spoken
import AlertLine.Proofs.Webhook.Alike
import AlertLine.Proofs.Webhook.Calls
import AlertLine.Proofs.Webhook.Counts
import AlertLine.Proofs.Webhook.Echo
import AlertLine.Proofs.Webhook.Forms
import AlertLine.Proofs.Webhook.Gate
import AlertLine.Proofs.Webhook.Ledger
import AlertLine.Proofs.Webhook.Memory
import AlertLine.Proofs.Webhook.Messages
import AlertLine.Proofs.Webhook.Payload
import AlertLine.Proofs.Webhook.Reference
import AlertLine.Proofs.Webhook.Speech
import AlertLine.Proofs.Webhook.Spellings
import AlertLine.Proofs.Webhook.Tally
import AlertLine.Proofs.Webhook.Verdict
import AlertLine.Proofs.Webhook.Writes
import AlertLine.Provider.Error
import AlertLine.Provider.Exchange
import AlertLine.Provider.Message
import AlertLine.Provider.Sender
import AlertLine.Reply
import AlertLine.Service
import AlertLine.Settings.Basic
import AlertLine.Settings.Environment
import AlertLine.Settings.File
import AlertLine.Signature.Ed25519
import AlertLine.Signature.Edwards
import AlertLine.Signature.Sha512
import AlertLine.Signature.Verifier
import AlertLine.Subject
import AlertLine.Telemetry
import AlertLine.Text.Blank
import AlertLine.Text.Cased
import AlertLine.Text.Composition
import AlertLine.Text.Decimal
import AlertLine.Text.Direction
import AlertLine.Text.Joining
import AlertLine.Text.LetterCase
import AlertLine.Text.Marks
import AlertLine.Text.Printable
import AlertLine.Text.Quoted
import AlertLine.Text.Ranges
import AlertLine.Text.Utf8
import AlertLine.Url.Basic
import AlertLine.Url.DomainName
import AlertLine.Url.Host
import AlertLine.Url.Parser
import AlertLine.Url.Punycode
import AlertLine.Url.Replacement
import AlertLine.Url.Target
import AlertLine.Voice.Context
import AlertLine.Voice.Markup
import AlertLine.Voice.Menu
import AlertLine.Webhook.Host
import AlertLine.Webhook.Messages
import AlertLine.Webhook.Response
import AlertLine.Webhook.Router
import AlertLine.Webhook.Voice
import AlertLine.Yaml.Basic
import AlertLine.Yaml.Lexer
import AlertLine.Yaml.Node
import AlertLine.Yaml.Number
import AlertLine.Yaml.Parser
import AlertLine.Yaml.Scalar
import AlertLine.Yaml.Tag
import AlertLine.Yaml.Value
