import ReefLink.Json.Value
import ReefLink.Json.Reader
import ReefLink.Json.Writer
import ReefLink.Decimal.Nearest
import ReefLink.Decimal.Shortest
import ReefLink.Decimal.Notation
import ReefLink.Text.RangeSet
import ReefLink.Text.Blank
import ReefLink.Text.Letter
import ReefLink.Text.WordChar
import ReefLink.Text.Case
import ReefLink.Payload.Coerce
import ReefLink.Payload.Lookup
import ReefLink.Payload.Module
import ReefLink.Control.Invalid
import ReefLink.Control.OutletMode
import ReefLink.Control.FeedCycle
import ReefLink.Control.Trident
import ReefLink.Status.Trident
import ReefLink.Config.Entry
import ReefLink.Status.Record
import ReefLink.Payload.Statement
import ReefLink.Payload.Entry
import ReefLink.Payload.TridentModule
import ReefLink.Payload.Rest
import ReefLink.Payload.Legacy
import ReefLink.Xml.Error
import ReefLink.Xml.Reader
import ReefLink.Payload.Markup
import ReefLink.Error
import ReefLink.Payload.Normalize
import ReefLink.Status.ReportTime
import ReefLink.Status.Encode
import ReefLink.Text.Lines
import ReefLink.Config.DeviceLine
import ReefLink.Config.Snapshot
import ReefLink.Config.Candidate
import ReefLink.Config.Cache
import ReefLink.Text.Percent
import ReefLink.Text.Quoted
import ReefLink.Protocol.Request
import ReefLink.Protocol.Session
import ReefLink.Protocol.Connection
import ReefLink.Client.Link
import ReefLink.Client.Call
import ReefLink.Client.Rest
import ReefLink.Client.Fetch
import ReefLink.Client.Control
import ReefLink.Client.Operation
import ReefLink.Proofs.Outcome
import ReefLink.Proofs.SignIn
import ReefLink.Proofs.Renewal
import ReefLink.Proofs.Fallback
import ReefLink.Proofs.Run
import ReefLink.Proofs.Sanitize
import ReefLink.Proofs.Container
import ReefLink.Proofs.Atomic
import ReefLink.Proofs.XmlRoundTrip
import ReefLink.Proofs.Endpoints
import ReefLink.Proofs.Backoff
import ReefLink.Proofs.Trident
import ReefLink.Proofs.Deadline
import ReefLink.Proofs.SignInEnds
import ReefLink.Proofs.CallFailure
import ReefLink.Proofs.TridentWrite
import ReefLink.Proofs.FloatOrder
import ReefLink.Proofs.Finalize
import ReefLink.Proofs.DeviceLine
import ReefLink.Proofs.MxmModules
import ReefLink.Proofs.DeviceIds
import ReefLink.Proofs.Supplied
import ReefLink.Proofs.Candidates
import ReefLink.Proofs.Consumables
import ReefLink.Proofs.CacheHistory
import ReefLink.Proofs.CacheKept
import ReefLink.Proofs.Polls
import ReefLink.Proofs.Digits
import ReefLink.Proofs.RetryAfter
import ReefLink.Proofs.DoubleBits
import ReefLink.Proofs.WholeDoubles
import ReefLink.Proofs.Readings
