import ReefLink.Json.Reader
import ReefLink.Xml.Error
import ReefLink.Control.Invalid
/-!
# Errors

What can go wrong when talking to a controller, by cause: the transport, reading an answer, a
control value, the device itself, authentication, an endpoint the controller lacks, and the
controller asking to back off. Each has a fixed message. An error is transient when trying again
later may succeed, and calls for signing in again when the controller refused the credentials.
-/

namespace ReefLink

/-- HTTP statuses worth retrying: request timeout and the server-side 500, 502, 503 and 504. -/
def isTransientStatus (status : Nat) : Bool := status ∈ [408, 500, 502, 503, 504]

/-- A failure of the transport. -/
inductive TransportError where
  | timeout (ms : Nat)
  | unexpectedStatus (status : Nat)
  | invalidAddress (detail : String)
  | connectionFailed (detail : String)

namespace TransportError

/-- The message. -/
def message : TransportError → String
  | .timeout ms => "request timed out after " ++ toString ms ++ " ms"
  | .unexpectedStatus s => "unexpected HTTP status " ++ toString s
  | .invalidAddress d => "invalid address: " ++ d
  | .connectionFailed d => "connection failed: " ++ d

/-- Whether trying again may help. -/
def isTransient : TransportError → Bool
  | .timeout _ => true
  | .connectionFailed _ => true
  | .unexpectedStatus s => isTransientStatus s
  | .invalidAddress _ => false

/-- The name of the cause. -/
def kind : TransportError → String
  | .timeout _ => "Timeout"
  | .unexpectedStatus _ => "UnexpectedStatus"
  | .invalidAddress _ => "InvalidAddress"
  | .connectionFailed _ => "ConnectionFailed"

end TransportError

/-- An answer that could not be read. -/
inductive ReadFailure where
  | json (e : Json.ReadError)
  | xml (e : Xml.XmlError)
  | unexpectedFormat (detail : String)

namespace ReadFailure

/-- The message. -/
def message : ReadFailure → String
  | .json e => "JSON parse error: " ++ e.message
  | .xml e => "XML parse error: " ++ e.message
  | .unexpectedFormat d => "unexpected response format: " ++ d

/-- The name of the cause. -/
def kind : ReadFailure → String
  | .json _ => "Json"
  | .xml _ => "Xml"
  | .unexpectedFormat _ => "UnexpectedFormat"

end ReadFailure

/-- A fault of the device. -/
inductive DeviceFault where
  | tridentNotDetected
  | passwordRequired

namespace DeviceFault

/-- The message. -/
def message : DeviceFault → String
  | .tridentNotDetected => "Trident module not detected"
  | .passwordRequired => "password is required for REST control"

/-- The name of the cause. -/
def kind : DeviceFault → String
  | .tridentNotDetected => "TridentNotDetected"
  | .passwordRequired => "PasswordRequired"

end DeviceFault

/-- Anything that makes a call to a controller fail. Durations are in milliseconds. -/
inductive Error where
  | auth (detail : String)
  | notSupported (detail : String)
  | rateLimited (retryAfterMs : Option Nat)
  | transportDisabled (retryInMs : Nat)
  | transport (e : TransportError)
  | read (e : ReadFailure)
  | value (e : InvalidValue)
  | device (e : DeviceFault)

namespace Error

/-- The message. Durations are given in whole seconds, cut down. -/
def message : Error → String
  | .auth d => "authentication failed: " ++ d
  | .notSupported d => "endpoint not supported: " ++ d
  | .rateLimited none => "rate limited by controller"
  | .rateLimited (some ms) => "rate limited by controller; retry after ~" ++ toString (ms / 1000) ++ "s"
  | .transportDisabled ms => "REST temporarily disabled (retry in ~" ++ toString (ms / 1000) ++ "s)"
  | .transport e => "transport error: " ++ e.message
  | .read e => "parse error: " ++ e.message
  | .value e => "value error: " ++ e.message
  | .device e => "device error: " ++ e.message

/-- Whether the credentials were refused, so that signing in again may help. -/
def needsReauth : Error → Bool
  | .auth _ => true
  | _ => false

/-- Whether trying again later may help. -/
def isTransient : Error → Bool
  | .rateLimited _ | .transportDisabled _ | .transport _ | .read _ => true
  | _ => false

/-- The cause, as a dotted name. -/
def kind : Error → String
  | .auth _ => "Auth"
  | .notSupported _ => "NotSupported"
  | .rateLimited _ => "RateLimited"
  | .transportDisabled _ => "TransportDisabled"
  | .transport e => "Transport." ++ e.kind
  | .read e => "Parse." ++ e.kind
  | .value e => "Value." ++ e.kind
  | .device e => "Device." ++ e.kind

end Error

end ReefLink
