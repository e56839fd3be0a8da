import ReefLink.Protocol.Request
import ReefLink.Json.Reader
/-!
# The REST session

A session holds the sign-in token, the status path that worked, and a time until which REST is
switched off because the controller asked to back off. Times are milliseconds given by the
caller.

- `retryIn` is the time left until REST is on again, when there is some.
- `disableFor` only ever moves the deadline later.
- `rateLimited` switches REST off for the `Retry-After` delay, or five minutes without one.
- A `Retry-After` value is trimmed and read as whole seconds; a negative integer means now.
- Instants are whole seconds in a signed 64-bit word, so a deadline at or past 2^63 seconds
  cannot exist: `pastClockEnd` says a session was asked for one, which ends the client.
-/

namespace ReefLink

/-- The name of the session cookie. -/
def sessionCookie : String := "connect.sid"

/-- How long REST stays off when the controller gives no delay: five minutes. -/
def defaultBackoff : Nat := 300000

/-- The digits of an unsigned decimal, with an optional `+`. -/
def unsignedDigits? (cs : List Char) : Option Nat :=
  let ds := match cs with
    | '+' :: rest => rest
    | _ => cs
  if !ds.isEmpty && ds.all Char.isDigit then
    some (ds.foldl (fun a c => a * 10 + (c.toNat - 48)) 0)
  else none

/-- **A `Retry-After` delay** in milliseconds: whole seconds up to 2^64 - 1, or zero for a
negative integer down to -2^63. -/
def retryAfterMs? (value : String) : Option Nat :=
  let cs := (Text.trim value).toList
  match unsignedDigits? cs with
  | some n => if n < Nat.pow 2 64 then some (n * 1000) else none
  | none =>
    match cs with
    | '-' :: rest =>
      match unsignedDigits? rest with
      | some n => if rest.head? ≠ some '+' && 0 < n && n ≤ Nat.pow 2 63 then some 0 else none
      | none => none
    | _ => none

/-- **The session token in a sign-in answer**: the non-empty string `connect.sid` of a JSON
object. -/
def tokenOfBody? (body : String) : Option String :=
  match Json.read body with
  | .ok v =>
    match v.get? sessionCookie with
    | some (.str s) => if s.isEmpty then none else some s
    | _ => none
  | .error _ => none

/-- The first instant the monotonic clock cannot hold, in milliseconds: its seconds are a signed
64-bit word. -/
def instantLimitMs : Nat := Nat.pow 2 63 * 1000

/-- **A REST session.** -/
structure Session where
  token : Option String := none
  disabledUntil : Option Nat := none
  statusPath? : Option String := none

namespace Session

/-- Whether a token is held. -/
def isAuthenticated (s : Session) : Bool := s.token.isSome

/-- The status path to use. -/
def statusPath (s : Session) : String := s.statusPath?.getD Endpoint.restStatus

/-- **The time left** until REST is on again. -/
def retryIn (s : Session) (now : Nat) : Option Nat :=
  match s.disabledUntil with
  | some deadline => if deadline > now then some (deadline - now) else none
  | none => none

/-- Whether the session was switched off until an instant the clock cannot hold. Computing such
a deadline aborts the client, so nothing after it is observable. -/
def pastClockEnd (s : Session) : Bool :=
  match s.disabledUntil with
  | some deadline => deadline ≥ instantLimitMs
  | none => false

/-- Whether REST is off at a time. -/
def isDisabled (s : Session) (now : Nat) : Bool := (s.retryIn now).isSome

/-- Fails while REST is off. -/
def checkAvailable (s : Session) (now : Nat) : Except Error Unit :=
  match s.retryIn now with
  | some ms => .error (.transportDisabled ms)
  | none => .ok ()

/-- **Switches REST off** for a time, never shortening a longer pause. -/
def disableFor (s : Session) (now duration : Nat) : Session :=
  let deadline := now + duration
  match s.disabledUntil with
  | some current => if deadline > current then { s with disabledUntil := some deadline } else s
  | none => { s with disabledUntil := some deadline }

/-- **Backs off after the controller limited the rate**, and gives the error to report. -/
def rateLimited (s : Session) (now : Nat) (retryAfter : Option String) : Session × Error :=
  let delay := retryAfter.bind retryAfterMs?
  (s.disableFor now (delay.getD defaultBackoff), .rateLimited delay)

end Session

end ReefLink
