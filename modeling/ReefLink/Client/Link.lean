import ReefLink.Protocol.Request
/-!
# The link to a controller

A client sees the controller only through a link: each request sent gets the next reply, a
response or a transport failure, and a clock that moves only when the client waits. A link is
given the replies in advance, in order; once they run out every request fails with a connection
failure.
-/

namespace ReefLink

/-- What a request gets back: a response, or a failure of the transport. -/
abbrev Reply := Except TransportError Response

/-- The failure when the link has no reply left. -/
def Reply.exhausted : Reply := .error (.connectionFailed "no reply scripted")

/-- **A link**: the replies still to come and the time in milliseconds. -/
structure Link where
  replies : List Reply := []
  clock : Nat := 0

namespace Link

/-- **The reply to the next request**, and the link without it. -/
def next (l : Link) : Reply × Link :=
  match l.replies with
  | [] => (Reply.exhausted, l)
  | x :: rest => (x, { l with replies := rest })

/-- Waits for a time. -/
def wait (l : Link) (ms : Nat) : Link := { l with clock := l.clock + ms }

/-- Adds replies after those still to come. -/
def queue (l : Link) (rs : List Reply) : Link := { l with replies := l.replies ++ rs }

end Link

end ReefLink
