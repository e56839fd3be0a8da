import ReefLink.Client.Link
import ReefLink.Protocol.Connection
import ReefLink.Protocol.Session
import ReefLink.Config.Cache
import ReefLink.Control.FeedCycle
/-!
# Client calls

A client holds its connection settings, its REST session, the configuration cache, the bus
address of the Trident it last saw and the feed cycle it last saw running. A call runs against
a link (`Exchange` holds both) and either gives a value or fails with an `Error`; what it changed
before failing stays changed.

The exchange also keeps every request sent, in order, as a `Departure`: the request, the reply it
got, and the client's state and the time when it left. The client never reads this record; it is
what a run is inspected by afterwards.
-/

namespace ReefLink

/-- **A client's state.** -/
structure Client where
  conn : Connection
  session : Session := {}
  cache : ConfigCache := {}
  tridentAbaddr : Option Int := none
  activeFeed : Option FeedCycle := none

/-- **A request as it left**: the client's state and the time at that moment, the request, and
the reply it got. -/
structure Departure where
  client : Client
  clock : Nat
  request : Request
  reply : Reply

/-- A client, the link it talks over, and every request sent so far. -/
structure Exchange where
  client : Client
  link : Link
  sent : List Departure := []

/-- **A call**: it may fail with an error, and changes the client and the link. -/
abbrev Call := ExceptT Error (StateM Exchange)

namespace Call

/-- The client's state. -/
def state : Call Client := return (← get).client

/-- Changes the client's state. -/
def update (f : Client → Client) : Call Unit :=
  modify fun ex => { ex with client := f ex.client }

/-- Changes the session. -/
def updateSession (f : Session → Session) : Call Unit :=
  update fun c => { c with session := f c.session }

/-- The time now. -/
def clock : Call Nat := return (← get).link.clock

/-- Waits for a time. -/
def pause (ms : Nat) : Call Unit := modify fun ex => { ex with link := ex.link.wait ms }

/-- **Sends a request** and gives its reply, failure or not. -/
def transmit (r : Request) : Call Reply :=
  modifyGet fun ex =>
    let (reply, link) := ex.link.next
    (reply, { ex with link, sent := ex.sent ++ [⟨ex.client, ex.link.clock, r, reply⟩] })

/-- Sends a request; a transport failure fails the call. -/
def exchange (r : Request) : Call Response := do
  match ← transmit r with
  | .ok resp => pure resp
  | .error e => throw (.transport e)

/-- Runs a call and gives its outcome, keeping what it changed. -/
def attempt {α : Type} (c : Call α) : Call (Except Error α) :=
  tryCatch (Except.ok <$> c) (fun e => pure (.error e))

/-- Fails with a reading error. -/
def ofRead {α : Type} (r : Except ReadFailure α) : Call α :=
  match r with
  | .ok a => pure a
  | .error e => throw (.read e)

/-- Fails while REST is switched off. -/
def checkAvailable : Call Unit := do
  match (← state).session.checkAvailable (← clock) with
  | .ok () => pure ()
  | .error e => throw e

/-- Switches REST off after the controller limited the rate, and gives the error to report. -/
def backOff (retryAfter : Option String) : Call Error := do
  let now ← clock
  let (session, e) := (← state).session.rateLimited now retryAfter
  update fun c => { c with session }
  return e

end Call

end ReefLink
