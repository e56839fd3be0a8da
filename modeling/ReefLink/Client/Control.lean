import ReefLink.Client.Fetch
import ReefLink.Control.OutletMode
import ReefLink.Control.Trident
/-!
# Controls

Controls go over REST as authenticated `PUT`s, signing in first when needed.

- An outlet's mode is put at its output, under its trimmed device id, percent-encoded.
- A feed cycle is started or cancelled at the feed path; when REST fails, the control is sent as
  a form to the status page (`FeedSel` is the cycle's selector, or 5 to cancel). Cancelling
  targets the cycle last seen running, or A.
- Trident controls put the module's extra settings at its configuration path, or, where that
  path is missing, inside a module list at the configuration's module path. They need a detected
  Trident. Setting the waste container size fetches the configuration again.
-/

namespace ReefLink

namespace Call

/-- An authenticated `PUT` of a JSON body. -/
def authenticatedPut (path : String) (body : Json) : Call Unit := do
  let _ ← restCall ((Request.make .put path).withJson body) true

/-- **Fetches the configuration now** and stores it. -/
def refreshConfigNow : Call Snapshot := do
  let snap ← fetchConfig
  let now ← clock
  update fun c => { c with cache := c.cache.store snap now }
  return snap

/-- **Sets an outlet's mode.** -/
def setOutletMode (deviceId : String) (mode : OutletMode) : Call Unit := do
  let did := Text.trim deviceId
  if did.isEmpty then throw (.value .emptyDeviceId)
  authenticatedPut (Endpoint.restOutputs ++ "/" ++ Text.percentEncode did)
    (.ofFields [("did", .str did),
      ("status", .arr [.str mode.word, .str "", .str "OK", .str ""]), ("type", .str "outlet")])

/-- Sends a feed control as a form to the status page. -/
def formFeedControl (selector : Nat) : Call Unit := do
  let c ← state
  let r := { (Request.make .post Endpoint.statusForm).withForm [("FeedSel", toString selector)] with
    basicAuth := c.conn.basicAuth }
  let resp ← exchange r
  if resp.isUnauthorized then
    throw (.auth (Endpoint.statusForm ++ " rejected credentials (HTTP " ++ toString resp.status ++ ")"))
  if !resp.isSuccess then throw (.transport (.unexpectedStatus resp.status))

/-- Starts (`active`) or cancels a feed cycle. -/
def feedControl (cycle : FeedCycle) (active : Bool) : Call Unit := do
  let path := Endpoint.restFeed ++ "/" ++ toString cycle.id
  let body : Json := .ofFields [("name", .num (.int cycle.id)), ("active", .num (.int (if active then 1 else 0)))]
  if let .error _ ← attempt (authenticatedPut path body) then
    formFeedControl (if active then cycle.selector else FeedCycle.cancelSelector)
  update fun c => { c with activeFeed := if active then some cycle else none }

/-- **Starts a feed cycle.** -/
def setFeedCycle (cycle : FeedCycle) : Call Unit := feedControl cycle true

/-- **Cancels the feed cycle** last seen running. -/
def cancelFeed : Call Unit := do
  feedControl ((← state).activeFeed.getD .a) false

/-- Puts extra settings of the Trident. -/
def tridentPutExtra (extra : Json) : Call Unit := do
  let some abaddr := (← state).tridentAbaddr | throw (.device .tridentNotDetected)
  let entry : Json := .ofFields [("abaddr", .num (.int abaddr)), ("extra", extra)]
  match ← attempt (authenticatedPut (Endpoint.restModules ++ "/" ++ toString abaddr) entry) with
  | .error (.notSupported _) => authenticatedPut Endpoint.restModules (.ofFields [("mconf", .arr [entry])])
  | .error e => throw e
  | .ok () => pure ()

/-- Flags that reset the waste container: only the first is set. -/
def resetWasteFlags : List Bool := [true, false, false, false, false]

/-- A list of flags as JSON. -/
def flagsJson (bs : List Bool) : Json := .arr (bs.map Json.bool)

/-- **Sets the waste container size**, then fetches the configuration again. -/
def tridentSetWasteSize (size : WasteSize) : Call Unit := do
  tridentPutExtra (.ofFields [("wasteSize", Json.ofFloat size.ml)])
  let _ ← refreshConfigNow

/-- **Resets the waste container.** -/
def tridentResetWaste : Call Unit := tridentPutExtra (.ofFields [("reset", flagsJson resetWasteFlags)])

/-- **Resets a reagent** after a new container was put in. -/
def tridentResetReagent (slot : ReagentSlot) : Call Unit :=
  tridentPutExtra (.ofFields [("newReagent", flagsJson slot.flags)])

/-- **Primes a channel.** -/
def tridentPrimeChannel (channel : PrimeChannel) : Call Unit :=
  tridentPutExtra (.ofFields [("prime", flagsJson channel.flags)])

end Call

end ReefLink
