import ReefLink.Client.Control
/-!
# Runs of operations

A client is driven by its public operations: status fetches, configuration refreshes and controls.
Between two of them the clock moves on and more replies of the controller may come. An operation
that fails leaves the client as its failure did, and the next one goes on from there.
-/

namespace ReefLink

/-- **An operation of the client**, or the world moving on between two. -/
inductive Operation where
  | fetchStatus
  | refreshConfigNow
  | authenticatedPut (path : String) (body : Json)
  | setOutletMode (deviceId : String) (mode : OutletMode)
  | setFeedCycle (cycle : FeedCycle)
  | cancelFeed
  | tridentSetWasteSize (size : WasteSize)
  | tridentResetWaste
  | tridentResetReagent (slot : ReagentSlot)
  | tridentPrimeChannel (channel : PrimeChannel)
  /-- The clock moves on. -/
  | advance (ms : Nat)
  /-- More replies of the controller come after those still to come. -/
  | supply (replies : List Reply)

namespace Operation

/-- **Performs an operation**, forgetting what it gives. -/
def perform : Operation → Call Unit
  | fetchStatus => do let _ ← Call.fetchStatus
  | refreshConfigNow => do let _ ← Call.refreshConfigNow
  | authenticatedPut path body => Call.authenticatedPut path body
  | setOutletMode deviceId mode => Call.setOutletMode deviceId mode
  | setFeedCycle cycle => Call.setFeedCycle cycle
  | cancelFeed => Call.cancelFeed
  | tridentSetWasteSize size => Call.tridentSetWasteSize size
  | tridentResetWaste => Call.tridentResetWaste
  | tridentResetReagent slot => Call.tridentResetReagent slot
  | tridentPrimeChannel channel => Call.tridentPrimeChannel channel
  | advance ms => Call.pause ms
  | supply replies => modify fun ex => { ex with link := ex.link.queue replies }

/-- **Performs operations in turn**; one that fails does not stop those after it. -/
def runAll : List Operation → Call Unit
  | [] => pure ()
  | op :: ops => do
    let _ ← Call.attempt op.perform
    runAll ops

end Operation

end ReefLink
