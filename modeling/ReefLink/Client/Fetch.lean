import ReefLink.Client.Rest
/-!
# Fetching the status

`fetchStatus` tries, in order:

1. with a password, the REST status at the session's status path, then, when the configuration
   cache is due, the configuration (a failure there keeps the status);
2. the JSON status page, with basic auth when a password is set; refused credentials end the
   fetch;
3. the XML status page at the configured path.

Every status is completed from the configuration cache, its Trident volumes are derived again,
and the client remembers the Trident's address and the feed cycle that runs.
-/

namespace ReefLink

namespace Call

/-- Fetches the configuration when the cache is due, and lays it over a status. -/
def refreshConfigIfDue (status : Status) : Call Status := do
  let now ← clock
  if !(← state).cache.needsRefresh now false then return status
  match ← attempt fetchConfig with
  | .ok snap =>
    update fun c => { c with cache := c.cache.store snap now }
    return (← state).cache.applyTo status
  | .error _ => return status

/-- **The REST status.** -/
def fetchRestStatus : Call Status := do
  let path := (← state).session.statusPath
  let resp ← restCall (Request.make .get path) false
  let status ← ofRead (readStatus .rest resp.body)
  updateSession fun s => { s with statusPath? := some path }
  let status := (← state).cache.mergeInto status
  refreshConfigIfDue status

/-- **A status page** without a session, at a path, read as the given kind. -/
def fetchPageStatus (source : Source) (path : String) : Call Status := do
  let c ← state
  let r := { Request.make .get path with basicAuth := c.conn.basicAuth }
  let resp ← exchange r
  if resp.isUnauthorized then
    throw (.auth (path ++ " rejected credentials (HTTP " ++ toString resp.status ++ ")"))
  if !resp.isSuccess then throw (.transport (.unexpectedStatus resp.status))
  let status ← ofRead (readStatus source resp.body)
  return (← state).cache.mergeInto status

/-- The feed cycle a status shows running. -/
def runningFeed (s : Status) : Option FeedCycle :=
  match s.feed.bind (·.id) with
  | some id => if 0 ≤ id && id ≤ 255 then (FeedCycle.ofId id.toNat).toOption else none
  | none => none

/-- Derives the Trident's volumes and remembers the Trident and the running feed. -/
def finish (s : Status) : Call Status := do
  let s := { s with trident := s.trident.finalize }
  update fun c => { c with tridentAbaddr := s.tridentAbaddr, activeFeed := runningFeed s }
  return s

/-- **The status pages**: the JSON page, then, unless it refused the credentials, the XML page. -/
def fetchLegacyStatus : Call Status := do
  match ← attempt (fetchPageStatus .cgiJson Endpoint.statusJson) with
  | .ok s => finish s
  | .error (.auth d) => throw (.auth d)
  | .error _ =>
    let s ← fetchPageStatus .xml (← state).conn.statusPath
    finish s

/-- **Fetches the controller's status**, falling back from REST to the JSON and XML pages. -/
def fetchStatus : Call Status := do
  if (← state).conn.hasPassword then
    if let .ok s ← attempt fetchRestStatus then
      return ← finish s
  fetchLegacyStatus

end Call

end ReefLink
