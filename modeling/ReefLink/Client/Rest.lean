import ReefLink.Client.Call
import ReefLink.Payload.Normalize
/-!
# REST calls

REST calls carry the session token. `restCall` first checks that REST is on and that a password
is set; without a token it signs in first when asked to. When the controller refuses a token it
had before, the client signs in once more and repeats the request; a refusal of a token just
obtained is final.

Signing in (`login`) tries each user name in turn (the configured one, then `admin`). Each try is
sent up to three times while it fails in a transient way (a transport failure or a status of 408,
500, 502, 503 or 504), waiting 250 ms, then 500 ms. A success with a session cookie or a token in
its body ends the search; 401 and 403 go on to the next name; 404 means REST is missing; 429 backs
off; any other status goes on but is reported if no name succeeds.
-/

namespace ReefLink

namespace Call

/-- How many times a sign-in request is sent at most. -/
def loginAttempts : Nat := 3

/-- The wait before the next sign-in attempt grows by this step with each attempt, in ms. -/
def loginRetryStep : Nat := 250

/-- The body of a sign-in request. -/
def loginBody (user password : String) : Json :=
  .ofFields [("login", .str user), ("password", .str password), ("remember_me", .bool false)]

/-- Sends a sign-in request once; a transient status counts as a failure. -/
def loginTry (r : Request) : Call Reply := do
  match ← transmit r with
  | .ok resp =>
    if isTransientStatus resp.status then pure (.error (.unexpectedStatus resp.status))
    else pure (.ok resp)
  | .error e => pure (.error e)

/-- **Sends a sign-in request** as attempt `attempt`, with `left` attempts after it. -/
def loginSend (r : Request) (attempt : Nat) : (left : Nat) → Call Reply
  | 0 => loginTry r
  | left + 1 => do
    match ← loginTry r with
    | .error e =>
      if e.isTransient then
        pause (loginRetryStep * attempt)
        loginSend r (attempt + 1) left
      else pure (.error e)
    | .ok resp => pure (.ok resp)

/-- What one sign-in answer means. -/
inductive LoginAnswer where
  | token (t : String)
  | next
  | failed (e : TransportError)
  | stop (e : Error)

/-- The session token of a successful sign-in answer. -/
def tokenOf (resp : Response) : Option String := resp.sessionCookie <|> tokenOfBody? resp.body

/-- Reads one sign-in answer. -/
def readLoginAnswer (resp : Response) : Call LoginAnswer := do
  if resp.isSuccess then
    match tokenOf resp with
    | some t => pure (.token t)
    | none => pure .next
  else if resp.status = 401 || resp.status = 403 then pure .next
  else if resp.status = 404 then pure (.stop (.notSupported ("POST " ++ Endpoint.restLogin)))
  else if resp.status = 429 then pure (.stop (← backOff resp.retryAfter))
  else pure (.failed (.unexpectedStatus resp.status))

/-- Tries the user names in turn, remembering the last status and the last unexpected one. -/
def loginWith (password : String) :
    List String → Option Nat → Option TransportError → Call String
  | [], lastStatus, lastError => do
    updateSession fun s => { s with token := none }
    match lastError with
    | some e => throw (.transport e)
    | none =>
      throw (.auth (match lastStatus with
        | some s => "REST login rejected (HTTP " ++ toString s ++ ")"
        | none => "REST login rejected"))
  | user :: rest, _, lastError => do
    let r := (Request.make .post Endpoint.restLogin).withJson (loginBody user password)
    let resp ← match ← loginSend r 1 (loginAttempts - 1) with
      | .ok resp => pure resp
      | .error e => throw (.transport e)
    match ← readLoginAnswer resp with
    | .token t =>
      updateSession fun s => { s with token := some t }
      pure t
    | .next => loginWith password rest (some resp.status) lastError
    | .failed e => loginWith password rest (some resp.status) (some e)
    | .stop e => throw e

/-- **Signs in** and keeps the token. -/
def login : Call String := do
  checkAvailable
  let c ← state
  match c.conn.password with
  | none => throw (.device .passwordRequired)
  | some password => loginWith password c.conn.loginCandidates none none

/-- Sends a REST request with a token and reads the status of the answer. -/
def sendRest (r : Request) (token : Option String) : Call Response := do
  let r := { r with session := token }
  let resp ← exchange r
  if resp.isSuccess then pure resp
  else if resp.status = 401 || resp.status = 403 then
    throw (.auth (r.method.name ++ " " ++ r.path ++ " rejected (HTTP " ++ toString resp.status ++ ")"))
  else if resp.status = 404 then throw (.notSupported (r.method.name ++ " " ++ r.path))
  else if resp.status = 429 then throw (← backOff resp.retryAfter)
  else throw (.transport (.unexpectedStatus resp.status))

/-- Sends a REST request with the token chosen for it. A refusal drops the token and, unless the
token is `fresh` (got by this call), signs in again and sends the request once more. -/
def sendRenewing (r : Request) (token : Option String) (fresh : Bool) : Call Response := do
  match ← attempt (sendRest r token) with
  | .ok resp => pure resp
  | .error (.auth reason) =>
    updateSession fun s => { s with token := none }
    if fresh then throw (.auth reason)
    else
      let t ← login
      sendRest r (some t)
  | .error e => throw e

/-- **A REST call**, signing in first without a token when `loginFirst` is set. -/
def restCall (r : Request) (loginFirst : Bool) : Call Response := do
  checkAvailable
  let c ← state
  if !c.conn.hasPassword then throw (.device .passwordRequired)
  let (token, fresh) ← match c.session.token with
    | some t => pure (some t, false)
    | none => if loginFirst then pure (some (← login), true) else pure (none, false)
  sendRenewing r token fresh

/-- **Fetches the configuration** and keeps what a snapshot keeps. -/
def fetchConfig : Call Snapshot := do
  let resp ← restCall (Request.make .get Endpoint.restConfig) true
  let payload ← ofRead (readJsonObject resp.body)
  return Snapshot.ofPayload payload

end Call

end ReefLink
