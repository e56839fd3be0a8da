import ReefLink.Json.Value
import ReefLink.Text.Percent
import ReefLink.Error
import ReefLink.Text.Blank
/-!
# Requests and responses

A request to a controller is a method, a path, optional basic-auth credentials, an optional
session token and a body: empty, JSON, or form fields. Paths are trimmed and always start with a
slash. A response is a status, an optional `Retry-After` value, an optional session cookie and
the body text; it succeeds for a status from 200 to 299 and is refused for 401 and 403.
-/

namespace ReefLink

namespace Endpoint

/-- Sign-in. -/
def restLogin : String := "/rest/login"
/-- The full status. -/
def restStatus : String := "/rest/status"
/-- The configuration. -/
def restConfig : String := "/rest/config"
/-- The module configuration. -/
def restModules : String := "/rest/config/mconf"
/-- The outputs. -/
def restOutputs : String := "/rest/status/outputs"
/-- The feed cycles. -/
def restFeed : String := "/rest/status/feed"
/-- The status as JSON, without a session. -/
def statusJson : String := "/cgi-bin/status.json"
/-- The status as XML, without a session. -/
def statusXml : String := "/cgi-bin/status.xml"
/-- Controls sent as a form. -/
def statusForm : String := "/cgi-bin/status.cgi"

end Endpoint

/-- A path as sent: trimmed, with a leading slash. -/
def normalizePath (path : String) : String :=
  let p := Text.trim path
  if p.startsWith "/" then p else "/" ++ p

/-- An HTTP method. -/
inductive Method where
  | get
  | post
  | put
  deriving DecidableEq, Repr

/-- The name of a method. -/
def Method.name : Method → String
  | .get => "GET"
  | .post => "POST"
  | .put => "PUT"

/-- The body of a request. -/
inductive Body where
  | empty
  | json (value : Json)
  | form (fields : List (String × String))

/-- **A request.** -/
structure Request where
  method : Method
  path : String
  basicAuth : Option (String × String) := none
  session : Option String := none
  body : Body := .empty

namespace Request

/-- A request with no body, to a path that gets its leading slash. -/
def make (method : Method) (path : String) : Request := { method, path := normalizePath path }

/-- A request with a JSON body. -/
def withJson (r : Request) (v : Json) : Request := { r with body := .json v }

/-- A request with form fields. -/
def withForm (r : Request) (fields : List (String × String)) : Request := { r with body := .form fields }

/-- **The text of a form body**: fields as `key=value`, both percent-encoded, joined by `&`. -/
def formText (fields : List (String × String)) : String :=
  "&".intercalate (fields.map fun (k, v) => Text.percentEncode k ++ "=" ++ Text.percentEncode v)

/-- The form text of a request, when its body is a form. -/
def formBody? (r : Request) : Option String :=
  match r.body with
  | .form fields => some (formText fields)
  | _ => none

end Request

/-- **A response.** -/
structure Response where
  status : Nat
  retryAfter : Option String := none
  sessionCookie : Option String := none
  body : String := ""

namespace Response

/-- Whether the status is a success, 200 to 299. -/
def isSuccess (r : Response) : Bool := 200 ≤ r.status && r.status < 300

/-- Whether the controller refused the credentials: 401 or 403. -/
def isUnauthorized (r : Response) : Bool := r.status = 401 || r.status = 403

end Response

end ReefLink
