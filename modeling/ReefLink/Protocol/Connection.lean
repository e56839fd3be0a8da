import ReefLink.Protocol.Request
import ReefLink.Text.Quoted
/-!
# Connection settings

How to reach a controller: its host, optional credentials, the path of its XML status, and a
timeout in milliseconds.

- The base address is the trimmed host with `http://` put in front unless it starts with
  `http://` or `https://`, and without slashes at the end; a host that leaves nothing is invalid.
- The user name is trimmed and counts only when not empty; the password counts only when not
  empty, and is not trimmed.
- Basic auth needs a password and defaults the user to `admin`; signing in tries the user name,
  then `admin`.
-/

namespace ReefLink

/-- The user name when none is given. -/
def defaultUser : String := "admin"

/-- The default timeout: ten seconds. -/
def defaultTimeoutMs : Nat := 10000

/-- **How to reach a controller.** -/
structure Connection where
  host : String
  user? : Option String := none
  password? : Option String := none
  statusPath : String := Endpoint.statusXml
  timeoutMs : Nat := defaultTimeoutMs

namespace Connection

/-- Sets the user name and the password. -/
def withCredentials (c : Connection) (user password : String) : Connection :=
  { c with user? := some user, password? := some password }

/-- Sets the password. -/
def withPassword (c : Connection) (password : String) : Connection :=
  { c with password? := some password }

/-- Sets the status path; a blank path keeps the default. -/
def withStatusPath (c : Connection) (path : String) : Connection :=
  let p := Text.trim path
  { c with statusPath := if p.isEmpty then Endpoint.statusXml else normalizePath p }

/-- The user name, when one counts. -/
def user (c : Connection) : Option String := (c.user?.map Text.trim).filter (!·.isEmpty)

/-- The password, when one counts. -/
def password (c : Connection) : Option String := c.password?.filter (!·.isEmpty)

/-- Whether a password counts. -/
def hasPassword (c : Connection) : Bool := c.password.isSome

/-- The text after a prefix, if the text starts with it. -/
def afterPrefix (s pre : String) : Option String :=
  if pre.toList.isPrefixOf s.toList then some (String.ofList (s.toList.drop pre.length)) else none

/-- **The base address** of the controller. -/
def baseUrl (c : Connection) : Except TransportError String :=
  let host := Text.trim c.host
  let (scheme, rest) := match afterPrefix host "https://" with
    | some r => ("https", r)
    | none => match afterPrefix host "http://" with
      | some r => ("http", r)
      | none => ("http", host)
  let rest := String.ofList (rest.toList.reverse.dropWhile (· = '/')).reverse
  if rest.isEmpty then .error (.invalidAddress ("no host in " ++ Text.quoted c.host))
  else .ok (scheme ++ "://" ++ rest)

/-- The basic-auth credentials, when a password counts. -/
def basicAuth (c : Connection) : Option (String × String) :=
  c.password.map fun p => (c.user.getD defaultUser, p)

/-- **The user names to sign in with**, in order. -/
def loginCandidates (c : Connection) : List String :=
  match c.user with
  | some u => if u = defaultUser then [u] else [u, defaultUser]
  | none => [defaultUser]

end Connection

end ReefLink
