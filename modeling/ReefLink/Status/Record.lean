import ReefLink.Json.Value
import ReefLink.Status.Trident
import ReefLink.Config.Entry
import ReefLink.Control.OutletMode
/-!
# The controller status record

Whatever the endpoint that answered, a status is read into one `Status` record: facts about the
controller (`ControllerInfo`), its network (`Network`), probe readings by device id, outlets in payload
order, the feed, the last alert, the Trident, and the configuration and MXM devices once they
are merged in. The JSON payload that was read is kept as `raw`.
-/

namespace ReefLink

/-- The endpoint a status was read from. -/
inductive Source where
  | rest
  | cgiJson
  | xml
  deriving DecidableEq, Repr, Inhabited

/-- The name of an endpoint kind. -/
def Source.name : Source → String
  | .rest => "rest"
  | .cgiJson => "cgi_json"
  | .xml => "xml"

/-- Facts about the controller. -/
structure ControllerInfo where
  software : Option String := none
  hardware : Option String := none
  hostname : Option String := none
  serial : Option String := none
  timezone : Option String := none
  date : Option String := none
  deviceType : Option String := none
  firmwareLatest : Option String := none
  source : Source
  deriving Inhabited

/-- The controller's network. -/
structure Network where
  ipaddr : Option String := none
  gateway : Option String := none
  netmask : Option String := none
  dhcp : Option Bool := none
  wifiEnable : Option Bool := none
  ssid : Option String := none
  strength : Option Int := none
  quality : Option Int := none
  deriving Inhabited

/-- A probe reading. -/
structure Probe where
  name : String
  kind : Option String := none
  valueRaw : Option String := none
  value : Option Float := none
  moduleAbaddr : Option Int := none
  moduleHwType : Option String := none
  deriving Inhabited

/-- An outlet and its state. -/
structure Outlet where
  deviceId : String
  name : String
  outputId : Option String := none
  state : Option String := none
  kind : Option String := none
  gid : Option String := none
  intensity : Option Nat := none
  moduleAbaddr : Option Int := none
  moduleHwType : Option String := none
  status : Option (List Json) := none
  deriving Inhabited

/-- The mode of an outlet, from its state token. -/
def Outlet.mode (o : Outlet) : Option OutletMode := o.state.map OutletMode.ofState

/-- Whether an outlet is energized, from its state token. -/
def Outlet.energized (o : Outlet) : Option Bool := o.state.map OutletMode.isEnergizedState

/-- The feed cycle that runs, if any. -/
structure Feed where
  id : Option Int := none
  active : Option Bool := none
  deriving Inhabited, BEq

/-- The last alert: the statement that fired and the message. -/
structure Alerts where
  lastStatement : Option String := none
  lastMessage : Option String := none
  deriving Inhabited

/-- Configuration merged into a status. -/
structure ConfigSection where
  mconf : Option (List ModuleConfig) := none
  nconf : Option NetworkConfig := none
  deriving Inhabited

/-- A map keyed by text, sorted by key, one entry per key. -/
abbrev KeyedList (α : Type) := List (String × α)

/-- Puts an entry into a keyed list, replacing an entry of the same key. -/
def KeyedList.insert {α : Type} (k : String) (v : α) : KeyedList α → KeyedList α
  | [] => [(k, v)]
  | (k', v') :: rest =>
    if k < k' then (k, v) :: (k', v') :: rest
    else if k = k' then (k, v) :: rest
    else (k', v') :: KeyedList.insert k v rest

/-- A keyed list from entries in order; a later entry of a key wins. -/
def KeyedList.ofList {α : Type} (es : List (String × α)) : KeyedList α :=
  es.foldl (fun acc e => KeyedList.insert e.1 e.2 acc) []

/-- **A controller status.** -/
structure Status where
  info : ControllerInfo
  network : Network := {}
  probes : KeyedList Probe := []
  outlets : List Outlet := []
  feed : Option Feed := none
  alerts : Alerts := {}
  trident : Trident := {}
  config : ConfigSection := {}
  mxmDevices : Option (KeyedList MxmDevice) := none
  raw : Option Json := none
  deriving Inhabited

namespace Status

/-- An empty status read from an endpoint kind. -/
def empty (source : Source) : Status := { info := { source } }

/-- The Trident's bus address, when a Trident is present. -/
def tridentAbaddr (s : Status) : Option Int :=
  if s.trident.present then s.trident.abaddr else none

/-- The first outlet with this device id. -/
def outlet? (s : Status) (deviceId : String) : Option Outlet :=
  s.outlets.find? (·.deviceId = deviceId)

end Status

end ReefLink
