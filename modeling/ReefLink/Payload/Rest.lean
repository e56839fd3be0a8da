import ReefLink.Payload.Entry
import ReefLink.Payload.TridentModule
import ReefLink.Payload.Statement
/-!
# Reading a status from the REST endpoint

The REST status has a `system` object (software, hardware, serial, time zone, date, type), an
`nstat` object (network, host name, latest firmware), `inputs` or `probes`, `outputs` or
`outlets`, a feed, lists of alerts and the bus modules. Every section is found with `Json.find`,
so it may sit at the top or in a container.

The last alert is read from the last entry of the first alert list (of `notifications`,
`alerts`, `alarms`, `warnings`, `messages`) whose last entry says something: an object's
statement (`statement`, `Statement`, `detail`, `details`), else its message (`message`, `msg`,
`text`, `title`); or a text. A message also yields the statement it names after `Statement:`.
-/

namespace ReefLink.Rest

/-- Spellings of a device id. -/
def idKeys : List String := ["did", "device_id", "deviceID", "id"]

/-- Module keys of probes. -/
def probeKeys : Entry.ModuleKeys :=
  ⟨["module_abaddr", "abaddr", "abAddr"], ["module_hwtype", "hwtype", "hwType"], true⟩

/-- Module keys of outlets. -/
def outletKeys : Entry.ModuleKeys :=
  ⟨["module_abaddr", "abaddr", "abAddr", "moduleAbAddr"],
   ["module_hwtype", "hwtype", "hwType", "moduleHwType"], true⟩

/-- Keys of the alert lists, in the order they are tried. -/
def alertListKeys : List String := ["notifications", "alerts", "alarms", "warnings", "messages"]

/-- A scalar text of a field, when not empty. -/
def textOf (m : ModuleFields) (k : String) : Option String :=
  ((m.lookup k).bind Json.scalarText?).filter (!·.isEmpty)

/-- The facts about the controller from `system` and `nstat`. -/
def info (system nstat : ModuleFields) : ControllerInfo :=
  { software := textOf system "software"
    hardware := textOf system "hardware"
    hostname := (textOf system "hostname").orElse fun _ => (nstat.lookup "hostname").bind Json.text?
    serial := textOf system "serial"
    timezone := textOf system "timezone"
    date := textOf system "date"
    deviceType := textOf system "type"
    firmwareLatest := textOf nstat "latestFirmware"
    source := .rest }

/-- The network from `nstat`. -/
def network (nstat : ModuleFields) : Network :=
  { ipaddr := (nstat.lookup "ipaddr").bind Json.text?
    gateway := (nstat.lookup "gateway").bind Json.text?
    netmask := (nstat.lookup "netmask").bind Json.text?
    dhcp := Entry.flag nstat "dhcp"
    wifiEnable := Entry.flag nstat "wifiEnable"
    ssid := (nstat.lookup "ssid").bind Json.text?
    strength := (nstat.lookup "strength").bind Json.toInt?
    quality := (nstat.lookup "quality").bind Json.toInt? }

/-- A device id: an id key, else the name. -/
def deviceId (item : ModuleFields) : Option String :=
  (Entry.coerceId item idKeys).orElse fun _ => Entry.coerceId item ["name"]

/-- The entries of the first of two lists that is there. -/
def entries (payload : Json) (primary fallback : String) : List ModuleFields :=
  let xs := ((payload.findArray primary).orElse fun _ => payload.findArray fallback).getD []
  xs.filterMap Json.fields?

/-- Probes by device id; a later probe of an id replaces an earlier one. -/
def probes (payload : Json) : KeyedList Probe :=
  KeyedList.ofList <| (entries payload "inputs" "probes").filterMap fun item =>
    (deviceId item).map fun did => (did, Entry.probe item did probeKeys)

/-- Outlets in payload order. -/
def outlets (payload : Json) : List Outlet :=
  (entries payload "outputs" "outlets").filterMap fun item =>
    (deviceId item).map fun did => Entry.outlet item did outletKeys ["ID", "output_id"]

/-- The feed: a list of cycles, or one value. -/
def feed (payload : Json) : Option Feed :=
  match (payload.find "feed").orElse fun _ => payload.find "feeds" with
  | some (.arr items) => some (Entry.feedOfList items)
  | some v => Entry.feedOfValue v
  | none => none

/-- An alert from a message. -/
def alertOfMessage (msg : String) : Alerts :=
  { lastStatement := Statement.statementIn msg, lastMessage := some msg }

/-- An alert from the last entry of a list. -/
def alertOfEntry : Json → Option Alerts
  | .obj item =>
    match (Json.firstPresent item ["statement", "Statement", "detail", "details"]).bind Json.text? with
    | some s => some { lastStatement := some s }
    | none => ((Json.firstPresent item ["message", "msg", "text", "title"]).bind Json.text?).map alertOfMessage
  | .str s => (Text.trimmed? s).map alertOfMessage
  | _ => none

/-- **The last alert.** -/
def alerts (payload : Json) : Alerts :=
  let found := alertListKeys.findSome? fun k =>
    match payload.findArray k with
    | some items => items.getLast?.bind alertOfEntry
    | none => none
  found.getD {}

/-- **Reads a REST status** from its payload. -/
def read (payload : Json) : Status :=
  let system := (payload.findObject "system").getD []
  let nstat := (payload.findObject "nstat").getD []
  { info := info system nstat
    network := network nstat
    probes := probes payload
    outlets := outlets payload
    feed := feed payload
    alerts := alerts payload
    trident := TridentModule.ofPayload payload
    raw := some payload }

end ReefLink.Rest
