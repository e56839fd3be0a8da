import ReefLink.Status.Record
/-!
# The JSON form of a status

Every record of a status is written as an object of its fields, under the field names that
controllers and tools share (`type` for a kind, `updateStat` and `wasteSize` in the
configuration). An absent field is `null`, never left out; objects are sorted by key, as
`Json.ofFields` keeps them.
-/

namespace ReefLink

/-- The JSON form of a list of numbers. -/
def Json.ofFloats (xs : List Float) : Json := .arr (xs.map Json.ofFloat)

/-- The JSON form of a small count. -/
def Json.ofNat? (n : Option Nat) : Json := Json.ofInt? (n.map Int.ofNat)

/-- The JSON form of the controller's description. -/
def ControllerInfo.toJson (m : ControllerInfo) : Json :=
  .ofFields [("software", .ofStr? m.software), ("hardware", .ofStr? m.hardware),
    ("hostname", .ofStr? m.hostname), ("serial", .ofStr? m.serial),
    ("timezone", .ofStr? m.timezone), ("date", .ofStr? m.date), ("type", .ofStr? m.deviceType),
    ("firmware_latest", .ofStr? m.firmwareLatest), ("source", .str m.source.name)]

/-- The JSON form of the network settings. -/
def Network.toJson (n : Network) : Json :=
  .ofFields [("ipaddr", .ofStr? n.ipaddr), ("gateway", .ofStr? n.gateway),
    ("netmask", .ofStr? n.netmask), ("dhcp", .ofBool? n.dhcp),
    ("wifi_enable", .ofBool? n.wifiEnable), ("ssid", .ofStr? n.ssid),
    ("strength", .ofInt? n.strength), ("quality", .ofInt? n.quality)]

/-- The JSON form of a probe. -/
def Probe.toJson (p : Probe) : Json :=
  .ofFields [("name", .str p.name), ("type", .ofStr? p.kind), ("value_raw", .ofStr? p.valueRaw),
    ("value", .ofFloat? p.value), ("module_abaddr", .ofInt? p.moduleAbaddr),
    ("module_hwtype", .ofStr? p.moduleHwType)]

/-- The JSON form of an outlet. -/
def Outlet.toJson (o : Outlet) : Json :=
  .ofFields [("device_id", .str o.deviceId), ("name", .str o.name),
    ("output_id", .ofStr? o.outputId), ("state", .ofStr? o.state), ("type", .ofStr? o.kind),
    ("gid", .ofStr? o.gid), ("intensity", .ofNat? o.intensity),
    ("module_abaddr", .ofInt? o.moduleAbaddr), ("module_hwtype", .ofStr? o.moduleHwType),
    ("status", .ofOption (o.status.map Json.arr))]

/-- The JSON form of the feed state. -/
def Feed.toJson (f : Feed) : Json :=
  .ofFields [("id", .ofInt? f.id), ("active", .ofBool? f.active)]

/-- The JSON form of the alerts. -/
def Alerts.toJson (a : Alerts) : Json :=
  .ofFields [("last_statement", .ofStr? a.lastStatement), ("last_message", .ofStr? a.lastMessage)]

/-- The JSON form of the Trident's state. -/
def Trident.toJson (t : Trident) : Json :=
  .ofFields [("present", .bool t.present), ("abaddr", .ofInt? t.abaddr),
    ("hwtype", .ofStr? t.hwtype), ("hwrev", .ofStr? t.hwrev), ("swrev", .ofStr? t.swrev),
    ("serial", .ofStr? t.serial), ("status", .ofStr? t.status),
    ("is_testing", .ofBool? t.isTesting), ("levels_ml", .ofOption (t.levelsMl.map Json.ofFloats)),
    ("reagent_a_remaining", .ofNat? t.reagentARemaining),
    ("reagent_b_remaining", .ofNat? t.reagentBRemaining),
    ("reagent_c_remaining", .ofNat? t.reagentCRemaining),
    ("waste_container_level", .ofNat? t.wasteContainerLevel),
    ("waste_size_ml", .ofFloat? t.wasteSizeMl), ("waste_used_ml", .ofFloat? t.wasteUsedMl),
    ("waste_remaining_ml", .ofFloat? t.wasteRemainingMl),
    ("waste_percent", .ofFloat? t.wastePercent), ("waste_full", .ofBool? t.wasteFull),
    ("reagent_a_remaining_ml", .ofFloat? t.reagentARemainingMl),
    ("reagent_b_remaining_ml", .ofFloat? t.reagentBRemainingMl),
    ("reagent_c_remaining_ml", .ofFloat? t.reagentCRemainingMl),
    ("reagent_a_empty", .ofBool? t.reagentAEmpty), ("reagent_b_empty", .ofBool? t.reagentBEmpty),
    ("reagent_c_empty", .ofBool? t.reagentCEmpty)]

/-- The JSON form of a module's extra settings. -/
def ModuleExtra.toJson (e : ModuleExtra) : Json :=
  .ofFields [("wasteSize", .ofFloat? e.wasteSize), ("status", .ofStr? e.status)]

/-- The JSON form of a module's configuration. -/
def ModuleConfig.toJson (m : ModuleConfig) : Json :=
  .ofFields [("hwtype", .str m.hwtype), ("abaddr", .ofInt? m.abaddr), ("name", .ofStr? m.name),
    ("update", .ofBool? m.update), ("updateStat", .ofInt? m.updateStat),
    ("extra", .ofOption (m.extra.map ModuleExtra.toJson))]

/-- The JSON form of the network configuration. -/
def NetworkConfig.toJson (n : NetworkConfig) : Json :=
  .ofFields [("latestFirmware", .ofStr? n.latestFirmware),
    ("updateFirmware", .ofBool? n.updateFirmware)]

/-- The JSON form of the configuration. -/
def ConfigSection.toJson (c : ConfigSection) : Json :=
  .ofFields [("mconf", .ofOption (c.mconf.map fun ms => .arr (ms.map ModuleConfig.toJson))),
    ("nconf", .ofOption (c.nconf.map NetworkConfig.toJson))]

/-- The JSON form of an expansion module's entry. -/
def MxmDevice.toJson (d : MxmDevice) : Json :=
  .ofFields [("rev", .str d.rev), ("serial", .str d.serial), ("status", .str d.status)]

/-- The JSON object of a keyed list. -/
def KeyedList.toJson {α : Type} (f : α → Json) (xs : KeyedList α) : Json :=
  .ofFields (xs.map fun (k, v) => (k, f v))

/-- **The JSON form of a status.** -/
def Status.toJson (s : Status) : Json :=
  .ofFields [("meta", s.info.toJson), ("network", s.network.toJson),
    ("probes", KeyedList.toJson Probe.toJson s.probes),
    ("outlets", .arr (s.outlets.map Outlet.toJson)),
    ("feed", .ofOption (s.feed.map Feed.toJson)), ("alerts", s.alerts.toJson),
    ("trident", s.trident.toJson), ("config", s.config.toJson),
    ("mxm_devices", .ofOption (s.mxmDevices.map (KeyedList.toJson MxmDevice.toJson))),
    ("raw", .ofOption s.raw)]

end ReefLink
