import ReefLink.Config.DeviceLine
import ReefLink.Text.Lines
import ReefLink.Text.Case
import ReefLink.Payload.Coerce
import ReefLink.Status.Encode
/-!
# Configuration snapshots

The controller's configuration is large and holds secrets (Wi-Fi keys, mail passwords). A
snapshot keeps only what a client needs: each module's identity and update state, the
firmware update fields, and the devices that MXM modules list in their status text.

- `ModuleConfig.ofEntry?` keeps a module's type (upper-cased, required), address, name,
  update flags, and of its extra settings the waste container size and, for an MXM module, a
  status text that is not blank.
- `NetworkConfig.ofPayload?` keeps the firmware fields, and nothing when both are absent.
- `Snapshot.ofPayload` reads `mconf` and `nconf` at the top of the payload only; a later device
  of the same name replaces an earlier one.
-/

namespace ReefLink

/-- The hardware type of MXM bridge modules. -/
def mxmHwType : String := "MXM"

/-- Whether extra settings keep nothing. -/
def ModuleExtra.isEmpty (e : ModuleExtra) : Bool := e.wasteSize.isNone && e.status.isNone

/-- **A module's configuration** from its entry; an entry without a type has none. -/
def ModuleConfig.ofEntry? (m : List (String × Json)) : Option ModuleConfig := do
  let hwtype := Text.toUpper (← (Json.firstPresent m ["hwtype", "hwType"]).bind Json.scalarText?)
  let extra := (m.lookup "extra" >>= Json.fields?).map fun e =>
    { wasteSize := (e.lookup "wasteSize").bind Json.float?
      status :=
        if hwtype = mxmHwType then
          ((e.lookup "status").bind Json.str?).filter fun s => !Text.isBlankText s
        else none : ModuleExtra }
  some { hwtype
         abaddr := (m.lookup "abaddr").bind Json.int64?
         name := (m.lookup "name").bind Json.text?
         update := (m.lookup "update").bind Json.bool?
         updateStat := (m.lookup "updateStat").bind Json.int64?
         extra := extra.filter fun e => !e.isEmpty }

/-- The module entries of a configuration payload. -/
def ModuleConfig.listOf (payload : Json) : List ModuleConfig :=
  match payload.get? "mconf" with
  | some entries => entries.objects.filterMap ModuleConfig.ofEntry?
  | none => []

/-- **The firmware fields** of a configuration payload, when it has one of them. -/
def NetworkConfig.ofPayload? (payload : Json) : Option NetworkConfig := do
  let n ← (payload.get? "nconf").bind Json.fields?
  let latestFirmware := (n.lookup "latestFirmware").bind Json.text?
  let updateFirmware := (n.lookup "updateFirmware").bind Json.bool?
  if latestFirmware.isNone && updateFirmware.isNone then none
  else some { latestFirmware, updateFirmware }

/-- Whether an entry is an MXM module: its `hwtype` reads `MXM` in any ASCII case. -/
def isMxmEntry (m : List (String × Json)) : Bool :=
  match (Json.firstPresent m ["hwtype"]).bind Json.scalarText? with
  | some t => t.toList.map Char.toLower = "mxm".toList
  | none => false

/-- Adds the devices of one status text to a keyed list. -/
def addDevices (acc : KeyedList MxmDevice) (text : String) : KeyedList MxmDevice :=
  (Text.lines text).foldl (fun acc l =>
    match MxmDevice.ofLine? l with
    | some (name, d) => acc.insert name d
    | none => acc) acc

/-- **The devices of every MXM module** of a configuration payload. -/
def MxmDevice.listOf (payload : Json) : KeyedList MxmDevice :=
  match payload.get? "mconf" with
  | some entries =>
    entries.objects.foldl (fun acc m =>
      if isMxmEntry m then
        match ((m.lookup "extra").bind (·.get? "status")).bind Json.str? with
        | some text => addDevices acc text
        | none => acc
      else acc) []
  | none => []

/-- What a configuration refresh keeps. -/
structure Snapshot where
  config : ConfigSection := {}
  mxmDevices : KeyedList MxmDevice := []

namespace Snapshot

/-- **The snapshot of a configuration payload.** -/
def ofPayload (payload : Json) : Snapshot :=
  { config := { mconf := some (ModuleConfig.listOf payload)
                nconf := NetworkConfig.ofPayload? payload }
    mxmDevices := MxmDevice.listOf payload }

/-- The module entries of a snapshot. -/
def modules (s : Snapshot) : List ModuleConfig := s.config.mconf.getD []

/-- The JSON form of a snapshot. -/
def toJson (s : Snapshot) : Json :=
  .ofFields [("config", s.config.toJson),
    ("mxm_devices", KeyedList.toJson MxmDevice.toJson s.mxmDevices)]

end Snapshot

end ReefLink
