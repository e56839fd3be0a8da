import ReefLink.Payload.Entry
import ReefLink.Payload.TridentModule
/-!
# Reading a status from the legacy JSON endpoint

The legacy JSON status keeps nearly everything in an `istat` object: hardware, host name, date,
`inputs` and `outputs` whose entries need a non-empty `did`, and the feed. The serial number is
the first usable one among the `istat` spellings, the root spellings and the root `system`
object, a text or a signed 64-bit integer. Module addresses come from the entry's own keys or
its device id, never from a nested module.
-/

namespace ReefLink.Legacy

/-- Module keys of legacy entries. -/
def keys : Entry.ModuleKeys :=
  ⟨["module_abaddr", "abaddr", "abAddr"], ["module_hwtype", "hwtype", "hwType"], false⟩

/-- A serial number: a text, or a signed 64-bit integer. -/
def serialOf : Json → Option String
  | v@(.str _) => v.text?
  | v@(.num _) => v.int64?.map toString
  | _ => none

/-- **The serial number**, from `istat`, the root, then the root `system` object. -/
def serial (root istat : ModuleFields) : Option String :=
  let fromIstat := ["serial", "serialNo", "serialNO", "serial_number"].filterMap fun k => istat.lookup k
  let fromRoot := ["serial", "serialNo"].filterMap fun k => root.lookup k
  let fromSystem := (((root.lookup "system").bind Json.fields?).bind (·.lookup "serial")).toList
  (fromIstat ++ fromRoot ++ fromSystem).findSome? serialOf

/-- A device id: a non-empty `did` string, as it is. -/
def did (item : ModuleFields) : Option String :=
  ((item.lookup "did").bind Json.str?).filter (!·.isEmpty)

/-- The object entries of a list in `istat`. -/
def entries (istat : ModuleFields) (k : String) : List ModuleFields :=
  (((istat.lookup k).bind Json.items?).getD []).filterMap Json.fields?

/-- **Reads a legacy JSON status** from its payload. -/
def read (payload : Json) : Status :=
  let root := payload.fields?.getD []
  let istat := ((root.lookup "istat").bind Json.fields?).getD []
  let textOf (k : String) := ((istat.lookup k).bind Json.scalarText?).filter (!·.isEmpty)
  let feedValue := match istat.lookup "feed" with
    | some .null | none => root.lookup "feed"
    | some v => some v
  { info := { hardware := textOf "hardware", hostname := textOf "hostname"
              serial := serial root istat, date := textOf "date", source := .cgiJson }
    probes := KeyedList.ofList <| (entries istat "inputs").filterMap fun item =>
      (did item).map fun d => (d, Entry.probe item d keys)
    outlets := (entries istat "outputs").filterMap fun item =>
      (did item).map fun d => Entry.outlet item d keys ["ID"]
    feed := feedValue.bind Entry.feedOfValue
    trident := TridentModule.ofPayload payload
    raw := some payload }

end ReefLink.Legacy
