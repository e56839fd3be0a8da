import ReefLink.Payload.Coerce
import ReefLink.Payload.Module
import ReefLink.Status.Record
/-!
# Probes, outlets and the feed in a JSON payload

The two JSON endpoints describe probes and outlets with the same fields under a few spellings.
A device id is the first text among the id keys, else the first integer among them. The module
that carries a device is named by its own keys, by a nested `module` object where the endpoint
has one, or by the address at the front of the device id.

The feed is given either as one value (a cycle number, or an object with the cycle and whether
it runs) or as a list of cycles of which the first running one counts.
-/

namespace ReefLink.Entry

/-- The spellings of a module's address and hardware type on one kind of entry. -/
structure ModuleKeys where
  abaddr : List String
  hwtype : List String
  nested : Bool

/-- The values of the keys that are there, in the order of the keys. -/
def valuesOf (item : ModuleFields) (keys : List String) : List Json :=
  keys.filterMap fun k => item.lookup k

/-- **A device id**: the first text among the keys, else the first signed 64-bit integer. -/
def coerceId (item : ModuleFields) (keys : List String) : Option String :=
  match (valuesOf item keys).findSome? Json.text? with
  | some s => some s
  | none => ((valuesOf item keys).findSome? Json.int64?).map toString

/-- The nested `module` object of an entry. -/
def nestedModule (item : ModuleFields) : Option ModuleFields :=
  (item.lookup "module").bind Json.fields?

/-- The first meaningful address-like value: the entry's keys, then the nested module's. -/
def addressValue (item : ModuleFields) (keys : ModuleKeys) (nestedKeys : List String) :
    Option Json :=
  match Json.firstPresent item keys.abaddr with
  | some v => some v
  | none => if keys.nested then (nestedModule item).bind (Json.firstPresent · nestedKeys) else none

/-- **The address of the module carrying a device.** The first meaningful address value decides
when there is one and it is an integer; otherwise the device id's front digits. -/
def moduleAbaddr (item : ModuleFields) (did : String) (keys : ModuleKeys) : Option Int :=
  match (addressValue item keys ["abaddr", "abAddr"]).bind Json.int64? with
  | some a => some a
  | none => abaddrOfDeviceId did

/-- **The hardware type of the module carrying a device**, trimmed and upper-cased. -/
def moduleHwType (item : ModuleFields) (keys : ModuleKeys) : Option String :=
  let v := match Json.firstPresent item keys.hwtype with
    | some v => some v
    | none => if keys.nested then (nestedModule item).bind (Json.firstPresent · ["hwtype", "hwType"])
              else none
  (v.bind Json.text?).map Text.toUpper

/-- **A probe** from its entry and device id. -/
def probe (item : ModuleFields) (did : String) (keys : ModuleKeys) : Probe :=
  let value := item.lookup "value"
  { name := ((item.lookup "name").bind Json.scalarText?).getD did
    kind := (item.lookup "type").bind Json.scalarText?
    valueRaw := value.bind Json.scalarText?
    value := value.bind Json.toNumber?
    moduleAbaddr := moduleAbaddr item did keys
    moduleHwType := moduleHwType item keys }

/-- **An outlet** from its entry and device id; `outputIdKeys` are the spellings of its output
number. -/
def outlet (item : ModuleFields) (did : String) (keys : ModuleKeys) (outputIdKeys : List String) :
    Outlet :=
  let status := (item.lookup "status").bind Json.items?
  { deviceId := did
    name := ((item.lookup "name").bind Json.scalarText?).getD did
    outputId := (Json.firstPresent item outputIdKeys).bind Json.scalarText?
    state := (status.bind List.head?).bind Json.scalarText?
    kind := (item.lookup "type").bind Json.text?
    gid := (item.lookup "gid").bind Json.text?
    intensity := match (item.lookup "intensity").bind Json.toInt? with
      | some n => if 0 ≤ n && n ≤ 100 then some n.toNat else none
      | none => none
    moduleAbaddr := moduleAbaddr item did keys
    moduleHwType := moduleHwType item keys
    status := status }

/-- A boolean, or an integer reading that is 1. -/
def runningFlag : Json → Option Bool
  | .bool b => some b
  | v => v.toInt?.map (· = 1)

/-- **The feed from one value**: a number or text is the running cycle (0 for none); an object
gives the cycle (`name`, `id` or `sel`) and whether it runs, by default when the cycle is 1 to 4. -/
def feedOfValue : Json → Option Feed
  | v@(.num _) | v@(.str _) => v.toInt?.map fun id => { id := some id, active := some (id ≠ 0) }
  | .obj f =>
    let id := (Json.firstPresent f ["name", "id", "sel"]).bind Json.toInt?
    let active := match (f.lookup "active").bind runningFlag with
      | some b => some b
      | none => id.map fun n => decide (1 ≤ n ∧ n ≤ 4)
    some { id, active }
  | _ => none

/-- **The feed from a list of cycles**: the first object marked running (`active` or `running`)
gives the cycle (`name` or `id`); with none, cycle 0 and not running. -/
def feedOfList (items : List Json) : Feed :=
  let running := (items.filterMap Json.fields?).find? fun item =>
    ((Json.firstPresent item ["active", "running"]).bind runningFlag).getD false
  let id := running.bind fun item => (Json.firstPresent item ["name", "id"]).bind Json.toInt?
  { id := some (id.getD 0), active := some (match id with | some n => n ≠ 0 | none => false) }

/-- A flag field of an object. -/
def flag (m : ModuleFields) (k : String) : Option Bool := (m.lookup k).bind Json.toBool?

end ReefLink.Entry
