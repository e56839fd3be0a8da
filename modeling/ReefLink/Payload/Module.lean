import ReefLink.Payload.Coerce
import ReefLink.Payload.Lookup
import ReefLink.Text.Case
/-!
# Bus modules in a payload

A controller lists the modules on its bus under `modules`. Each has a bus address and a
hardware type; a module counts as present unless it says `"present": false`. A device id such
as `5_I1` starts with the address of the module that carries the device.
-/

namespace ReefLink

/-- A module as the payload gives it: its fields. -/
abbrev ModuleFields := List (String × Json)

namespace Json

/-- The objects of the payload's `modules` list, found at the top or in a container. -/
def modules (payload : Json) : List ModuleFields :=
  match payload.find "modules" with
  | some v => v.objects
  | none => []

end Json

/-- A module is present unless it is marked `"present": false`. -/
def moduleIsPresent (m : ModuleFields) : Bool :=
  match m.lookup "present" with
  | some (.bool b) => b
  | _ => true

/-- The modules that are not marked absent, in order. -/
def presentModules (ms : List ModuleFields) : List ModuleFields := ms.filter moduleIsPresent

/-- The hardware type of a module (`hwtype`, `hwType` or `type`), trimmed and upper-cased. -/
def moduleHwType (m : ModuleFields) : Option String :=
  ((Json.firstPresent m ["hwtype", "hwType", "type"]).bind Json.scalarText?).map Text.toUpper

/-- **The module address in a device id**: the digits before the first `_` of the trimmed id,
when there are some and they fit a signed 64-bit word. -/
def abaddrOfDeviceId (did : String) : Option Int :=
  let t := Text.trim did
  match t.toList.splitOn '_' with
  | prefixChars :: _ :: _ => digitsToInt64? (String.ofList prefixChars)
  | _ => none

end ReefLink
