import ReefLink.Xml.Reader
import ReefLink.Status.Record
import ReefLink.Payload.Coerce
/-!
# Reading a status from the XML endpoint

The XML status is a root element with `software` and `hardware` attributes and child elements
`hostname`, `serial`, `timezone` and `date`. Probes sit in `probes` lists as `probe` elements
with `name`, `value` and `type`; outlets in `outlets` lists as `outlet` elements with `name`,
`deviceID`, `outputID` and `state`. A field is the text of the first child of that name, trimmed,
when it is not blank. A probe needs a name, and a later probe of a name replaces an earlier one;
an outlet needs a name, which is also its device id when it has none.
-/

namespace ReefLink.Markup

open Xml

/-- The text of the first child element of a name, trimmed, when not blank. -/
def childText (n : Node) (name : String) : Option String :=
  match n.childrenNamed name with
  | first :: _ => first.text?.bind Text.trimmed?
  | [] => none

/-- The items of every list of a name under the root. -/
def entries (root : Node) (list item : String) : List Node :=
  (root.childrenNamed list).flatMap (·.childrenNamed item)

/-- **Reads an XML status** from the document's root element. -/
def ofRoot (root : Node) : Status :=
  let probes := (entries root "probes" "probe").filterMap fun p =>
    (childText p "name").map fun name =>
      let raw := childText p "value"
      (name, ({ name, kind := childText p "type", valueRaw := raw
                value := raw.bind readDecimal? } : Probe))
  let outlets := (entries root "outlets" "outlet").filterMap fun o =>
    (childText o "name").map fun name =>
      ({ deviceId := (childText o "deviceID").getD name, name
         outputId := childText o "outputID", state := childText o "state" } : Outlet)
  { info := { software := (root.attr? "software").bind Text.trimmed?
              hardware := (root.attr? "hardware").bind Text.trimmed?
              hostname := childText root "hostname"
              serial := childText root "serial"
              timezone := childText root "timezone"
              date := childText root "date"
              source := .xml }
    probes := KeyedList.ofList probes
    outlets := outlets }

end ReefLink.Markup
