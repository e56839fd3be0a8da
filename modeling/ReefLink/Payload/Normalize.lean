import ReefLink.Error
import ReefLink.Payload.Rest
import ReefLink.Payload.Legacy
import ReefLink.Payload.Markup
/-!
# From an answer's body to a status

A body from a JSON endpoint must be an object (a blank body counts as the empty object); an XML
body must be a well-formed document. The status read from it has its Trident readings derived
with no waste container size known.
-/

namespace ReefLink

/-- **Reads a JSON object**: a blank text is the empty object, anything but an object is refused. -/
def readJsonObject (text : String) : Except ReadFailure Json :=
  if Text.isBlankText text then .ok (.obj [])
  else
    match Json.read text with
    | .error e => .error (.json e)
    | .ok v => if v.isObj then .ok v else .error (.unexpectedFormat "JSON root is not an object")

/-- **Reads a status** from the body of an endpoint of this kind. -/
def readStatus (source : Source) (body : String) : Except ReadFailure Status := do
  let status ← match source with
    | .rest => (readJsonObject body).map Rest.read
    | .cgiJson => (readJsonObject body).map Legacy.read
    | .xml =>
      match Xml.read body with
      | .ok root => pure (Markup.ofRoot root)
      | .error e => throw (.xml e)
  pure { status with trident := status.trident.finalize }

end ReefLink
