import ReefLink.Json.Value
/-!
# Finding a key in a status payload

Firmware versions nest the same key either at the top of a payload or one level down, under one
of the containers `data`, `status`, `istat`, `systat` and `result`. `Json.find` looks at the top
first and then in each container that is an object, in that order. A `null` value counts as
absent; any other value found at the top is the answer, whatever its shape.
-/

namespace ReefLink.Json

/-- The containers that may hold a payload's keys, in the order they are searched. -/
def containerKeys : List String := ["data", "status", "istat", "systat", "result"]

/-- A field's value unless it is `null`. -/
def present? (fs : List (String × Json)) (k : String) : Option Json :=
  match fs.lookup k with
  | some .null => none
  | other => other

/-- **Finds a key** at the top of an object, else in its containers; a non-object finds nothing. -/
def find (payload : Json) (key : String) : Option Json :=
  match payload with
  | .obj root =>
    match present? root key with
    | some v => some v
    | none =>
      containerKeys.findSome? fun ck =>
        match root.lookup ck with
        | some (.obj inner) => present? inner key
        | _ => none
  | _ => none

/-- The value found for a key, when it is an object. -/
def findObject (payload : Json) (key : String) : Option (List (String × Json)) :=
  (payload.find key).bind fields?

/-- The value found for a key, when it is an array. -/
def findArray (payload : Json) (key : String) : Option (List Json) :=
  (payload.find key).bind items?

end ReefLink.Json
