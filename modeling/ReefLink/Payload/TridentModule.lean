import ReefLink.Payload.Entry
import ReefLink.Text.Letter
/-!
# Finding the Trident in a payload

The Trident is the first module of the payload's `modules` list that has an `extra` object and
the hardware type `TRI` or `TNP`. Its `extra` object carries the levels in ml, a status text and,
under varying keys, the percentages left of the three reagents and the waste container level.

**Status text.** A status starting with `testing` in any ASCII case is written `Testing` at the
front. A status of letters only is then capitalized (first letter upper case, the rest lower),
unless it is at most three letters, all upper case, such as an abbreviation.

**Consumables.** A `reagents` list of at least three entries fills the slots A, B and C first.
Then the leaves of `extra` are visited in key order, nested keys joined by `_`; a leaf that reads
as a percentage and whose key, trimmed, lower-cased and with spaces as `_`, contains `reagent`
fills the first empty slot whose tokens it contains. Other leaves with `waste` and `level`, `pct`
or `percent` in the key fill the waste level, once.
-/

namespace ReefLink.TridentModule

/-- **The normal form of a status text.** -/
def normalizeStatus (status : String) : String :=
  let cs := status.toList
  let front := cs.take 7
  let cs :=
    if front.length = 7 && front.all (fun c => c.toNat < 128) &&
        (front.map Char.toLower) = "testing".toList then "Testing".toList ++ cs.drop 7
    else cs
  if !cs.isEmpty && cs.all Text.isAlphabetic then
    let isUpper := cs.any Text.isUppercase && !cs.any Text.isLowercase
    if isUpper && cs.length ≤ 3 then String.ofList cs
    else
      match cs with
      | first :: rest => String.ofList (Text.charToUpper first ++ rest.flatMap Text.charToLower)
      | [] => ""
  else String.ofList cs

/-- Percentages left in the reagent slots and the waste container level. -/
structure Consumables where
  reagentA : Option Nat := none
  reagentB : Option Nat := none
  reagentC : Option Nat := none
  waste : Option Nat := none

/-- Key tokens of reagent A. -/
def tokensA : List String := ["reagenta", "reagent_a", "reagent1", "reagent_1", "reagent-1"]
/-- Key tokens of reagent B. -/
def tokensB : List String := ["reagentb", "reagent_b", "reagent2", "reagent_2", "reagent-2"]
/-- Key tokens of reagent C. -/
def tokensC : List String := ["reagentc", "reagent_c", "reagent3", "reagent_3", "reagent-3"]
/-- Key tokens of the waste level. -/
def tokensWaste : List String := ["level", "pct", "percent"]

mutual

/-- The leaves of an object in key order, nested keys joined by `_` after a non-empty prefix. -/
def leaves (pfx : String) : List (String × Json) → List (String × Json)
  | [] => []
  | (k, v) :: rest =>
    let key := if pfx.isEmpty then k else pfx ++ "_" ++ k
    leavesOf key v ++ leaves pfx rest

/-- The leaves below one value. -/
def leavesOf (key : String) : Json → List (String × Json)
  | .obj inner => leaves key inner
  | v => [(key, v)]

end

/-- Whether `t` occurs in a list of characters. -/
def occursIn (t : List Char) : List Char → Bool
  | [] => t.isEmpty
  | c :: cs => t.isPrefixOf (c :: cs) || occursIn t cs

/-- Whether a text contains another. -/
def containsText (s t : String) : Bool := occursIn t.toList s.toList

/-- A key in the form that tokens are matched against. -/
def keyForm (k : String) : String :=
  String.ofList ((Text.toLower (Text.trim k)).toList.map fun c => if c = ' ' then '_' else c)

/-- Takes one leaf into account. -/
def takeLeaf (acc : Consumables) (leaf : String × Json) : Consumables :=
  match leaf.2.toPercent? with
  | none => acc
  | some pct =>
    let k := keyForm leaf.1
    let has (tokens : List String) := tokens.any (containsText k)
    let reagent :=
      if containsText k "reagent" then
        if acc.reagentA.isNone && has tokensA then some { acc with reagentA := some pct }
        else if acc.reagentB.isNone && has tokensB then some { acc with reagentB := some pct }
        else if acc.reagentC.isNone && has tokensC then some { acc with reagentC := some pct }
        else none
      else none
    match reagent with
    | some acc' => acc'
    | none =>
      if acc.waste.isNone && containsText k "waste" && has tokensWaste then
        { acc with waste := some pct }
      else acc

/-- **The consumables** of an `extra` object. -/
def consumables (extra : ModuleFields) : Consumables :=
  let start : Consumables := match (extra.lookup "reagents").bind Json.items? with
    | some (a :: b :: c :: _) => { reagentA := a.toPercent?, reagentB := b.toPercent?, reagentC := c.toPercent? }
    | _ => {}
  (leaves "" extra).foldl takeLeaf start

/-- The levels: the number readings of the non-boolean items, when there is one. -/
def levels (v : Json) : Option (List Float) :=
  match v.items? with
  | some items =>
    let ls := items.filterMap fun x => match x with
      | .bool _ => none
      | other => other.toNumber?
    if ls.isEmpty then none else some ls
  | none => none

/-- The Trident read from its module, its `extra` object and its hardware type. -/
def ofModule (m extra : ModuleFields) (hwtype : String) : Trident :=
  let text (keys : List String) := (Json.firstPresent m keys).bind Json.scalarText?
  let status := ((extra.lookup "status").bind Json.str?).bind Text.trimmed? |>.map normalizeStatus
  let c := consumables extra
  { present := match m.lookup "present" with
      | some (.bool b) => b
      | _ => true
    abaddr := (m.lookup "abaddr").bind Json.int64?
    hwtype := some hwtype
    hwrev := text ["hwrev", "hwRev", "hw_version", "hwVersion", "rev"]
    swrev := text ["software", "swrev", "swRev", "sw_version", "swVersion"]
    serial := text ["serial", "serialNo", "serialNO", "serial_number"]
    status := status
    isTesting := status.map fun s => containsText (Text.toLower s) "testing"
    levelsMl := (extra.lookup "levels").bind levels
    reagentARemaining := c.reagentA
    reagentBRemaining := c.reagentB
    reagentCRemaining := c.reagentC
    wasteContainerLevel := c.waste }

/-- **The Trident of a payload**: the first module with an `extra` object and a Trident hardware
type; with none, an absent Trident. -/
def ofPayload (payload : Json) : Trident :=
  match payload.findArray "modules" with
  | none => {}
  | some ms =>
    let found := (ms.filterMap Json.fields?).findSome? fun m =>
      match (m.lookup "extra").bind Json.fields? with
      | none => none
      | some extra =>
        match moduleHwType m with
        | some hw => if hw ∈ tridentHwTypes then some (ofModule m extra hw) else none
        | none => none
    found.getD {}

end ReefLink.TridentModule
