import ReefLink.Payload.Normalize
import ReefLink.Proofs.XmlRoundTrip
import ReefLink.Proofs.JsonRoundTrip
import Mathlib.Data.List.DropRight
/-!
# Three endpoints, one controller

A controller reports its status at three endpoints: a REST JSON document, a legacy JSON document
with everything under `istat`, and an XML document. A `Description` is what the three are
written from: host name, serial number, hardware, probes and outlets.

The three readers identify entries each their own way. The REST reader keys a probe by its
device id trimmed, the legacy reader by its `did` as it is, the XML reader by its name trimmed;
an outlet's device id is trimmed by the REST and XML readers and kept as it is by the legacy one.
So distinct ids and names are not enough: the ids `a` and ` a` are one probe to the REST reader
and two to the legacy one (`paddedProbes_counts`). A `Sound` description keeps probe ids and
names distinct once trimmed and outlet ids free of blanks at their ends, and holds only
characters an XML document may hold.

Each reader reports a sound description (`rest_reports`, `legacy_reports`, `markup_reports`):
its host name, serial number and hardware trimmed, its probes in some order
(`KeyedList.ofList_perm`) and its outlets in order. With the two round trips, of the JSON texts
(`Json.read_render`) and of the XML document (`Xml.read_render`), the statuses read from the three
texts agree (`endpoints_agree`).
-/

namespace ReefLink

/-! ## Trimming -/

namespace Text

theorem dropBlankEnd_eq_nil_iff {l : List Char} : dropBlankEnd l = [] ↔ ∀ x ∈ l, isBlank x := by
  simp [dropBlankEnd, List.dropWhile_eq_nil_iff]

theorem dropBlank_dropBlank (l : List Char) : dropBlank (dropBlank l) = dropBlank l :=
  List.dropWhile_idempotent isBlank l

theorem dropBlankEnd_dropBlankEnd (l : List Char) : dropBlankEnd (dropBlankEnd l) = dropBlankEnd l := by
  rw [dropBlankEnd, dropBlankEnd, List.reverse_reverse, List.dropWhile_idempotent]

/-- Trailing blanks of a list with a head: the head stays unless everything is blank. -/
theorem dropBlankEnd_cons (x : Char) (r : List Char) :
    dropBlankEnd (x :: r) =
      if dropBlankEnd r = [] then (if isBlank x then [] else [x]) else x :: dropBlankEnd r := by
  unfold dropBlankEnd
  rw [List.reverse_cons, List.dropWhile_append]
  by_cases h : List.dropWhile isBlank r.reverse = []
  · by_cases hx : isBlank x <;> simp [h, hx]
  · simp [h]

/-- Leading and trailing blanks can be dropped in either order. -/
theorem dropBlank_dropBlankEnd (l : List Char) :
    dropBlank (dropBlankEnd l) = dropBlankEnd (dropBlank l) := by
  induction l with
  | nil => rfl
  | cons x r ih =>
    rw [dropBlankEnd_cons]
    by_cases hx : isBlank x
    · have hd : dropBlank (x :: r) = dropBlank r := by simp [dropBlank, hx]
      rw [hd]
      split
      · -- all of `r` is blank, so nothing is left either way
        rename_i h
        have hr : dropBlank r = [] := by
          simpa [dropBlank, List.dropWhile_eq_nil_iff] using dropBlankEnd_eq_nil_iff.1 h
        rw [hr]
        rfl
      · simpa [dropBlank, hx] using ih
    · have hd : dropBlank (x :: r) = x :: r := by simp [dropBlank, hx]
      rw [hd, dropBlankEnd_cons]
      split <;> simp [dropBlank, hx]

/-- **Trimming twice trims once.** -/
theorem trim_trim (s : String) : trim (trim s) = trim s := by
  simp only [trim, String.toList_ofList]
  rw [dropBlank_dropBlankEnd, dropBlank_dropBlank, dropBlankEnd_dropBlankEnd]

/-- A text that is not blank keeps something when trimmed. -/
theorem trimmed?_of_not_blank {s : String} (h : isBlankText s = false) :
    trimmed? s = some (trim s) := by
  have hne : dropBlankEnd (dropBlank s.toList) ≠ [] := by
    intro hnil
    -- then everything after the leading blanks is blank, so everything is
    have hdrop : dropBlank s.toList = [] := by
      rw [← dropBlank_dropBlank]
      exact List.dropWhile_eq_nil_iff.2 (dropBlankEnd_eq_nil_iff.1 hnil)
    have hall : isBlankText s = true := List.all_eq_true.2 (List.dropWhile_eq_nil_iff.1 hdrop)
    rw [h] at hall
    exact Bool.false_ne_true hall
  simp [trimmed?, trim, hne]

end Text

/-- A decimal literal reads the same trimmed. -/
theorem readDecimal?_trim (s : String) : readDecimal? (Text.trim s) = readDecimal? s := by
  simp only [readDecimal?, Text.trim_trim]

/-! ## Keyed lists of distinct keys -/

namespace KeyedList

variable {α : Type}

/-- A new key is put in among the others. -/
theorem insert_perm (k : String) (v : α) (l : KeyedList α) (hk : k ∉ l.map Prod.fst) :
    (KeyedList.insert k v l).Perm ((k, v) :: l) := by
  induction l with
  | nil => rfl
  | cons e rest ih =>
    obtain ⟨k', v'⟩ := e
    simp only [List.map_cons, List.mem_cons, not_or] at hk
    rw [KeyedList.insert]
    split
    · rfl
    · split
      · exact absurd ‹k = k'› hk.1
      · exact ((ih hk.2).cons _).trans (List.Perm.swap _ _ _)

/-- **Entries of distinct keys are all kept**, in key order. -/
theorem ofList_perm (es : List (String × α)) (h : (es.map Prod.fst).Nodup) :
    (KeyedList.ofList es).Perm es := by
  -- the entries taken in so far are a keyed list of their own keys
  have key : ∀ (es acc : List (String × α)), (acc.map Prod.fst ++ es.map Prod.fst).Nodup →
      (es.foldl (fun acc e => KeyedList.insert e.1 e.2 acc) acc).Perm (es.reverse ++ acc) := by
    intro es
    induction es with
    | nil => intro acc _; rfl
    | cons e es ih =>
      intro acc hnd
      have hnew : e.1 ∉ acc.map Prod.fst := by
        intro hmem
        exact (List.nodup_append.1 hnd).2.2 _ hmem _ List.mem_cons_self rfl
      have hins := insert_perm e.1 e.2 acc hnew
      have hnd' : ((KeyedList.insert e.1 e.2 acc).map Prod.fst ++ es.map Prod.fst).Nodup := by
        rw [List.map_cons] at hnd
        exact ((hins.map Prod.fst).append_right _).nodup_iff.2 (List.perm_middle.nodup_iff.1 hnd)
      rw [List.foldl_cons, List.reverse_cons, List.append_assoc]
      exact (ih _ hnd').trans ((hins.append_left _).trans (by simp))
  have hall := key es [] (by simpa using h)
  rw [List.append_nil] at hall
  exact hall.trans (List.reverse_perm es)

end KeyedList

/-! ## A controller and its three documents -/

/-- A probe of a controller: device id, name, type and value text. -/
structure ProbeEntry where
  id : String
  name : String
  kind : String
  value : String

/-- An outlet of a controller: device id, name, output id and state token. -/
structure OutletEntry where
  id : String
  name : String
  outputId : String
  state : String

/-- **A controller as its status endpoints describe it**: host name, serial number, hardware,
probes and outlets. -/
structure Description where
  hostname : String
  serial : String
  hardware : String
  probes : List ProbeEntry
  outlets : List OutletEntry

namespace ProbeEntry

/-- The texts of a probe. -/
def texts (p : ProbeEntry) : List String := [p.id, p.name, p.kind, p.value]

/-- The fields of a probe in a JSON status, the value as a string. -/
def fields (p : ProbeEntry) : List (String × Json) :=
  [("did", .str p.id), ("name", .str p.name), ("type", .str p.kind), ("value", .str p.value)]

/-- A probe in an XML status. -/
def xml (p : ProbeEntry) : Xml.Node :=
  .element "probe" []
    [.element "name" [] [.text p.name], .element "value" [] [.text p.value],
     .element "type" [] [.text p.kind]]

/-- What an endpoint is to report of a probe: its name, type and value text trimmed, and the
number the value text reads as. -/
def reading (p : ProbeEntry) : String × Option String × Option String × Option Float :=
  (Text.trim p.name, Text.trimmed? p.kind, Text.trimmed? p.value, readDecimal? p.value)

end ProbeEntry

namespace OutletEntry

/-- The texts of an outlet. -/
def texts (o : OutletEntry) : List String := [o.id, o.name, o.outputId, o.state]

/-- The fields of an outlet in a JSON status: the output id under `ID`, the state first in
`status`. -/
def fields (o : OutletEntry) : List (String × Json) :=
  [("ID", .str o.outputId), ("did", .str o.id), ("name", .str o.name),
   ("status", .arr [.str o.state, .str "", .str "OK", .str ""])]

/-- An outlet in an XML status. -/
def xml (o : OutletEntry) : Xml.Node :=
  .element "outlet" []
    [.element "name" [] [.text o.name], .element "outputID" [] [.text o.outputId],
     .element "state" [] [.text o.state], .element "deviceID" [] [.text o.id]]

/-- What an endpoint is to report of an outlet: its device id, and its name, output id and state
trimmed. -/
def line (o : OutletEntry) : String × String × Option String × Option String :=
  (o.id, Text.trim o.name, Text.trimmed? o.outputId, Text.trimmed? o.state)

end OutletEntry

namespace Description

/-- Every text of a description. -/
def texts (d : Description) : List String :=
  [d.hostname, d.serial, d.hardware] ++ d.probes.flatMap ProbeEntry.texts ++
    d.outlets.flatMap OutletEntry.texts

/-- The REST status document: `system` with the controller's facts, `inputs` and `outputs`. -/
def restDoc (d : Description) : Json :=
  .obj [("inputs", .arr (d.probes.map fun p => .obj p.fields)),
        ("outputs", .arr (d.outlets.map fun o => .obj o.fields)),
        ("system", .obj [("hardware", .str d.hardware), ("hostname", .str d.hostname),
                         ("serial", .str d.serial)])]

/-- The fields of the legacy JSON status. -/
def istat (d : Description) : List (String × Json) :=
  [("hardware", .str d.hardware), ("hostname", .str d.hostname),
   ("inputs", .arr (d.probes.map fun p => .obj p.fields)),
   ("outputs", .arr (d.outlets.map fun o => .obj o.fields)), ("serial", .str d.serial)]

/-- The legacy JSON status document: everything under `istat`. -/
def legacyDoc (d : Description) : Json := .obj [("istat", .obj d.istat)]

/-- The XML status tree: the hardware as an attribute, host name and serial as elements, then
the probe and outlet lists. -/
def xmlTree (d : Description) : Xml.Node :=
  .element "status" [("hardware", d.hardware)]
    [.element "hostname" [] [.text d.hostname], .element "serial" [] [.text d.serial],
     .element "probes" [] (d.probes.map ProbeEntry.xml),
     .element "outlets" [] (d.outlets.map OutletEntry.xml)]

/-- The XML status document, written with its texts escaped. -/
def xmlDoc (d : Description) : String := String.ofList d.xmlTree.render

/-- The controller's host name, serial number and hardware, trimmed. -/
def identity (d : Description) : Option String × Option String × Option String :=
  (Text.trimmed? d.hostname, Text.trimmed? d.serial, Text.trimmed? d.hardware)

/-- A description of distinct probes and outlets, with no blank text. -/
structure Distinct (d : Description) : Prop where
  nonBlank : ∀ s ∈ d.texts, Text.isBlankText s = false
  probeIds : (d.probes.map ProbeEntry.id).Nodup
  probeNames : (d.probes.map ProbeEntry.name).Nodup
  outletIds : (d.outlets.map OutletEntry.id).Nodup

/-- Texts made only of characters an XML document may hold. -/
def XmlChars (d : Description) : Prop := ∀ s ∈ d.texts, ∀ ch ∈ s.toList, Xml.isXmlChar ch

/-- Decided as a computation over the texts: a quantifier over characters would be decided by
running through all of them. -/
instance (d : Description) : Decidable d.XmlChars :=
  decidable_of_iff ((d.texts.all fun s => s.toList.all Xml.isXmlChar) = true)
    ⟨fun h s hs => List.all_eq_true.1 (List.all_eq_true.1 h s hs),
      fun h => List.all_eq_true.2 fun s hs => List.all_eq_true.2 (h s hs)⟩

/-- **A description all three endpoints can carry alike**: distinct, with probe device ids and
names still distinct once trimmed, outlet device ids with no blanks at their ends, and only
characters an XML document may hold. -/
structure Sound (d : Description) : Prop extends Distinct d where
  trimmedProbeIds : (d.probes.map fun p => Text.trim p.id).Nodup
  outletIdsTrimmed : ∀ o ∈ d.outlets, Text.trim o.id = o.id
  trimmedNames : (d.probes.map fun p => Text.trim p.name).Nodup
  xmlChars : d.XmlChars

end Description

/-! ## What a status reports -/

/-- What a status says of a probe: its name, type, value text and value. -/
def Probe.reading (e : Probe) : String × Option String × Option String × Option Float :=
  (e.name, e.kind, e.valueRaw, e.value)

/-- What a status says of an outlet: its device id, name, output id and state. -/
def Outlet.line (o : Outlet) : String × String × Option String × Option String :=
  (o.deviceId, o.name, o.outputId, o.state)

namespace Status

/-- The host name, serial number and hardware a status reports. -/
def identity (s : Status) : Option String × Option String × Option String :=
  (s.info.hostname, s.info.serial, s.info.hardware)

/-- The readings of a status's probes, in key order. -/
def readings (s : Status) : List (String × Option String × Option String × Option Float) :=
  s.probes.map fun e => e.2.reading

/-- The outlets of a status, in order. -/
def lines (s : Status) : List (String × String × Option String × Option String) :=
  s.outlets.map Outlet.line

/-- **Two statuses describe one controller**: the same host name, serial number and hardware, as
many probes with the same readings in some order, and the same outlets in the same order. -/
structure Agree (a b : Status) : Prop where
  identity : a.identity = b.identity
  probeCount : a.probes.length = b.probes.length
  readings : a.readings.Perm b.readings
  lines : a.lines = b.lines

end Status

/-- **A status reports a description**: its host name, serial number and hardware, its probes'
readings in some order and its outlets in order. -/
structure Description.Reports (d : Description) (s : Status) : Prop where
  identity : s.identity = d.identity
  readings : s.readings.Perm (d.probes.map ProbeEntry.reading)
  lines : s.lines = d.outlets.map OutletEntry.line

/-- Two statuses that report one description agree. -/
theorem Description.Reports.agree {d : Description} {a b : Status} (ha : d.Reports a)
    (hb : d.Reports b) : a.Agree b where
  identity := ha.identity.trans hb.identity.symm
  probeCount := by
    simpa [Status.readings] using (ha.readings.trans hb.readings.symm).length_eq
  readings := ha.readings.trans hb.readings.symm
  lines := ha.lines.trans hb.lines.symm

/-! ## Entries of the JSON documents -/

/-- A text that is not blank is a text reading. -/
theorem Text.trimmed?_filter (s : String) : (Text.trimmed? s).filter (!·.isEmpty) = Text.trimmed? s := by
  by_cases h : (Text.trim s).isEmpty <;> simp [Text.trimmed?, h]

/-- A probe entry reads as its probe whatever its device id and module keys, when its name is not
blank. -/
theorem ProbeEntry.probe_reading (p : ProbeEntry) (hname : Text.trimmed? p.name = some (Text.trim p.name))
    (did : String) (keys : Entry.ModuleKeys) : (Entry.probe p.fields did keys).reading = p.reading := by
  simp [Entry.probe, Probe.reading, ProbeEntry.reading, ProbeEntry.fields, List.lookup_cons,
    Json.scalarText?, Json.toNumber?, hname]

/-- An outlet entry reads as its outlet, with the output id found under the given keys. -/
theorem OutletEntry.outlet_line (o : OutletEntry) (hname : Text.trimmed? o.name = some (Text.trim o.name))
    (keys : Entry.ModuleKeys) (outputIdKeys : List String)
    (hout : Json.firstPresent o.fields outputIdKeys = some (.str o.outputId)) :
    (Entry.outlet o.fields o.id keys outputIdKeys).line = o.line := by
  simp only [Entry.outlet, Outlet.line, hout]
  simp [OutletEntry.line, OutletEntry.fields, List.lookup_cons, Json.scalarText?, Json.items?, hname]

/-- The output id of an outlet entry is found first under `ID` when it is not blank. -/
theorem OutletEntry.firstPresent_ID (o : OutletEntry) (h : Text.isBlankText o.outputId = false)
    (rest : List String) : Json.firstPresent o.fields ("ID" :: rest) = some (.str o.outputId) := by
  simp [Json.firstPresent, OutletEntry.fields, List.lookup_cons, Json.isMeaningful, h]

theorem Rest.deviceId_probe (p : ProbeEntry) {s : String} (h : Text.trimmed? p.id = some s) :
    Rest.deviceId p.fields = some s := by
  simp [Rest.deviceId, Entry.coerceId, Entry.valuesOf, Rest.idKeys, ProbeEntry.fields, Json.text?, h]

theorem Rest.deviceId_outlet (o : OutletEntry) (h : Text.trimmed? o.id = some o.id) :
    Rest.deviceId o.fields = some o.id := by
  simp [Rest.deviceId, Entry.coerceId, Entry.valuesOf, Rest.idKeys, OutletEntry.fields, List.lookup_cons,
    Json.text?, h]

namespace Description

variable {d : Description}

theorem mem_texts_of_probe {p : ProbeEntry} (hp : p ∈ d.probes) {s : String} (hs : s ∈ p.texts) :
    s ∈ d.texts := by
  simp only [texts, List.mem_append, List.mem_flatMap]
  exact .inl (.inr ⟨p, hp, hs⟩)

theorem mem_texts_of_outlet {o : OutletEntry} (ho : o ∈ d.outlets) {s : String} (hs : s ∈ o.texts) :
    s ∈ d.texts := by
  simp only [texts, List.mem_append, List.mem_flatMap]
  exact .inr ⟨o, ho, hs⟩

/-- The texts of a distinct description are not empty. -/
theorem Distinct.toList_ne_nil (hd : d.Distinct) {s : String} (hs : s ∈ d.texts) : s.toList ≠ [] := by
  intro hnil
  have h := hd.nonBlank s hs
  simp [Text.isBlankText, hnil] at h

/-- The texts of a distinct description are text readings. -/
theorem Distinct.trimmed?_eq (hd : d.Distinct) {s : String} (hs : s ∈ d.texts) :
    Text.trimmed? s = some (Text.trim s) :=
  Text.trimmed?_of_not_blank (hd.nonBlank s hs)

/-- The device id of a probe of a sound description reads as it is. -/
theorem Sound.outletId (hd : d.Sound) {o : OutletEntry} (ho : o ∈ d.outlets) :
    Text.trimmed? o.id = some o.id := by
  rw [hd.trimmed?_eq (mem_texts_of_outlet ho (by simp [OutletEntry.texts])), hd.outletIdsTrimmed o ho]

/-- Entries each found under a key of its probe: a probe for every entry. -/
theorem found_probes (getId : List (String × Json) → Option String) (key : ProbeEntry → String)
    (hid : ∀ p ∈ d.probes, getId p.fields = some (key p)) (keys : Entry.ModuleKeys) :
    (d.probes.map ProbeEntry.fields).filterMap (fun item =>
        (getId item).map fun did => (did, Entry.probe item did keys)) =
      d.probes.map fun p => (key p, Entry.probe p.fields (key p) keys) := by
  rw [List.filterMap_map, List.filterMap_eq_map_iff_forall_eq_some]
  intro p hp
  simp [hid p hp]

theorem found_outlets (getId : List (String × Json) → Option String)
    (hid : ∀ o ∈ d.outlets, getId o.fields = some o.id) (keys : Entry.ModuleKeys)
    (outputIdKeys : List String) :
    (d.outlets.map OutletEntry.fields).filterMap (fun item =>
        (getId item).map fun did => Entry.outlet item did keys outputIdKeys) =
      d.outlets.map fun o => Entry.outlet o.fields o.id keys outputIdKeys := by
  rw [List.filterMap_map, List.filterMap_eq_map_iff_forall_eq_some]
  intro o ho
  simp [hid o ho]

/-- **Probes under distinct keys report their readings**, in some order. -/
theorem readings_perm (hd : d.Distinct) (key : ProbeEntry → String) (hkey : (d.probes.map key).Nodup)
    (keys : Entry.ModuleKeys) :
    ((KeyedList.ofList (d.probes.map fun p => (key p, Entry.probe p.fields (key p) keys))).map
      fun e => e.2.reading).Perm (d.probes.map ProbeEntry.reading) := by
  have hkeys : ((d.probes.map fun p => (key p, Entry.probe p.fields (key p) keys)).map Prod.fst).Nodup := by
    simpa [List.map_map, Function.comp_def] using hkey
  refine ((KeyedList.ofList_perm _ hkeys).map _).trans (.of_eq ?_)
  rw [List.map_map]
  refine List.map_congr_left fun p hp => ?_
  exact ProbeEntry.probe_reading p (hd.trimmed?_eq (mem_texts_of_probe hp (by simp [ProbeEntry.texts]))) _ _

/-- **Outlets in order report their lines**, their output ids found first under `ID`. -/
theorem lines_eq (hd : d.Distinct) (keys : Entry.ModuleKeys) (rest : List String) :
    (d.outlets.map fun o => Entry.outlet o.fields o.id keys ("ID" :: rest)).map Outlet.line =
      d.outlets.map OutletEntry.line := by
  rw [List.map_map]
  refine List.map_congr_left fun o ho => ?_
  have hname := hd.trimmed?_eq (s := o.name) (mem_texts_of_outlet ho (by simp [OutletEntry.texts]))
  have hout := hd.nonBlank o.outputId (mem_texts_of_outlet ho (by simp [OutletEntry.texts]))
  exact OutletEntry.outlet_line o hname _ _ (OutletEntry.firstPresent_ID o hout rest)

/-! ## The REST document -/

theorem restDoc_system (d : Description) :
    d.restDoc.findObject "system" =
      some [("hardware", .str d.hardware), ("hostname", .str d.hostname), ("serial", .str d.serial)] := by
  simp [restDoc, Json.findObject, Json.find, Json.present?, List.lookup_cons, Json.fields?]

theorem restDoc_nstat (d : Description) : d.restDoc.findObject "nstat" = none := by
  simp [restDoc, Json.findObject, Json.find, Json.present?, List.lookup_cons, Json.containerKeys]

theorem restDoc_inputs (d : Description) :
    Rest.entries d.restDoc "inputs" "probes" = d.probes.map ProbeEntry.fields := by
  simp [Rest.entries, restDoc, Json.findArray, Json.find, Json.present?, List.lookup_cons,
    Json.items?, List.filterMap_map, Function.comp_def, Json.fields?]

theorem restDoc_outputs (d : Description) :
    Rest.entries d.restDoc "outputs" "outlets" = d.outlets.map OutletEntry.fields := by
  simp [Rest.entries, restDoc, Json.findArray, Json.find, Json.present?, List.lookup_cons,
    Json.items?, List.filterMap_map, Function.comp_def, Json.fields?]

/-- **The REST document reports its description**: the REST reader finds every probe and every
outlet by its device id. -/
theorem rest_reports (hd : d.Sound) : d.Reports (Rest.read d.restDoc) where
  identity := by
    simp [Status.identity, identity, Rest.read, Rest.info, Rest.textOf, restDoc_system, restDoc_nstat,
      List.lookup_cons, Json.scalarText?, Text.trimmed?_filter]
  readings := by
    rw [Status.readings, Rest.read, Rest.probes, restDoc_inputs,
      found_probes _ (fun p => Text.trim p.id) (fun p hp => Rest.deviceId_probe p
        (hd.trimmed?_eq (mem_texts_of_probe hp (by simp [ProbeEntry.texts]))))]
    exact readings_perm hd.toDistinct _ hd.trimmedProbeIds _
  lines := by
    rw [Status.lines, Rest.read, Rest.outlets, restDoc_outputs,
      found_outlets _ (fun o ho => Rest.deviceId_outlet o (hd.outletId ho))]
    exact lines_eq hd.toDistinct _ _

/-! ## The legacy document -/

theorem legacyDoc_root (d : Description) : d.legacyDoc.fields?.getD [] = [("istat", .obj d.istat)] :=
  rfl

theorem legacyDoc_istat (d : Description) :
    (((d.legacyDoc.fields?.getD []).lookup "istat").bind Json.fields?).getD [] = d.istat :=
  rfl

theorem istat_inputs (d : Description) :
    Legacy.entries d.istat "inputs" = d.probes.map ProbeEntry.fields := by
  simp [Legacy.entries, istat, List.lookup_cons, Json.items?, List.filterMap_map, Function.comp_def,
    Json.fields?]

theorem istat_outputs (d : Description) :
    Legacy.entries d.istat "outputs" = d.outlets.map OutletEntry.fields := by
  simp [Legacy.entries, istat, List.lookup_cons, Json.items?, List.filterMap_map, Function.comp_def,
    Json.fields?]

/-- The device id of an entry of a distinct description is no empty text. -/
theorem Distinct.isEmpty_eq (hd : d.Distinct) {s : String} (hs : s ∈ d.texts) : s.isEmpty = false := by
  have hne := hd.toList_ne_nil hs
  rw [Bool.eq_false_iff, ne_eq, String.isEmpty_iff]
  rintro rfl
  exact hne rfl

theorem Legacy.did_probe (p : ProbeEntry) (h : p.id.isEmpty = false) : Legacy.did p.fields = some p.id := by
  simp [Legacy.did, ProbeEntry.fields, Json.str?, h]

theorem Legacy.did_outlet (o : OutletEntry) (h : o.id.isEmpty = false) : Legacy.did o.fields = some o.id := by
  simp [Legacy.did, OutletEntry.fields, List.lookup_cons, Json.str?, h]

/-- **The legacy document reports its description**: the legacy reader finds every probe and
every outlet by its `did`. -/
theorem legacy_reports (hd : d.Sound) : d.Reports (Legacy.read d.legacyDoc) where
  identity := by
    simp only [Status.identity, identity, Legacy.read, legacyDoc_root]
    simp [istat, Legacy.serial, Legacy.serialOf, List.lookup_cons, Json.fields?, Json.scalarText?,
      Json.text?, Text.trimmed?_filter, List.filterMap_cons, -List.filterMap_cons_none,
      -List.filterMap_cons_some]
  readings := by
    rw [Status.readings, Legacy.read]
    simp only [legacyDoc_istat, istat_inputs]
    rw [found_probes _ ProbeEntry.id (fun p hp => Legacy.did_probe p
      (hd.isEmpty_eq (mem_texts_of_probe hp (by simp [ProbeEntry.texts]))))]
    exact readings_perm hd.toDistinct _ hd.probeIds _
  lines := by
    rw [Status.lines, Legacy.read]
    simp only [legacyDoc_istat, istat_outputs]
    rw [found_outlets _ (fun o ho => Legacy.did_outlet o
      (hd.isEmpty_eq (mem_texts_of_outlet ho (by simp [OutletEntry.texts]))))]
    exact lines_eq hd.toDistinct _ _

/-! ## The XML document -/

theorem text_printable (hd : d.Distinct) (hx : d.XmlChars) {s : String} (hs : s ∈ d.texts) :
    (Xml.Node.text s).Printable :=
  ⟨hd.toList_ne_nil hs, hx s hs⟩

/-- An element holding one text is printable when its name is plain and its text printable. -/
theorem field_printable {tag : String} (htag : Xml.plainName tag.toList) {s : String}
    (hs : (Xml.Node.text s).Printable) : (Xml.Node.element tag [] [.text s]).Printable :=
  ⟨htag, ⟨List.nodup_nil, by simp⟩, hs, trivial, by simp⟩

/-- Elements side by side are printable children when each is printable. -/
theorem kidsPrintable_of_elements : ∀ (ks : List Xml.Node),
    (∀ k ∈ ks, k.Printable ∧ k.isText = false) → Xml.KidsPrintable ks
  | [], _ => trivial
  | k :: ks, h =>
    ⟨(h k List.mem_cons_self).1,
      kidsPrintable_of_elements ks fun k' hk' => h k' (List.mem_cons_of_mem _ hk'),
      fun ht => absurd ht (by simp [(h k List.mem_cons_self).2])⟩

theorem probe_printable (hd : d.Distinct) (hx : d.XmlChars) {p : ProbeEntry} (hp : p ∈ d.probes) : p.xml.Printable := by
  have hf : ∀ s ∈ p.texts, (Xml.Node.text s).Printable := fun s hs =>
    text_printable hd hx (mem_texts_of_probe hp hs)
  refine ⟨by decide, ⟨List.nodup_nil, by simp⟩, kidsPrintable_of_elements _ ?_⟩
  simp only [List.mem_cons, List.not_mem_nil, or_false]
  rintro k (rfl | rfl | rfl) <;>
    exact ⟨field_printable (by decide) (hf _ (by simp [ProbeEntry.texts])), rfl⟩

theorem outlet_printable (hd : d.Distinct) (hx : d.XmlChars) {o : OutletEntry} (ho : o ∈ d.outlets) : o.xml.Printable := by
  have hf : ∀ s ∈ o.texts, (Xml.Node.text s).Printable := fun s hs =>
    text_printable hd hx (mem_texts_of_outlet ho hs)
  refine ⟨by decide, ⟨List.nodup_nil, by simp⟩, kidsPrintable_of_elements _ ?_⟩
  simp only [List.mem_cons, List.not_mem_nil, or_false]
  rintro k (rfl | rfl | rfl | rfl) <;>
    exact ⟨field_printable (by decide) (hf _ (by simp [OutletEntry.texts])), rfl⟩

/-- The XML tree of a sound description can be written and read back. -/
theorem xmlTree_printable (hd : d.Distinct) (hx : d.XmlChars) : d.xmlTree.Printable := by
  have hroot : ∀ s ∈ [d.hostname, d.serial, d.hardware], s ∈ d.texts := by
    intro s hs
    simp only [texts, List.mem_append]
    exact .inl (.inl hs)
  refine ⟨by decide, ⟨by simp, ?_⟩, kidsPrintable_of_elements _ ?_⟩
  · simp only [List.mem_cons, List.not_mem_nil, or_false, forall_eq]
    exact ⟨(by decide : Xml.plainName "hardware".toList), (by decide : "hardware" ≠ "xmlns"), hx _ (hroot _ (by simp))⟩
  · simp only [List.mem_cons, List.not_mem_nil, or_false]
    rintro k (rfl | rfl | rfl | rfl)
    · exact ⟨field_printable (by decide) (text_printable hd hx (hroot _ (by simp))), rfl⟩
    · exact ⟨field_printable (by decide) (text_printable hd hx (hroot _ (by simp))), rfl⟩
    · refine ⟨⟨by decide, ⟨List.nodup_nil, by simp⟩, kidsPrintable_of_elements _ ?_⟩, rfl⟩
      simp only [List.mem_map]
      rintro _ ⟨p, hp, rfl⟩
      exact ⟨probe_printable hd hx hp, rfl⟩
    · refine ⟨⟨by decide, ⟨List.nodup_nil, by simp⟩, kidsPrintable_of_elements _ ?_⟩, rfl⟩
      simp only [List.mem_map]
      rintro _ ⟨o, ho, rfl⟩
      exact ⟨outlet_printable hd hx ho, rfl⟩

/-- **The XML document of a sound description reads as its tree.** -/
theorem read_xmlDoc (hd : d.Distinct) (hx : d.XmlChars) : Xml.read d.xmlDoc = .ok d.xmlTree :=
  Xml.read_render _ (xmlTree_printable hd hx) rfl

theorem xmlTree_probes (d : Description) :
    Markup.entries d.xmlTree "probes" "probe" = d.probes.map ProbeEntry.xml := by
  simp [Markup.entries, xmlTree, Xml.Node.childrenNamed, List.filter_map, Function.comp_def,
    ProbeEntry.xml]

theorem xmlTree_outlets (d : Description) :
    Markup.entries d.xmlTree "outlets" "outlet" = d.outlets.map OutletEntry.xml := by
  simp [Markup.entries, xmlTree, Xml.Node.childrenNamed, List.filter_map, Function.comp_def,
    OutletEntry.xml]

theorem markup_identity (d : Description) : (Markup.ofRoot d.xmlTree).identity = d.identity := by
  simp [Status.identity, identity, Markup.ofRoot, Markup.childText, xmlTree, Xml.Node.childrenNamed,
    Xml.Node.text?, Xml.Node.attr?]

/-- The XML reader keys each probe by its trimmed name. -/
theorem markup_probes (hd : d.Distinct) :
    (Markup.ofRoot d.xmlTree).probes =
      KeyedList.ofList (d.probes.map fun p => (Text.trim p.name,
        ({ name := Text.trim p.name, kind := Text.trimmed? p.kind, valueRaw := Text.trimmed? p.value
           value := readDecimal? p.value } : Probe))) := by
  simp only [Markup.ofRoot, xmlTree_probes, List.filterMap_map]
  congr 1
  refine List.filterMap_eq_map_iff_forall_eq_some.2 fun p hp => ?_
  have ht : ∀ s ∈ p.texts, Text.trimmed? s = some (Text.trim s) := fun s hs =>
    hd.trimmed?_eq (mem_texts_of_probe hp hs)
  simp [Markup.childText, ProbeEntry.xml, Xml.Node.childrenNamed, Xml.Node.text?,
    ht p.name (by simp [ProbeEntry.texts]), ht p.value (by simp [ProbeEntry.texts]), readDecimal?_trim]

/-- The XML reader takes each outlet's device id from its `deviceID`. -/
theorem markup_lines (hd : d.Sound) :
    (Markup.ofRoot d.xmlTree).lines = d.outlets.map OutletEntry.line := by
  simp only [Status.lines, Markup.ofRoot, xmlTree_outlets, List.filterMap_map, List.map_filterMap]
  refine List.filterMap_eq_map_iff_forall_eq_some.2 fun o ho => ?_
  have ht : ∀ s ∈ o.texts, Text.trimmed? s = some (Text.trim s) := fun s hs =>
    hd.trimmed?_eq (mem_texts_of_outlet ho hs)
  simp [Markup.childText, OutletEntry.xml, Xml.Node.childrenNamed, Xml.Node.text?, Outlet.line,
    OutletEntry.line, ht o.name (by simp [OutletEntry.texts]), hd.outletId ho]

/-- **The XML document reports its description**: the XML reader keys the probes by their
trimmed names, distinct in a sound description, and finds every outlet's device id. -/
theorem markup_reports (hd : d.Sound) : d.Reports (Markup.ofRoot d.xmlTree) where
  identity := markup_identity d
  readings := by
    rw [Status.readings, markup_probes hd.toDistinct]
    refine ((KeyedList.ofList_perm _ ?_).map _).trans (.of_eq ?_)
    · simpa [List.map_map, Function.comp_def] using hd.trimmedNames
    · simp [Probe.reading, ProbeEntry.reading]
  lines := markup_lines hd

/-! ## The documents as texts -/

theorem probe_writable {room : Nat} (hroom : 1 < room) (p : ProbeEntry) : Json.Writable room (.obj p.fields) := by
  refine ⟨hroom, by simp only [ProbeEntry.fields, List.map_cons, List.map_nil]; decide, ?_⟩
  simp [Json.fieldsWritable_iff, ProbeEntry.fields, Json.Writable]

theorem outlet_writable {room : Nat} (hroom : 2 < room) (o : OutletEntry) :
    Json.Writable room (.obj o.fields) := by
  refine ⟨by omega, by simp only [OutletEntry.fields, List.map_cons, List.map_nil]; decide, ?_⟩
  simp [Json.fieldsWritable_iff, Json.itemsWritable_iff, OutletEntry.fields, Json.Writable]
  omega

/-- The probe and outlet lists of a JSON status can be written and read back. -/
theorem entries_writable (d : Description) (room : Nat) (hroom : 3 < room) :
    Json.Writable room (.arr (d.probes.map fun p => .obj p.fields)) ∧
      Json.Writable room (.arr (d.outlets.map fun o => .obj o.fields)) := by
  refine ⟨⟨by omega, Json.itemsWritable_iff.2 ?_⟩, ⟨by omega, Json.itemsWritable_iff.2 ?_⟩⟩
  · simp only [List.mem_map]
    rintro _ ⟨p, -, rfl⟩
    exact probe_writable (by omega) p
  · simp only [List.mem_map]
    rintro _ ⟨o, -, rfl⟩
    exact outlet_writable (by omega) o

theorem restDoc_writable (d : Description) : Json.Writable 128 d.restDoc := by
  refine ⟨by decide, by simp only [List.map_cons, List.map_nil]; decide, ?_⟩
  obtain ⟨hp, ho⟩ := entries_writable d 127 (by decide)
  refine Json.fieldsWritable_iff.2 fun f hf => ?_
  simp only [List.mem_cons, List.not_mem_nil, or_false] at hf
  rcases hf with rfl | rfl | rfl
  · exact hp
  · exact ho
  · refine ⟨by decide, by simp only [List.map_cons, List.map_nil]; decide, ?_⟩
    simp [Json.fieldsWritable_iff, Json.Writable]

theorem legacyDoc_writable (d : Description) : Json.Writable 128 d.legacyDoc := by
  refine ⟨by decide, by simp, ?_⟩
  refine Json.fieldsWritable_iff.2 fun f hf => ?_
  simp only [List.mem_cons, List.not_mem_nil, or_false] at hf
  subst hf
  obtain ⟨hp, ho⟩ := entries_writable d 126 (by decide)
  refine ⟨by decide, by simp only [istat, List.map_cons, List.map_nil]; decide, ?_⟩
  refine Json.fieldsWritable_iff.2 fun f hf => ?_
  simp only [istat, List.mem_cons, List.not_mem_nil, or_false] at hf
  rcases hf with rfl | rfl | rfl | rfl | rfl
  · trivial
  · trivial
  · exact hp
  · exact ho
  · trivial

end Description

/-- The text of a writable object reads as the object. -/
theorem readJsonObject_render {v : Json} (h : Json.Writable 128 v) (hobj : v.isObj = true) :
    readJsonObject (Json.render v) = .ok v := by
  cases v with
  | obj fs =>
    have hblank : Text.isBlankText (Json.render (.obj fs)) = false := by
      simp only [Text.isBlankText, Json.render_obj, List.all_cons]
      simp [Text.isBlank]
    simp [readJsonObject, hblank, Json.read_render _ h, Json.isObj]
  | _ => simp [Json.isObj] at hobj

/-- What a status reports stays when its Trident readings are derived. -/
theorem Description.Reports.withTrident {d : Description} {s : Status} (h : d.Reports s) (t : Trident) :
    d.Reports { s with trident := t } :=
  ⟨h.identity, h.readings, h.lines⟩

namespace Description

variable {d : Description}

theorem readStatus_restDoc (d : Description) :
    readStatus .rest (Json.render d.restDoc) =
      .ok { Rest.read d.restDoc with trident := (Rest.read d.restDoc).trident.finalize } := by
  simp [readStatus, readJsonObject_render d.restDoc_writable rfl, Except.map, bind, Except.bind,
    pure, Except.pure]

theorem readStatus_legacyDoc (d : Description) :
    readStatus .cgiJson (Json.render d.legacyDoc) =
      .ok { Legacy.read d.legacyDoc with trident := (Legacy.read d.legacyDoc).trident.finalize } := by
  simp [readStatus, readJsonObject_render d.legacyDoc_writable rfl, Except.map, bind, Except.bind,
    pure, Except.pure]

theorem readStatus_xmlDoc (hd : d.Distinct) (hx : d.XmlChars) :
    readStatus .xml d.xmlDoc =
      .ok { Markup.ofRoot d.xmlTree with trident := (Markup.ofRoot d.xmlTree).trident.finalize } := by
  simp [readStatus, read_xmlDoc hd hx, bind, Except.bind, pure, Except.pure]

/-- **Each endpoint's text reports its description**: the REST and legacy JSON texts and the XML
document of a sound description read as statuses that report it. -/
theorem readStatus_reports (hd : d.Sound) :
    (∃ s, readStatus .rest (Json.render d.restDoc) = .ok s ∧ d.Reports s) ∧
      (∃ s, readStatus .cgiJson (Json.render d.legacyDoc) = .ok s ∧ d.Reports s) ∧
      (∃ s, readStatus .xml d.xmlDoc = .ok s ∧ d.Reports s) := by
  exact ⟨⟨_, readStatus_restDoc d, (rest_reports hd).withTrident _⟩,
    ⟨_, readStatus_legacyDoc d, (legacy_reports hd).withTrident _⟩,
    ⟨_, readStatus_xmlDoc hd.toDistinct hd.xmlChars, (markup_reports hd).withTrident _⟩⟩

/-- **The three endpoints agree** on a sound description: the statuses read from its REST text,
its legacy JSON text and its XML document have the same host name, serial number and hardware, as
many probes with the same readings, and the same outlets in the same order. -/
theorem endpoints_agree (d : Description) (hd : d.Sound) :
    ∃ r c x, readStatus .rest (Json.render d.restDoc) = .ok r ∧
      readStatus .cgiJson (Json.render d.legacyDoc) = .ok c ∧ readStatus .xml d.xmlDoc = .ok x ∧
      r.Agree c ∧ c.Agree x ∧ r.Agree x := by
  obtain ⟨⟨r, hr, hrd⟩, ⟨c, hc, hcd⟩, ⟨x, hx, hxd⟩⟩ := readStatus_reports hd
  exact ⟨r, c, x, hr, hc, hx, hrd.agree hcd, hcd.agree hxd, hrd.agree hxd⟩

/-- A controller with one probe and one outlet. -/
def tank : Description :=
  { hostname := "reef", serial := "AC5:12345", hardware := "1.0"
    probes := [⟨"base_Temp", "Tmp", "Temp", "25.4"⟩]
    outlets := [⟨"2_1", "Heater", "2", "AON"⟩] }

theorem endpoints_agree_tank : tank.Sound ∧
    ∃ r c x, readStatus .rest (Json.render tank.restDoc) = .ok r ∧
      readStatus .cgiJson (Json.render tank.legacyDoc) = .ok c ∧ readStatus .xml tank.xmlDoc = .ok x ∧
      r.Agree c ∧ c.Agree x ∧ r.Agree x := by
  have hs : tank.Sound :=
    { nonBlank := by decide +kernel, probeIds := by decide +kernel, probeNames := by decide +kernel
      outletIds := by decide +kernel, trimmedProbeIds := by decide +kernel
      outletIdsTrimmed := by decide +kernel, trimmedNames := by decide +kernel
      xmlChars := by decide }
  exact ⟨hs, endpoints_agree tank hs⟩

/-- Two probes whose device ids and names differ by a leading blank only. -/
def paddedProbes : Description :=
  { hostname := "reef", serial := "AC5:12345", hardware := "1.0"
    probes := [⟨"a", "p", "Temp", "1"⟩, ⟨" a", " p", "Temp", "2"⟩]
    outlets := [] }

theorem paddedProbes_counts : paddedProbes.Distinct ∧ paddedProbes.XmlChars ∧
    ∃ r c x, readStatus .rest (Json.render paddedProbes.restDoc) = .ok r ∧
      readStatus .cgiJson (Json.render paddedProbes.legacyDoc) = .ok c ∧
      readStatus .xml paddedProbes.xmlDoc = .ok x ∧
      r.probes.length = 1 ∧ c.probes.length = 2 ∧ x.probes.length = 1 := by
  have hd : paddedProbes.Distinct :=
    ⟨by decide +kernel, by decide +kernel, by decide +kernel, by decide +kernel⟩
  have hx : paddedProbes.XmlChars := by decide
  refine ⟨hd, hx, _, _, _, readStatus_restDoc _, readStatus_legacyDoc _, readStatus_xmlDoc hd hx, ?_, ?_, ?_⟩
  · decide +kernel
  · decide +kernel
  · decide +kernel

end Description


end ReefLink
