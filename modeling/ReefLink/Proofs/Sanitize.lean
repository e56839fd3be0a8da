import ReefLink.Config.Snapshot
import ReefLink.Payload.Module
import Mathlib.Data.List.Forall2
/-!
# What a configuration snapshot reads

The controller's configuration is large and holds secrets: Wi-Fi keys, mail passwords, PINs, and
extra settings of every kind. A snapshot reads little of it, and `ConfigView` is exactly that
little: whether `mconf` is an array and which of its items are objects; of each object its
`hwtype`, `hwType`, `abaddr`, `name`, `update` and `updateStat`, and, when its `extra` is an
object, that object's `wasteSize` and `status`; and, when `nconf` is an object, its
`latestFirmware` and `updateFirmware`.

`Snapshot.ofPayload_eq_of_view` is the noninterference law: two payloads with one view give one
snapshot, so no other field can reach the sanitized modules, the firmware fields or the MXM
devices. Each reading the sanitizer makes of a module is shown to depend on the module's view
alone, and the module lists of two payloads of one view are walked in step (`SameViews`).
-/

namespace ReefLink

/-- **What sanitizing reads of a module entry**: the values, or absence, of its identity and update
fields, and, when its `extra` is an object, of that object's `wasteSize` and `status`. -/
structure ModuleView where
  hwtype : Option Json
  hwType : Option Json
  abaddr : Option Json
  name : Option Json
  update : Option Json
  updateStat : Option Json
  extra : Option (Option Json × Option Json)

/-- The view of a module entry. -/
def ModuleView.of (m : ModuleFields) : ModuleView where
  hwtype := m.lookup "hwtype"
  hwType := m.lookup "hwType"
  abaddr := m.lookup "abaddr"
  name := m.lookup "name"
  update := m.lookup "update"
  updateStat := m.lookup "updateStat"
  extra := ((m.lookup "extra").bind Json.fields?).map fun e => (e.lookup "wasteSize", e.lookup "status")

/-- **What a snapshot reads of a configuration payload**: when `mconf` is an array, the view of each
item that is an object and `none` for the others; when `nconf` is an object, its two firmware
fields. -/
structure ConfigView where
  mconf : Option (List (Option ModuleView))
  nconf : Option (Option Json × Option Json)

/-- The view of a configuration payload. -/
def ConfigView.of (payload : Json) : ConfigView where
  mconf := ((payload.get? "mconf").bind Json.items?).map (·.map fun v => v.fields?.map ModuleView.of)
  nconf := ((payload.get? "nconf").bind Json.fields?).map fun n =>
    (n.lookup "latestFirmware", n.lookup "updateFirmware")

/-- Two lists of module entries in step, each entry of the first with the view of the one beside
it. -/
def SameViews (l l' : List ModuleFields) : Prop :=
  List.Forall₂ (fun m m' => ModuleView.of m = ModuleView.of m') l l'

namespace ModuleView

variable {m m' : ModuleFields}

theorem hwtype_eq (h : ModuleView.of m = ModuleView.of m') :
    m.lookup "hwtype" = m'.lookup "hwtype" := congrArg ModuleView.hwtype h

theorem hwType_eq (h : ModuleView.of m = ModuleView.of m') :
    m.lookup "hwType" = m'.lookup "hwType" := congrArg ModuleView.hwType h

/-- The extra settings of two modules of one view: both no object, or two objects that agree on
the waste size and the status. -/
theorem extra_cases (h : ModuleView.of m = ModuleView.of m') :
    ((m.lookup "extra").bind Json.fields? = none ∧ (m'.lookup "extra").bind Json.fields? = none) ∨
      ∃ e e', (m.lookup "extra").bind Json.fields? = some e ∧
        (m'.lookup "extra").bind Json.fields? = some e' ∧
        e.lookup "wasteSize" = e'.lookup "wasteSize" ∧ e.lookup "status" = e'.lookup "status" := by
  have hx := congrArg ModuleView.extra h
  simp only [ModuleView.of] at hx
  cases he : (m.lookup "extra").bind Json.fields? <;>
    cases he' : (m'.lookup "extra").bind Json.fields? <;> simp_all

/-- The first meaningful type of a module is read from the type fields alone. -/
theorem firstPresent_hwtype_eq (h : ModuleView.of m = ModuleView.of m') :
    Json.firstPresent m ["hwtype", "hwType"] = Json.firstPresent m' ["hwtype", "hwType"] := by
  simp only [Json.firstPresent, List.filterMap_cons, List.filterMap_nil, hwtype_eq h, hwType_eq h]

end ModuleView

/-- What a status text field of an `extra` value is, read from the object alone. -/
theorem Json.get?_status_eq (x : Option Json) :
    x.bind (·.get? "status") = (x.bind Json.fields?).bind (·.lookup "status") := by
  rcases x with _ | (_ | _ | _ | _ | _ | fs) <;> rfl

/-- **A module's configuration is read from its view.** -/
theorem ModuleConfig.ofEntry?_congr {m m' : ModuleFields} (h : ModuleView.of m = ModuleView.of m') :
    ModuleConfig.ofEntry? m = ModuleConfig.ofEntry? m' := by
  have hv := h
  simp only [ModuleView.of, ModuleView.mk.injEq] at hv
  obtain ⟨-, -, habaddr, hname, hupdate, hstat, -⟩ := hv
  unfold ModuleConfig.ofEntry?
  rw [ModuleView.firstPresent_hwtype_eq h, habaddr, hname, hupdate, hstat]
  -- the extra settings: no object on either side, or objects that agree on what is kept
  rcases ModuleView.extra_cases h with ⟨he, he'⟩ | ⟨e, e', he, he', hw, hs⟩
  · simp only [Option.bind_eq_bind, he, he']
  · simp only [Option.bind_eq_bind, he, he', Option.map_some, hw, hs]

/-- Whether a module is an MXM module is read from its view. -/
theorem isMxmEntry_congr {m m' : ModuleFields} (h : ModuleView.of m = ModuleView.of m') :
    isMxmEntry m = isMxmEntry m' := by
  simp only [isMxmEntry, Json.firstPresent, List.filterMap_cons, List.filterMap_nil,
    ModuleView.hwtype_eq h]

/-- The status text of a module's extra settings is read from its view. -/
theorem statusText_congr {m m' : ModuleFields} (h : ModuleView.of m = ModuleView.of m') :
    ((m.lookup "extra").bind (·.get? "status")).bind Json.str? =
      ((m'.lookup "extra").bind (·.get? "status")).bind Json.str? := by
  rw [Json.get?_status_eq, Json.get?_status_eq]
  rcases ModuleView.extra_cases h with ⟨he, he'⟩ | ⟨e, e', he, he', -, hs⟩
  · rw [he, he']
  · rw [he, he', Option.bind_some, Option.bind_some, hs]

/-- Filtering module lists in step by a reading of views gives one list. -/
theorem SameViews.filterMap_eq {β : Type} {F : ModuleFields → Option β}
    (hF : ∀ m m', ModuleView.of m = ModuleView.of m' → F m = F m') {l l' : List ModuleFields}
    (h : SameViews l l') : l.filterMap F = l'.filterMap F := by
  have hrel : ∀ m m', ModuleView.of m = ModuleView.of m' → Option.Rel Eq (F m) (F m') := by
    intro m m' hm
    rw [hF m m' hm]
    cases F m' <;> simp
  rw [← List.forall₂_eq_eq_eq]
  exact List.rel_filterMap hrel h

/-- Folding module lists in step by a step that reads views gives one result. -/
theorem SameViews.foldl_eq {β : Type} {g : β → ModuleFields → β}
    (hg : ∀ acc m m', ModuleView.of m = ModuleView.of m' → g acc m = g acc m')
    {l l' : List ModuleFields} (h : SameViews l l') (acc : β) : l.foldl g acc = l'.foldl g acc :=
  List.rel_foldl (fun a _ ha m m' hm => ha ▸ hg a m m' hm) rfl h

/-- The module entries of a payload's `mconf`, empty when it is no array. -/
def mconfEntries (payload : Json) : List ModuleFields :=
  match payload.get? "mconf" with
  | some entries => entries.objects
  | none => []

/-- **Payloads of one view list their modules in step.** -/
theorem ConfigView.sameViews {p q : Json} (h : (ConfigView.of p).mconf = (ConfigView.of q).mconf) :
    SameViews (mconfEntries p) (mconfEntries q) := by
  have hitems : ∀ x : Json, mconfEntries x = (((x.get? "mconf").bind Json.items?).getD []).filterMap
      Json.fields? := by
    intro x
    unfold mconfEntries
    rcases x.get? "mconf" with _ | (_ | _ | _ | _ | xs | _) <;> rfl
  rw [hitems p, hitems q]
  -- items of one view are object by object in step, and the others are dropped on both sides
  have hstep : ∀ xs ys : List Json, xs.map (fun v => v.fields?.map ModuleView.of) =
      ys.map (fun v => v.fields?.map ModuleView.of) → SameViews (xs.filterMap Json.fields?)
        (ys.filterMap Json.fields?) := by
    intro xs ys hxy
    have h₂ : List.Forall₂ (· = ·) (xs.map fun v => v.fields?.map ModuleView.of)
        (ys.map fun v => v.fields?.map ModuleView.of) := by
      rw [List.forall₂_eq_eq_eq]
      exact hxy
    rw [List.forall₂_map_left_iff, List.forall₂_map_right_iff] at h₂
    refine List.rel_filterMap (fun x y hxy => ?_) h₂
    cases hx : x.fields? <;> cases hy : y.fields? <;> simp_all
  simp only [ConfigView.of] at h
  cases hp : (p.get? "mconf").bind Json.items? <;> cases hq : (q.get? "mconf").bind Json.items? <;>
    simp only [hp, hq, Option.map_none, Option.map_some, reduceCtorEq, Option.some.injEq] at h
  · exact .nil
  · exact hstep _ _ h

theorem ModuleConfig.listOf_eq (p : Json) :
    ModuleConfig.listOf p = (mconfEntries p).filterMap ModuleConfig.ofEntry? := by
  unfold ModuleConfig.listOf mconfEntries
  cases p.get? "mconf" <;> rfl

/-- **The module configurations of a payload are read from its view.** -/
theorem ModuleConfig.listOf_congr {p q : Json}
    (h : (ConfigView.of p).mconf = (ConfigView.of q).mconf) :
    ModuleConfig.listOf p = ModuleConfig.listOf q := by
  rw [ModuleConfig.listOf_eq, ModuleConfig.listOf_eq]
  exact (ConfigView.sameViews h).filterMap_eq fun _ _ => ModuleConfig.ofEntry?_congr

/-- The MXM devices of a payload, collected module entry by module entry. -/
theorem MxmDevice.listOf_eq (p : Json) :
    MxmDevice.listOf p = (mconfEntries p).foldl (fun acc m =>
      if isMxmEntry m then
        match ((m.lookup "extra").bind (·.get? "status")).bind Json.str? with
        | some text => addDevices acc text
        | none => acc
      else acc) [] := by
  unfold MxmDevice.listOf mconfEntries
  cases p.get? "mconf" <;> rfl

/-- **The MXM devices of a payload are read from its view.** -/
theorem MxmDevice.listOf_congr {p q : Json}
    (h : (ConfigView.of p).mconf = (ConfigView.of q).mconf) :
    MxmDevice.listOf p = MxmDevice.listOf q := by
  rw [MxmDevice.listOf_eq, MxmDevice.listOf_eq]
  refine (ConfigView.sameViews h).foldl_eq (fun acc m m' hm => ?_) []
  rw [isMxmEntry_congr hm, statusText_congr hm]

/-- **The firmware fields of a payload are read from its view.** -/
theorem NetworkConfig.ofPayload?_congr {p q : Json}
    (h : (ConfigView.of p).nconf = (ConfigView.of q).nconf) :
    NetworkConfig.ofPayload? p = NetworkConfig.ofPayload? q := by
  simp only [ConfigView.of] at h
  unfold NetworkConfig.ofPayload?
  cases hp : (p.get? "nconf").bind Json.fields? <;> cases hq : (q.get? "nconf").bind Json.fields? <;>
    simp_all

/-- **Sanitizing reads nothing but the view.** Two configuration payloads that agree on what
`ConfigView` keeps give one snapshot: no other field of the configuration (a Wi-Fi key, a mail
password, a PIN, any other extra setting) reaches the sanitized modules, the firmware fields or
the MXM devices, nor, through the cache, any status. -/
theorem Snapshot.ofPayload_eq_of_view (p q : Json) (h : ConfigView.of p = ConfigView.of q) :
    Snapshot.ofPayload p = Snapshot.ofPayload q := by
  have hm := congrArg ConfigView.mconf h
  have hn := congrArg ConfigView.nconf h
  unfold Snapshot.ofPayload
  rw [ModuleConfig.listOf_congr hm, NetworkConfig.ofPayload?_congr hn, MxmDevice.listOf_congr hm]

/-- A Trident's PIN and a Wi-Fi password never reach the snapshot: two payloads that differ only
there give one snapshot. -/
theorem Snapshot.ofPayload_hides_secrets :
    ConfigView.of (.obj [("mconf", .arr [.obj [("abaddr", .num (.int 5)),
        ("extra", .obj [("pin", .str "1234"), ("wasteSize", .num (.int 450))]), ("hwtype", .str "tri")]]),
      ("nconf", .obj [("latestFirmware", .str "5.12"), ("wifiPassword", .str "hunter2")])]) =
    ConfigView.of (.obj [("mconf", .arr [.obj [("abaddr", .num (.int 5)),
        ("extra", .obj [("pin", .str "0000"), ("wasteSize", .num (.int 450))]), ("hwtype", .str "tri")]]),
      ("nconf", .obj [("latestFirmware", .str "5.12"), ("wifiPassword", .str "swordfish")])]) ∧
    Snapshot.ofPayload (.obj [("mconf", .arr [.obj [("abaddr", .num (.int 5)),
        ("extra", .obj [("pin", .str "1234"), ("wasteSize", .num (.int 450))]), ("hwtype", .str "tri")]]),
      ("nconf", .obj [("latestFirmware", .str "5.12"), ("wifiPassword", .str "hunter2")])]) =
    Snapshot.ofPayload (.obj [("mconf", .arr [.obj [("abaddr", .num (.int 5)),
        ("extra", .obj [("pin", .str "0000"), ("wasteSize", .num (.int 450))]), ("hwtype", .str "tri")]]),
      ("nconf", .obj [("latestFirmware", .str "5.12"), ("wifiPassword", .str "swordfish")])]) :=
  ⟨rfl, Snapshot.ofPayload_eq_of_view _ _ rfl⟩

end ReefLink
