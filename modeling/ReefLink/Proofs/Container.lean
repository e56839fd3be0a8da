import ReefLink.Payload.Rest
/-!
# Reading a REST status through a container

Firmware versions put a REST status either at the top of the payload or one level down, under one
of the containers `data`, `status`, `istat`, `systat` and `result`. The REST reader finds every
section with `Json.find`, never with a lookup of its own, so it reads a payload wrapped in a
container as it reads the payload.

`Rest.read_eq_of_find` says the reader sees a payload only through `find`, at keys that are no
container keys: each section is read so (`probes_congr`, `outlets_congr`, `feed_congr`,
`alerts_congr`, `TridentModule.ofPayload_congr`). `Json.find_container` says one container is
transparent to `find`, and `Rest.read_container` puts the two together.
-/

namespace ReefLink

namespace Json

/-- An object with no container key finds a key among its own fields, `null` counting as absent. -/
theorem find_obj_of_no_container {fs : List (String × Json)}
    (hfs : ∀ ck ∈ containerKeys, fs.lookup ck = none) (k : String) :
    find (.obj fs) k = present? fs k := by
  simp only [find]
  cases h : present? fs k with
  | some v => rfl
  | none =>
    refine List.findSome?_eq_none_iff.2 fun ck hck => ?_
    rw [hfs ck hck]

/-- **One container is transparent**: in `{c: {fs}}`, a key that is no container key is found among
the fields `fs`. -/
theorem find_container {c k : String} (hc : c ∈ containerKeys) (hk : k ∉ containerKeys)
    (fs : List (String × Json)) : find (.obj [(c, .obj fs)]) k = present? fs k := by
  have hkc : (k == c) = false := beq_eq_false_iff_ne.2 fun h => hk (h ▸ hc)
  have htop : present? [(c, .obj fs)] k = none := by simp [present?, List.lookup_cons, hkc]
  simp only [find, htop]
  -- of the containers, only `c` is there, and it holds `fs`
  simp only [containerKeys, List.mem_cons, List.not_mem_nil, or_false] at hc
  rcases hc with rfl | rfl | rfl | rfl | rfl <;>
    simp [containerKeys, List.findSome?_cons, List.lookup_cons] <;> cases present? fs k <;> rfl

end Json

namespace Rest

variable {a b : Json}

/-- Two payloads that find the same values at every key that is no container key. -/
def SameFinds (a b : Json) : Prop := ∀ k, k ∉ Json.containerKeys → a.find k = b.find k

theorem SameFinds.findObject_eq (h : SameFinds a b) {k : String} (hk : k ∉ Json.containerKeys) :
    a.findObject k = b.findObject k := by
  rw [Json.findObject, Json.findObject, h k hk]

theorem SameFinds.findArray_eq (h : SameFinds a b) {k : String} (hk : k ∉ Json.containerKeys) :
    a.findArray k = b.findArray k := by
  rw [Json.findArray, Json.findArray, h k hk]

theorem SameFinds.entries_eq (h : SameFinds a b) {primary fallback : String}
    (hp : primary ∉ Json.containerKeys) (hf : fallback ∉ Json.containerKeys) :
    Rest.entries a primary fallback = Rest.entries b primary fallback := by
  rw [Rest.entries, Rest.entries, h.findArray_eq hp, h.findArray_eq hf]

theorem probes_congr (h : SameFinds a b) : probes a = probes b := by
  rw [probes, probes, h.entries_eq (by decide) (by decide)]

theorem outlets_congr (h : SameFinds a b) : outlets a = outlets b := by
  rw [outlets, outlets, h.entries_eq (by decide) (by decide)]

theorem feed_congr (h : SameFinds a b) : feed a = feed b := by
  rw [feed, feed, h "feed" (by decide), h "feeds" (by decide)]

/-- The alert lists are found, each of them, as any section is. -/
theorem alerts_congr (h : SameFinds a b) : alerts a = alerts b := by
  simp only [alerts, alertListKeys, List.findSome?_cons, List.findSome?_nil,
    h.findArray_eq (k := "notifications") (by decide), h.findArray_eq (k := "alerts") (by decide),
    h.findArray_eq (k := "alarms") (by decide), h.findArray_eq (k := "warnings") (by decide),
    h.findArray_eq (k := "messages") (by decide)]

end Rest

/-- The Trident is found in the `modules` list, as any section is. -/
theorem TridentModule.ofPayload_congr {a b : Json} (h : Rest.SameFinds a b) :
    TridentModule.ofPayload a = TridentModule.ofPayload b := by
  rw [TridentModule.ofPayload, TridentModule.ofPayload, h.findArray_eq (k := "modules") (by decide)]

/-- **The REST reader sees a payload only through `find`.** Two payloads that find the same value
at every key that is no container key read as one status, but for the raw payload kept. -/
theorem Rest.read_eq_of_find {a b : Json} (h : Rest.SameFinds a b) :
    Rest.read a = { Rest.read b with raw := some a } := by
  unfold Rest.read
  rw [h.findObject_eq (k := "system") (by decide), h.findObject_eq (k := "nstat") (by decide),
    Rest.probes_congr h, Rest.outlets_congr h, Rest.feed_congr h, Rest.alerts_congr h,
    TridentModule.ofPayload_congr h]

/-- **A container is read through.** A payload object with no container key, wrapped in any of the
containers, reads as the payload itself in every section (system, network, probes, outlets, feed,
alerts and modules); only the raw payload kept is the wrapped one. -/
theorem Rest.read_container {c : String} (hc : c ∈ Json.containerKeys) (fs : List (String × Json))
    (hfs : ∀ ck ∈ Json.containerKeys, fs.lookup ck = none) :
    Rest.read (.obj [(c, .obj fs)]) = { Rest.read (.obj fs) with raw := some (.obj [(c, .obj fs)]) } :=
  Rest.read_eq_of_find fun k hk => by
    rw [Json.find_container hc hk, Json.find_obj_of_no_container hfs]

/-- A status under `data` reads as at the top. -/
theorem Rest.read_container_data :
    "data" ∈ Json.containerKeys ∧
      (∀ ck ∈ Json.containerKeys,
        [("system", Json.obj [("hostname", .str "reef")])].lookup ck = none) ∧
      Rest.read (.obj [("data", .obj [("system", .obj [("hostname", .str "reef")])])]) =
        { Rest.read (.obj [("system", .obj [("hostname", .str "reef")])]) with
          raw := some (.obj [("data", .obj [("system", .obj [("hostname", .str "reef")])])]) } :=
  ⟨by decide, by decide, Rest.read_container (by decide) _ (by decide)⟩

end ReefLink
