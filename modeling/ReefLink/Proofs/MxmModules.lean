import Mathlib
import ReefLink.Proofs.Sanitize
import ReefLink.Proofs.DeviceLine
/-!
# Which modules list MXM devices

A configuration snapshot decides twice which module entries are MXM modules: the sanitizer reads
an entry's type from its `hwtype` key or, failing that, its `hwType` key, and upper-cases it by the
full Unicode mapping; the device collection reads the `hwtype` key alone and compares it with `mxm`
in ASCII case.

The two comparisons agree on every text (`Text.toUpper_eq_mxm_iff`): upper-casing gives `MXM`
exactly when the text is `mxm` in some ASCII case, because no character outside ASCII upper-cases
to anything holding `M` or `X`, which the case tables show (`Text.upperTablesReach`). A status
text that is blank, which the sanitizer drops, lists no device either (`addDevices_of_blank`).
So the devices are those of the sanitized MXM modules once the entries are read without their
`hwType` key (`MxmDevice.listOf_eq_devicesOf_withoutHwType`), and exactly those when no entry is
typed by `hwType` alone (`MxmDevice.listOf_eq_devicesOf`).
-/

namespace ReefLink

/-! ## Upper case of ASCII words -/

namespace Text

/-- Whether a run reaches the code point `n` from code points at or above `lo`. -/
def Shift.reaches (s : Shift) (lo n : Nat) : Bool :=
  decide (((max s.first lo : Nat) : Int) + s.offset ≤ n) && decide ((n : Int) ≤ s.last + s.offset)

theorem Shift.reaches_of_apply? {s : Shift} {lo c n : Nat} (h : s.apply? c = some n) (hc : lo ≤ c)
    (hn : 0 < n) : s.reaches lo n = true := by
  unfold Shift.apply? at h
  split at h
  · rename_i hs
    simp only [Bool.and_eq_true, decide_eq_true_eq] at hs
    simp only [Option.some.injEq] at h
    simp only [Shift.reaches, Bool.and_eq_true, decide_eq_true_eq]
    omega
  · cases h

/-- Whether the upper-case tables can give the character `d` for a character outside ASCII. -/
def upperTablesReach (d : Char) : Bool :=
  upperShifts.toList.any (fun s => s.reaches 128 d.toNat) ||
    upperExpansions.toList.any (fun e => e.2.contains d.toNat)

theorem eq_toNat_of_ofNat_eq {n : Nat} {d : Char} (h : Char.ofNat n = d) (hd : d.toNat ≠ 0) :
    n = d.toNat := by
  unfold Char.ofNat at h
  split at h
  · subst h
    rfl
  · subst h
    exact absurd rfl hd

/-- **What a character outside ASCII upper-cases to is in the tables**: an ASCII character of its
upper case is the image of a run or listed in an expansion. -/
theorem upperTablesReach_of_mem {c d : Char} (hc : 128 ≤ c.toNat) (hd : d.toNat < 128)
    (hd₀ : d.toNat ≠ 0) (h : d ∈ charToUpper c) : upperTablesReach d = true := by
  unfold charToUpper mapChar at h
  rw [if_neg (by omega)] at h
  simp only [upperTablesReach, Bool.or_eq_true, List.any_eq_true]
  split at h
  · rename_i k cs hfind
    obtain ⟨n, hn, rfl⟩ := List.mem_map.1 h
    have hk : (k, cs) ∈ upperExpansions.toList :=
      Array.mem_toList_iff.2 (Array.mem_of_find?_eq_some hfind)
    right
    refine ⟨(k, cs), hk, ?_⟩
    rw [← eq_toNat_of_ofNat_eq rfl hd₀]
    simpa using hn
  · split at h
    · rename_i n hfind
      obtain ⟨s, hs, happ⟩ := Array.exists_of_findSome?_eq_some hfind
      rw [List.mem_singleton] at h
      subst h
      have hn := eq_toNat_of_ofNat_eq rfl hd₀
      left
      exact ⟨s, Array.mem_toList_iff.2 hs, hn ▸ Shift.reaches_of_apply? happ hc (by omega)⟩
    · rw [List.mem_singleton] at h
      subst h
      omega

/-- Upper-casing never drops a character. -/
theorem charToUpper_ne_nil (c : Char) : charToUpper c ≠ [] := by
  have hexp : upperExpansions.toList.all (fun e => !e.2.isEmpty) = true := by decide
  unfold charToUpper mapChar
  split
  · exact List.cons_ne_nil _ _
  · split
    · rename_i k cs hfind
      have hk := List.all_eq_true.1 hexp _
        (Array.mem_toList_iff.2 (Array.mem_of_find?_eq_some hfind))
      simpa using hk
    · split <;> exact List.cons_ne_nil _ _

theorem toNat_toUpper (c : Char) :
    c.toUpper.toNat = if 97 ≤ c.toNat ∧ c.toNat ≤ 122 then c.toNat - 32 else c.toNat := by
  have hrange : ('a'.val ≤ c.val ∧ c.val ≤ 'z'.val) ↔ 97 ≤ c.toNat ∧ c.toNat ≤ 122 := by
    simp only [UInt32.le_iff_toNat_le, Char.toNat_val]
    rfl
  unfold Char.toUpper
  split <;> rename_i h
  · have h' := hrange.1 h
    have hk : ('A'.val - 'a'.val).toNat = 4294967264 := rfl
    rw [if_pos h', Char.toNat_mk, UInt32.toNat_add, hk]
    simp only [Char.toNat_val]
    omega
  · rw [if_neg (mt hrange.2 h)]

theorem toNat_toLower (c : Char) :
    c.toLower.toNat = if 65 ≤ c.toNat ∧ c.toNat ≤ 90 then c.toNat + 32 else c.toNat := by
  have hrange : (c.val ≥ 'A'.val ∧ c.val ≤ 'Z'.val) ↔ 65 ≤ c.toNat ∧ c.toNat ≤ 90 := by
    simp only [ge_iff_le, UInt32.le_iff_toNat_le, Char.toNat_val]
    rfl
  unfold Char.toLower
  split <;> rename_i h
  · have h' := hrange.1 h
    have hk : ('a'.val - 'A'.val).toNat = 32 := rfl
    rw [if_pos h', Char.toNat_mk, UInt32.toNat_add, hk]
    simp only [Char.toNat_val]
    omega
  · rw [if_neg (mt hrange.2 h)]

/-- An ASCII character upper-cases to a capital exactly when it lower-cases to its small letter;
a character outside ASCII does neither. -/
theorem char_toUpper_eq_iff {c d : Char} (hd : d.isUpper = true) :
    (c.toNat < 128 ∧ c.toUpper = d) ↔ c.toLower = d.toLower := by
  have hd' : 65 ≤ d.toNat ∧ d.toNat ≤ 90 := by
    simpa [Char.isUpper, UInt32.le_iff_toNat_le] using hd
  rw [← Char.toNat_inj, ← Char.toNat_inj, toNat_toUpper, toNat_toLower, toNat_toLower]
  split_ifs <;> omega

/-- **Upper-casing gives a word of ASCII capitals that no other character upper-cases into
exactly when the text is that word's letters in ASCII case**: ASCII characters only, each one
upper-casing to its letter. -/
theorem flatMap_charToUpper_eq_iff {cs w : List Char}
    (hw : ∀ d ∈ w, d.isUpper = true ∧ upperTablesReach d = false) :
    cs.flatMap charToUpper = w ↔ (∀ c ∈ cs, c.toNat < 128) ∧ cs.map Char.toUpper = w := by
  have hascii : (∀ c ∈ cs, c.toNat < 128) → cs.flatMap charToUpper = cs.map Char.toUpper := by
    intro ha
    rw [List.map_eq_flatMap]
    exact List.flatMap_congr fun c hc => if_pos (ha c hc)
  constructor
  · intro h
    -- a character outside ASCII would leave a character of its upper case in the word
    have ha : ∀ c ∈ cs, c.toNat < 128 := by
      intro c hc
      by_contra hlt
      obtain ⟨d, hd⟩ := List.exists_mem_of_ne_nil _ (charToUpper_ne_nil c)
      obtain ⟨hup, hr⟩ := hw d (h ▸ List.mem_flatMap.2 ⟨c, hc, hd⟩)
      have hrange : 65 ≤ d.toNat ∧ d.toNat ≤ 90 := by
        simpa [Char.isUpper, UInt32.le_iff_toNat_le] using hup
      rw [upperTablesReach_of_mem (by omega) (by omega) (by omega) hd] at hr
      cases hr
    exact ⟨ha, hascii ha ▸ h⟩
  · rintro ⟨ha, rfl⟩
    exact hascii ha

theorem map_toUpper_eq_iff {cs w : List Char} (hw : ∀ d ∈ w, d.isUpper = true) :
    ((∀ c ∈ cs, c.toNat < 128) ∧ cs.map Char.toUpper = w) ↔
      cs.map Char.toLower = w.map Char.toLower := by
  induction cs generalizing w with
  | nil => cases w <;> simp
  | cons c cs ih =>
    cases w with
    | nil => simp
    | cons d w =>
      have hd := hw d List.mem_cons_self
      rw [List.map_cons, List.map_cons, List.map_cons, List.cons.injEq, List.cons.injEq,
        ← char_toUpper_eq_iff hd, ← ih fun d' hd' => hw d' (List.mem_cons_of_mem _ hd'),
        List.forall_mem_cons]
      tauto

/-- **A text upper-cases to a word of ASCII capitals that no other character upper-cases into
exactly when it lower-cases in ASCII to that word's lower case.** -/
theorem toUpper_eq_iff_toLower {t w : String}
    (hw : ∀ d ∈ w.toList, d.isUpper = true ∧ upperTablesReach d = false) :
    toUpper t = w ↔ t.toList.map Char.toLower = w.toList.map Char.toLower := by
  rw [toUpper, ← String.toList_inj, String.toList_ofList, flatMap_charToUpper_eq_iff hw,
    map_toUpper_eq_iff fun d hd => (hw d hd).1]

/-- **A type reads `MXM` upper-cased exactly when it is `mxm` in ASCII case.** -/
theorem toUpper_eq_mxm_iff (t : String) :
    toUpper t = mxmHwType ↔ t.toList.map Char.toLower = "mxm".toList := by
  have hw : ∀ d ∈ "MXM".toList, d.isUpper = true ∧ upperTablesReach d = false := by
    have hmxm : "MXM".toList = ['M', 'X', 'M'] := by simp
    intro d hd
    simp only [hmxm, List.mem_cons, List.not_mem_nil, or_false] at hd
    rcases hd with rfl | rfl | rfl <;> decide
  rw [mxmHwType, toUpper_eq_iff_toLower hw]
  rfl

/-! ## Lines -/

/-- Every character of a line is a character of the text, or of the line begun before it. -/
theorem mem_of_mem_linesFrom {cs acc l : List Char} (hl : l ∈ linesFrom cs acc) {c : Char}
    (hc : c ∈ l) : c ∈ cs ∨ c ∈ acc := by
  induction cs generalizing acc with
  | nil =>
    unfold linesFrom at hl
    split at hl
    · cases hl
    · rw [List.mem_singleton] at hl
      subst hl
      exact .inr (List.mem_reverse.1 hc)
  | cons x rest ih =>
    unfold linesFrom at hl
    split at hl
    · rcases List.mem_cons.1 hl with rfl | hl
      · -- the line just closed is what was begun, maybe without a carriage return
        right
        unfold closeLine at hc
        split at hc
        · exact List.mem_cons_of_mem _ (List.mem_reverse.1 hc)
        · exact List.mem_reverse.1 hc
      · rcases ih hl with h | h
        · exact .inl (List.mem_cons_of_mem _ h)
        · cases h
    · rcases ih hl with h | h
      · exact .inl (List.mem_cons_of_mem _ h)
      · rcases List.mem_cons.1 h with rfl | h
        · exact .inl List.mem_cons_self
        · exact .inr h

theorem mem_of_mem_lines {s l : String} (hl : l ∈ lines s) {c : Char} (hc : c ∈ l.toList) :
    c ∈ s.toList := by
  obtain ⟨l', hl', rfl⟩ := List.mem_map.1 hl
  rw [String.toList_ofList] at hc
  simpa using mem_of_mem_linesFrom hl' hc

end Text

open Text

/-- A line of blanks holds no device. -/
theorem DeviceLine.ofLine?_of_blank {l : String} (h : l.toList.all isBlank = true) :
    MxmDevice.ofLine? l = none := by
  rcases hs : MxmDevice.ofLine? l with _ | ⟨n, d⟩
  · rfl
  · obtain ⟨w₀, N, I, w₁, w₂, w₃, R, w₄, w₅, w₆, S, w₇, w₈, T, w₉, -, -, -, -, -, -, -, hl, -⟩ :=
      DeviceLine.shape_of_ofLine? hs
    have hopen : '(' ∈ l.toList := by
      rw [hl]
      simp
    have := List.all_eq_true.1 h _ hopen
    exact absurd this (by decide)

/-- **A blank status text adds no device.** -/
theorem addDevices_of_blank (acc : KeyedList MxmDevice) {text : String}
    (h : isBlankText text = true) : addDevices acc text = acc := by
  have hnone : ∀ l ∈ lines text, MxmDevice.ofLine? l = none := by
    intro l hl
    refine DeviceLine.ofLine?_of_blank (List.all_eq_true.2 fun c hc => ?_)
    exact List.all_eq_true.1 h c (mem_of_mem_lines hl hc)
  unfold addDevices
  generalize lines text = ls at hnone
  induction ls generalizing acc with
  | nil => rfl
  | cons l ls ih =>
    rw [List.foldl_cons, hnone l List.mem_cons_self]
    exact ih acc fun l' hl' => hnone l' (List.mem_cons_of_mem _ hl')

/-! ## The devices of the sanitized modules -/

/-- What a sanitized module adds to the devices: when its type is `MXM`, the devices of the status
text it keeps. -/
def addModule (acc : KeyedList MxmDevice) (c : ModuleConfig) : KeyedList MxmDevice :=
  if c.hwtype = mxmHwType then
    match c.extra.bind ModuleExtra.status with
    | some text => addDevices acc text
    | none => acc
  else acc

/-- **The devices the sanitized modules list**: the status texts of those of type `MXM`, line by
line in order, a later device of a name replacing an earlier one. -/
def devicesOf (ms : List ModuleConfig) : KeyedList MxmDevice := ms.foldl addModule []

/-- What the device collection adds for one module entry. -/
def entryDevices (acc : KeyedList MxmDevice) (m : ModuleFields) : KeyedList MxmDevice :=
  if isMxmEntry m then
    match ((m.lookup "extra").bind (·.get? "status")).bind Json.str? with
    | some text => addDevices acc text
    | none => acc
  else acc

theorem MxmDevice.listOf_eq_foldl (p : Json) :
    MxmDevice.listOf p = (mconfEntries p).foldl entryDevices [] := by
  unfold MxmDevice.listOf mconfEntries
  cases p.get? "mconf" <;> rfl

/-- The status text of an entry's `extra` object. -/
def statusRead (m : ModuleFields) : Option String :=
  (((m.lookup "extra").bind Json.fields?).bind (·.lookup "status")).bind Json.str?

theorem ofEntry?_eq_none_iff {m : ModuleFields} : ModuleConfig.ofEntry? m = none ↔
    (Json.firstPresent m ["hwtype", "hwType"]).bind Json.scalarText? = none := by
  cases h : (Json.firstPresent m ["hwtype", "hwType"]).bind Json.scalarText? <;>
    simp [ModuleConfig.ofEntry?, h]

/-- **A module entry with a type is kept**, upper-cased, and keeps its status text when it is an
MXM module and the text is not blank. -/
theorem ofEntry?_of_type {m : ModuleFields} {t : String}
    (h : (Json.firstPresent m ["hwtype", "hwType"]).bind Json.scalarText? = some t) :
    ∃ c, ModuleConfig.ofEntry? m = some c ∧ c.hwtype = toUpper t ∧
      c.extra.bind ModuleExtra.status =
        if toUpper t = mxmHwType then (statusRead m).filter (fun s => !isBlankText s)
        else none := by
  simp only [ModuleConfig.ofEntry?, h, Option.bind_eq_bind, Option.bind_some, Option.some.injEq,
    exists_eq_left', true_and]
  unfold statusRead
  generalize (m.lookup "extra").bind Json.fields? = E
  -- no `extra` object keeps nothing; one keeps the status only for an MXM module
  rcases E with _ | e
  · simp
  · by_cases hmxm : toUpper t = mxmHwType
    · cases hs : ((e.lookup "status").bind Json.str?).filter (fun s => !isBlankText s) <;>
        simp [hmxm, hs, ModuleExtra.isEmpty, Option.filter_some]
    · simp [hmxm, ModuleExtra.isEmpty, Option.filter]

/-- **An entry typed by its `hwtype` key adds to the devices what its sanitized module adds.** -/
theorem entryDevices_eq {m : ModuleFields}
    (hm : Json.firstPresent m ["hwtype", "hwType"] = Json.firstPresent m ["hwtype"])
    (acc : KeyedList MxmDevice) :
    entryDevices acc m = ((ModuleConfig.ofEntry? m).map (addModule acc)).getD acc := by
  have hstatus : ((m.lookup "extra").bind (·.get? "status")).bind Json.str? = statusRead m := by
    rw [Json.get?_status_eq]
    rfl
  unfold entryDevices isMxmEntry
  rw [hstatus]
  cases ht : (Json.firstPresent m ["hwtype"]).bind Json.scalarText? with
  | none =>
    rw [ofEntry?_eq_none_iff.2 (hm ▸ ht)]
    rfl
  | some t =>
    obtain ⟨c, hc, hct, hcs⟩ := ofEntry?_of_type (hm ▸ ht)
    rw [hc, Option.map_some, Option.getD_some]
    unfold addModule
    rw [hct, hcs]
    by_cases hmxm : toUpper t = mxmHwType
    · have hlow := (toUpper_eq_mxm_iff t).1 hmxm
      simp only [hlow, decide_true, if_true, hmxm]
      -- a blank status text is dropped by the sanitizer and lists no device
      cases hs : statusRead m with
      | none => rfl
      | some text =>
        by_cases hb : isBlankText text = true
        · simp [hb, addDevices_of_blank, Option.filter_some]
        · simp [hb, Option.filter_some]
    · have hlow : ¬ t.toList.map Char.toLower = "mxm".toList := mt (toUpper_eq_mxm_iff t).2 hmxm
      simp only [hlow, decide_false, hmxm, if_false]
      rfl

/-- Over entries typed by their `hwtype` key, the device collection is the fold of the sanitized
modules. -/
theorem foldl_entryDevices {l : List ModuleFields}
    (hl : ∀ m ∈ l, Json.firstPresent m ["hwtype", "hwType"] = Json.firstPresent m ["hwtype"])
    (acc : KeyedList MxmDevice) :
    l.foldl entryDevices acc = (l.filterMap ModuleConfig.ofEntry?).foldl addModule acc := by
  induction l generalizing acc with
  | nil => rfl
  | cons m l ih =>
    have hrest : ∀ m' ∈ l, _ := fun m' hm' => hl m' (List.mem_cons_of_mem _ hm')
    rw [List.foldl_cons, entryDevices_eq (hl m List.mem_cons_self), List.filterMap_cons]
    cases hc : ModuleConfig.ofEntry? m with
    | none => exact ih hrest acc
    | some c => exact ih hrest (addModule acc c)

/-- An entry without its `hwType` key. -/
def withoutHwType (m : ModuleFields) : ModuleFields := m.filter fun f => f.1 != "hwType"

theorem lookup_withoutHwType (m : ModuleFields) (k : String) :
    (withoutHwType m).lookup k = if k = "hwType" then none else m.lookup k := by
  induction m with
  | nil => simp [withoutHwType]
  | cons f m ih =>
    obtain ⟨k', v⟩ := f
    unfold withoutHwType at ih ⊢
    by_cases hk : k = "hwType"
    · subst hk
      rw [if_pos rfl] at ih ⊢
      by_cases hk' : k' = "hwType"
      · subst hk'
        rw [List.filter_cons_of_neg (by simp), ih]
      · have hne : ("hwType" == k') = false := by simpa using Ne.symm hk'
        rw [List.filter_cons_of_pos (by simpa using hk'), List.lookup_cons, hne, ih]
    · have hne : (k == "hwType") = false := by simpa using hk
      rw [if_neg hk] at ih ⊢
      by_cases hk' : k' = "hwType"
      · subst hk'
        rw [List.filter_cons_of_neg (by simp), ih, List.lookup_cons, hne]
      · rw [List.filter_cons_of_pos (by simpa using hk'), List.lookup_cons, List.lookup_cons, ih]

theorem lookup_withoutHwType_of_ne (m : ModuleFields) {k : String} (hk : k ≠ "hwType") :
    (withoutHwType m).lookup k = m.lookup k := by
  rw [lookup_withoutHwType, if_neg hk]

/-- Without its `hwType` key an entry is typed by its `hwtype` key. -/
theorem firstPresent_withoutHwType (m : ModuleFields) :
    Json.firstPresent (withoutHwType m) ["hwtype", "hwType"] =
      Json.firstPresent (withoutHwType m) ["hwtype"] := by
  have hnone : (withoutHwType m).lookup "hwType" = none := by
    rw [lookup_withoutHwType, if_pos rfl]
  simp only [Json.firstPresent, List.filterMap_cons, List.filterMap_nil, hnone]

theorem firstPresent_hwtype_withoutHwType (m : ModuleFields) :
    Json.firstPresent (withoutHwType m) ["hwtype"] = Json.firstPresent m ["hwtype"] := by
  simp only [Json.firstPresent, List.filterMap_cons, List.filterMap_nil,
    lookup_withoutHwType_of_ne m (by decide : "hwtype" ≠ "hwType")]

/-- The device collection does not read the `hwType` key. -/
theorem entryDevices_withoutHwType (acc : KeyedList MxmDevice) (m : ModuleFields) :
    entryDevices acc (withoutHwType m) = entryDevices acc m := by
  unfold entryDevices isMxmEntry
  simp only [firstPresent_hwtype_withoutHwType,
    lookup_withoutHwType_of_ne m (by decide : "extra" ≠ "hwType")]

/-- **The MXM devices are those of the sanitized MXM modules, read without the `hwType` key**: for
every configuration payload, the devices collected are the devices of the sanitized modules of
type `MXM`, in order, when every entry is first stripped of its `hwType` key. -/
theorem MxmDevice.listOf_eq_devicesOf_withoutHwType (p : Json) :
    MxmDevice.listOf p =
      devicesOf ((mconfEntries p).filterMap fun m => ModuleConfig.ofEntry? (withoutHwType m)) := by
  have hstrip : (mconfEntries p).foldl entryDevices [] =
      ((mconfEntries p).map withoutHwType).foldl entryDevices [] := by
    rw [List.foldl_map]
    simp only [entryDevices_withoutHwType]
  rw [MxmDevice.listOf_eq_foldl, hstrip, foldl_entryDevices, List.filterMap_map, devicesOf]
  · rfl
  · intro m hm
    obtain ⟨m', -, rfl⟩ := List.mem_map.1 hm
    exact firstPresent_withoutHwType m'

/-- **The MXM devices are those of the sanitized MXM modules** when no entry is typed by its
`hwType` key alone, whatever the case and the surrounding blanks of the type. -/
theorem MxmDevice.listOf_eq_devicesOf (p : Json)
    (hp : ∀ m ∈ mconfEntries p,
      Json.firstPresent m ["hwtype", "hwType"] = Json.firstPresent m ["hwtype"]) :
    MxmDevice.listOf p = devicesOf (ModuleConfig.listOf p) := by
  rw [MxmDevice.listOf_eq_foldl, foldl_entryDevices hp, ModuleConfig.listOf_eq, devicesOf]

/-- A configuration with one MXM module, typed `mXm` with blanks around under its `hwtype` key. -/
def mxmPayload : Json :=
  .obj [("mconf", .arr [.obj [("extra", .obj [("status", .str "Nero 5(x) - Rev 1 Ser #: S1 - OK")]),
    ("hwtype", .str " mXm ")]])]

theorem listOf_eq_devicesOf_mxmPayload :
    MxmDevice.listOf mxmPayload = devicesOf (ModuleConfig.listOf mxmPayload) := by
  refine MxmDevice.listOf_eq_devicesOf mxmPayload fun m hm => ?_
  have hentries : mconfEntries mxmPayload =
      [[("extra", .obj [("status", .str "Nero 5(x) - Rev 1 Ser #: S1 - OK")]),
        ("hwtype", .str " mXm ")]] := rfl
  rw [hentries, List.mem_singleton] at hm
  subst hm
  rfl

end ReefLink
