import Mathlib
import ReefLink.Proofs.Endpoints
import ReefLink.Client.Control
/-!
# Device ids and names a record can be addressed by

A status record keys its probes by device id and lists its outlets with theirs; a client finds an
outlet again by `Status.outlet?` with a trimmed id, and `Call.setOutletMode` trims the id it is
given and refuses a blank one. So an id is usable when it is `Tidy`: not empty, and its own trim.

The REST and XML readers only ever produce tidy ids and names: a text is read trimmed and dropped
when blank, a number as its JSON text, which has no blank in it (`Text.blankFree_render`), and a
missing name is the id. The legacy reader keeps a `did` as it is given, so its ids are only
non-empty (`Status.Names`). `readStatus_names` gathers these, and what a tidy id buys: the outlet
is found again and a mode is sent to its path.
-/

namespace ReefLink

/-! ## Tidy texts -/

namespace Text

/-- A text a record can key or name by: not empty, and its own trim. -/
def Tidy (s : String) : Prop := s ≠ "" ∧ trim s = s

instance (s : String) : Decidable (Tidy s) := inferInstanceAs (Decidable (_ ∧ _))

/-- A text with no blank character. -/
def BlankFree (s : String) : Prop := s.toList.all (fun c => !isBlank c) = true

instance (s : String) : Decidable (BlankFree s) := inferInstanceAs (Decidable (_ = true))

@[simp] theorem blankFree_append_iff {s t : String} :
    BlankFree (s ++ t) ↔ BlankFree s ∧ BlankFree t := by
  simp [BlankFree, String.toList_append, List.all_append]

theorem BlankFree.ofList_sublist {s : String} (hs : BlankFree s) {l : List Char}
    (h : l.Sublist s.toList) : BlankFree (String.ofList l) := by
  simp only [BlankFree, String.toList_ofList, List.all_eq_true] at hs ⊢
  exact fun c hc => hs c (h.subset hc)

/-! ## Texts of numbers -/

theorem isBlank_of_isDigit {c : Char} (h : c.isDigit = true) : isBlank c = false := by
  have := Char.isDigit_iff_toNat.1 h
  have h0 : ('0' : Char).toNat = 48 := rfl
  have h9 : ('9' : Char).toNat = 57 := rfl
  simp only [isBlank]
  simp only [h0, h9] at this
  simp only [Bool.or_eq_false_iff, Bool.and_eq_false_iff, decide_eq_false_iff_not]
  omega

theorem blankFree_repr (n : Nat) : BlankFree n.repr := by
  simp only [BlankFree, Nat.toList_repr, List.all_eq_true, Bool.not_eq_true']
  intro c hc
  exact isBlank_of_isDigit (Nat.isDigit_of_mem_toDigits (by decide) (by decide) hc)

theorem blankFree_int (i : Int) : BlankFree (toString i) := by
  cases i with
  | ofNat n => exact blankFree_repr n
  | negSucc n => exact blankFree_append_iff.2 ⟨by decide, blankFree_repr (n + 1)⟩

/-- A non-empty text without blanks is its own trim. -/
theorem tidy_of_blankFree {s : String} (hne : s ≠ "") (hs : BlankFree s) : Tidy s := by
  have hall : ∀ c ∈ s.toList, isBlank c = false := by
    simpa [BlankFree, List.all_eq_true] using hs
  have keep : ∀ l : List Char, (∀ c ∈ l, isBlank c = false) → l.dropWhile isBlank = l := by
    intro l hl
    cases l with
    | nil => rfl
    | cons c r => simp [hl c List.mem_cons_self]
  refine ⟨hne, ?_⟩
  rw [trim, dropBlank, keep _ hall, dropBlankEnd,
    keep _ fun c hc => hall c (List.mem_reverse.1 hc), List.reverse_reverse, String.ofList_toList]

theorem blankFree_zeros (n : Nat) : BlankFree (Decimal.zeros n) := by
  have h0 : isBlank '0' = false := by decide
  simp [BlankFree, Decimal.zeros, h0]

/-- A layout of blank-free digits is blank-free: it adds only zeros, a point, an exponent mark, a
sign and the exponent's digits. -/
theorem blankFree_layout (n : Decimal.Notation) {ds : String} (hds : BlankFree ds) (k : Int) :
    BlankFree (n.layout ds k) := by
  unfold Decimal.Notation.layout
  simp only
  have hnat : ∀ m : Nat, BlankFree (toString m) := blankFree_repr
  split_ifs <;>
    simp +decide only [blankFree_append_iff, blankFree_zeros, hds, hnat,
      hds.ofList_sublist (List.take_sublist _ _), hds.ofList_sublist (List.drop_sublist _ _)]

/-- **A number's JSON text holds no blank.** -/
theorem blankFree_render (n : Number) : BlankFree n.render := by
  cases n with
  | int i => exact blankFree_int i
  | float f =>
    show BlankFree (Decimal.Notation.json.render f)
    unfold Decimal.Notation.render
    have hlay : ∀ (d : Nat) (k : Int), BlankFree (Decimal.Notation.json.layout (toString d) k) :=
      fun d k => blankFree_layout _ (blankFree_repr d) k
    simp only
    split_ifs <;> simp +decide only [blankFree_append_iff, hlay]

theorem layout_ne_empty (n : Decimal.Notation) {ds : String} (hds : ds ≠ "") (k : Int) :
    n.layout ds k ≠ "" := by
  unfold Decimal.Notation.layout
  simp only
  split_ifs <;> simp [String.append_eq_empty_iff, hds]

theorem render_ne_empty (n : Number) : n.render ≠ "" := by
  cases n with
  | int i =>
    cases i with
    | ofNat m => exact Nat.repr_ne_empty
    | negSucc m =>
      show "-" ++ (m + 1).repr ≠ ""
      simp [String.append_eq_empty_iff]
  | float f =>
    show Decimal.Notation.json.render f ≠ ""
    unfold Decimal.Notation.render
    simp only
    split_ifs <;> simp [String.append_eq_empty_iff, layout_ne_empty, Nat.repr_ne_empty]

/-! ## Tidy readings -/

/-- What `trimmed?` keeps is tidy. -/
theorem tidy_of_trimmed? {s t : String} (h : trimmed? s = some t) : Tidy t := by
  unfold trimmed? at h
  simp only at h
  split at h
  · cases h
  · rename_i hne
    cases h
    exact ⟨fun h => hne (String.isEmpty_iff.2 h), trim_trim s⟩

/-- **A number's text is tidy.** -/
theorem tidy_render (n : Number) : Tidy n.render :=
  tidy_of_blankFree (render_ne_empty n) (blankFree_render n)

end Text

open Text

namespace Json

theorem tidy_of_text? {v : Json} {t : String} (h : v.text? = some t) : Tidy t := by
  cases v with
  | str s =>
    rw [Json.text?] at h
    exact tidy_of_trimmed? h
  | _ => cases h

/-- A scalar's text is tidy: a trimmed text, or a number's text. -/
theorem tidy_of_scalarText? {v : Json} {t : String} (h : v.scalarText? = some t) : Tidy t := by
  cases v with
  | str s =>
    rw [Json.scalarText?] at h
    exact tidy_of_trimmed? h
  | num n =>
    cases h
    exact tidy_render n
  | _ => cases h

end Json

/-! ## Ids and names of entries -/

namespace Entry

/-- **A device id read from the id keys is tidy**: a trimmed text, or an integer's text. -/
theorem tidy_of_coerceId {item : ModuleFields} {keys : List String} {d : String}
    (h : coerceId item keys = some d) : Tidy d := by
  unfold coerceId at h
  split at h
  · rename_i s hs
    cases h
    obtain ⟨v, -, hv⟩ := List.exists_of_findSome?_eq_some hs
    exact Json.tidy_of_text? hv
  · obtain ⟨i, -, rfl⟩ := Option.map_eq_some_iff.1 h
    exact tidy_render (.int i)

/-- The name of an entry: its scalar `name`, else its id. -/
theorem tidy_or_eq_name (item : ModuleFields) (d : String) :
    Tidy (((item.lookup "name").bind Json.scalarText?).getD d) ∨
      ((item.lookup "name").bind Json.scalarText?).getD d = d := by
  cases h : (item.lookup "name").bind Json.scalarText? with
  | none => exact .inr rfl
  | some t =>
    obtain ⟨v, -, hv⟩ := Option.bind_eq_some_iff.1 h
    exact .inl (Json.tidy_of_scalarText? hv)

end Entry

theorem Rest.tidy_of_deviceId {item : ModuleFields} {d : String} (h : Rest.deviceId item = some d) :
    Tidy d := by
  unfold Rest.deviceId at h
  cases hid : Entry.coerceId item Rest.idKeys with
  | some d' =>
    rw [hid] at h
    cases h
    exact Entry.tidy_of_coerceId hid
  | none =>
    rw [hid] at h
    exact Entry.tidy_of_coerceId h

theorem Legacy.ne_empty_of_did {item : ModuleFields} {d : String} (h : Legacy.did item = some d) :
    d ≠ "" := by
  obtain ⟨-, hd⟩ := Option.filter_eq_some_iff.1 h
  simpa [String.isEmpty_iff] using hd

theorem Markup.tidy_of_childText {n : Xml.Node} {name t : String}
    (h : Markup.childText n name = some t) : Tidy t := by
  unfold Markup.childText at h
  split at h
  · obtain ⟨s, -, hs⟩ := Option.bind_eq_some_iff.1 h
    exact tidy_of_trimmed? hs
  · cases h

/-! ## Keyed lists -/

theorem KeyedList.mem_insert {α : Type} {k : String} {v : α} {l : KeyedList α} {e : String × α}
    (h : e ∈ KeyedList.insert k v l) : e = (k, v) ∨ e ∈ l := by
  induction l with
  | nil => simpa [KeyedList.insert] using h
  | cons x rest ih =>
    obtain ⟨k', v'⟩ := x
    unfold KeyedList.insert at h
    split_ifs at h
    · simpa using h
    · rcases List.mem_cons.1 h with rfl | h
      · exact .inl rfl
      · exact .inr (List.mem_cons_of_mem _ h)
    · rcases List.mem_cons.1 h with rfl | h
      · exact .inr List.mem_cons_self
      · rcases ih h with h | h
        · exact .inl h
        · exact .inr (List.mem_cons_of_mem _ h)

/-- **A keyed list holds only entries it was built from.** -/
theorem KeyedList.mem_of_mem_ofList {α : Type} {es : List (String × α)} {e : String × α}
    (h : e ∈ KeyedList.ofList es) : e ∈ es := by
  -- the fold keeps every entry either from where it started or from the entries taken in
  have key : ∀ (es acc : KeyedList α),
      e ∈ es.foldl (fun acc e => KeyedList.insert e.1 e.2 acc) acc → e ∈ acc ∨ e ∈ es := by
    intro es
    induction es with
    | nil => exact fun acc h => .inl h
    | cons x xs ih =>
      intro acc h
      rcases ih _ h with h | h
      · rcases KeyedList.mem_insert h with rfl | h
        · exact .inr List.mem_cons_self
        · exact .inl h
      · exact .inr (List.mem_cons_of_mem _ h)
  rcases key es [] h with h | h
  · cases h
  · exact h

/-! ## The ids and names of a record -/

namespace Status

/-- **The ids and names a record holds**: every probe's key and every outlet's device id satisfy
`Id`, and every name satisfies `Name` given the id beside it. -/
structure Names (s : Status) (Id : String → Prop) (Name : String → String → Prop) : Prop where
  probes : ∀ e ∈ s.probes, Id e.1 ∧ Name e.1 e.2.name
  outlets : ∀ o ∈ s.outlets, Id o.deviceId ∧ Name o.deviceId o.name

/-- Every id and name of the record is tidy. -/
def WellNamed (s : Status) : Prop := s.Names Tidy fun _ name => Tidy name

/-- Every id of the record is non-empty, and every name tidy or the id itself. -/
def LegacyNamed (s : Status) : Prop := s.Names (· ≠ "") fun id name => Tidy name ∨ name = id

theorem Names.of_eq {s s₀ : Status} {Id : String → Prop} {Name : String → String → Prop}
    (h : s₀.Names Id Name) (hp : s.probes = s₀.probes) (ho : s.outlets = s₀.outlets) :
    s.Names Id Name :=
  ⟨hp ▸ h.probes, ho ▸ h.outlets⟩

/-- Replacing the Trident keeps the ids and names. -/
theorem Names.withTrident {s : Status} {Id : String → Prop} {Name : String → String → Prop}
    (h : s.Names Id Name) (t : Trident) : { s with trident := t }.Names Id Name :=
  h.of_eq rfl rfl

theorem Names.mono {s : Status} {Id Id' : String → Prop} {Name Name' : String → String → Prop}
    (h : s.Names Id Name) (hId : ∀ d, Id d → Id' d) (hName : ∀ d n, Id d → Name d n → Name' d n) :
    s.Names Id' Name' where
  probes e he := ⟨hId _ (h.probes e he).1, hName _ _ (h.probes e he).1 (h.probes e he).2⟩
  outlets o ho := ⟨hId _ (h.outlets o ho).1, hName _ _ (h.outlets o ho).1 (h.outlets o ho).2⟩

/-- Names tidy or equal to a tidy id are tidy. -/
theorem Names.wellNamed {s : Status} (h : s.Names Tidy fun id name => Tidy name ∨ name = id) :
    s.WellNamed :=
  h.mono (fun _ hd => hd) fun _ _ hd hn => hn.elim id fun h => h ▸ hd

end Status

section Entries

variable {Id : String → Prop} {idOf : ModuleFields → Option String}

/-- **Probes read from entries by an id reader**: every key is an id it reads, every name is tidy
or the key. -/
theorem probes_of_entries (hid : ∀ item d, idOf item = some d → Id d) (l : List ModuleFields)
    (keys : Entry.ModuleKeys) :
    ∀ e ∈ KeyedList.ofList (l.filterMap fun item =>
        (idOf item).map fun d => (d, Entry.probe item d keys)),
      Id e.1 ∧ (Tidy e.2.name ∨ e.2.name = e.1) := by
  intro e he
  obtain ⟨item, -, hitem⟩ := List.mem_filterMap.1 (KeyedList.mem_of_mem_ofList he)
  obtain ⟨d, hd, rfl⟩ := Option.map_eq_some_iff.1 hitem
  exact ⟨hid item d hd, Entry.tidy_or_eq_name item d⟩

/-- **Outlets read from entries by an id reader**: every device id is an id it reads, every name
is tidy or the id. -/
theorem outlets_of_entries (hid : ∀ item d, idOf item = some d → Id d) (l : List ModuleFields)
    (keys : Entry.ModuleKeys) (outputIdKeys : List String) :
    ∀ o ∈ l.filterMap (fun item => (idOf item).map fun d => Entry.outlet item d keys outputIdKeys),
      Id o.deviceId ∧ (Tidy o.name ∨ o.name = o.deviceId) := by
  intro o ho
  obtain ⟨item, -, hitem⟩ := List.mem_filterMap.1 ho
  obtain ⟨d, hd, rfl⟩ := Option.map_eq_some_iff.1 hitem
  exact ⟨hid item d hd, Entry.tidy_or_eq_name item d⟩

end Entries

theorem Rest.read_names (p : Json) :
    (Rest.read p).Names Tidy fun id name => Tidy name ∨ name = id :=
  ⟨probes_of_entries (fun _ _ => Rest.tidy_of_deviceId) _ _,
    outlets_of_entries (fun _ _ => Rest.tidy_of_deviceId) _ _ _⟩

theorem Legacy.read_names (p : Json) : (Legacy.read p).LegacyNamed :=
  ⟨probes_of_entries (fun _ _ => Legacy.ne_empty_of_did) _ _,
    outlets_of_entries (fun _ _ => Legacy.ne_empty_of_did) _ _ _⟩

theorem Markup.ofRoot_names (root : Xml.Node) : (Markup.ofRoot root).WellNamed := by
  constructor
  · intro e he
    obtain ⟨p, -, hp⟩ := List.mem_filterMap.1 (KeyedList.mem_of_mem_ofList he)
    obtain ⟨name, hname, rfl⟩ := Option.map_eq_some_iff.1 hp
    exact ⟨Markup.tidy_of_childText hname, Markup.tidy_of_childText hname⟩
  · intro o ho
    obtain ⟨x, -, hx⟩ := List.mem_filterMap.1 ho
    obtain ⟨name, hname, rfl⟩ := Option.map_eq_some_iff.1 hx
    refine ⟨?_, Markup.tidy_of_childText hname⟩
    cases hid : Markup.childText x "deviceID" with
    | none => exact Markup.tidy_of_childText hname
    | some d => exact Markup.tidy_of_childText hid

/-! ## Reading a status -/

/-- **What holds of every reader's ids and names holds of the status read**: `readStatus` takes
the probes and outlets of the reader of its source and changes only the Trident. -/
theorem Status.Names.of_readStatus {src : Source} {body : String} {s : Status}
    {Id : String → Prop} {Name : String → String → Prop} (h : readStatus src body = .ok s)
    (hrest : src = .rest → ∀ p, (Rest.read p).Names Id Name)
    (hlegacy : src = .cgiJson → ∀ p, (Legacy.read p).Names Id Name)
    (hxml : src = .xml → ∀ root, (Markup.ofRoot root).Names Id Name) : s.Names Id Name := by
  unfold readStatus at h
  cases src with
  | rest | cgiJson =>
    cases hj : readJsonObject body with
    | error e => simp [hj, Except.map, Functor.map] at h
    | ok p =>
      simp only [hj, Except.map] at h
      injection h with h
      subst h
      -- the reader is the source's own, and only one of the two hypotheses applies
      first
        | exact (hrest rfl p).withTrident _
        | exact (hlegacy rfl p).withTrident _
  | xml =>
    cases hx : Xml.read body with
    | error e =>
      simp only [hx] at h
      injection h
    | ok root =>
      simp only [hx] at h
      injection h with h
      subst h
      exact (hxml rfl root).withTrident _

/-- The REST and XML readers hold tidy ids and names. -/
theorem readStatus_wellNamed {src : Source} (hsrc : src ≠ .cgiJson) {body : String} {s : Status}
    (h : readStatus src body = .ok s) : s.WellNamed :=
  Status.Names.of_readStatus h (fun _ p => (Rest.read_names p).wellNamed)
    (fun hs => absurd hs hsrc) fun _ root => Markup.ofRoot_names root

/-- The legacy reader holds non-empty ids. -/
theorem readStatus_legacyNamed {body : String} {s : Status} (h : readStatus .cgiJson body = .ok s) :
    s.LegacyNamed :=
  Status.Names.of_readStatus h (fun hs => absurd hs (by decide)) (fun _ p => Legacy.read_names p)
    fun hs => absurd hs (by decide)

/-! ## What a tidy id is good for -/

/-- **An outlet of a tidy id is found again by its trimmed id.** -/
theorem outlet?_trim {s : Status} {o : Outlet} (ho : o ∈ s.outlets) (hid : Tidy o.deviceId) :
    ∃ o', s.outlet? (trim o.deviceId) = some o' ∧ o'.deviceId = o.deviceId := by
  rw [hid.2]
  unfold Status.outlet?
  cases h : s.outlets.find? (·.deviceId = o.deviceId) with
  | none => simpa using List.find?_eq_none.1 h o ho
  | some o' => exact ⟨o', rfl, by simpa using List.find?_some h⟩

/-- What `setOutletMode` sends for an outlet id. -/
def outletModeBody (did : String) (mode : OutletMode) : Json :=
  .ofFields [("did", .str did), ("status", .arr [.str mode.word, .str "", .str "OK", .str ""]),
    ("type", .str "outlet")]

/-- **A tidy id passes `setOutletMode`'s checks**: the mode is sent to that id's path. -/
theorem setOutletMode_of_tidy {did : String} (h : Tidy did) (mode : OutletMode) :
    Call.setOutletMode did mode =
      Call.authenticatedPut (Endpoint.restOutputs ++ "/" ++ percentEncode did)
        (outletModeBody did mode) := by
  have hne : did.isEmpty = false := by simpa [String.isEmpty_iff] using h.1
  simp [Call.setOutletMode, outletModeBody, h.2, hne]

/-- **Ids and names of a status read from its endpoints**: the REST and XML readers hold tidy
probe keys, probe names, outlet ids and outlet names; the legacy reader holds non-empty ids, and
names that are tidy or the id. A tidy outlet id finds its outlet again once trimmed, and
`setOutletMode` sends the mode to that id's path. -/
theorem readStatus_names :
    (∀ (src : Source) (body : String) (s : Status), src ≠ .cgiJson →
      readStatus src body = .ok s → s.WellNamed) ∧
    (∀ (body : String) (s : Status), readStatus .cgiJson body = .ok s → s.LegacyNamed) ∧
    ∀ s : Status, s.WellNamed → ∀ o ∈ s.outlets,
      (∃ o', s.outlet? (trim o.deviceId) = some o' ∧ o'.deviceId = o.deviceId) ∧
      ∀ mode : OutletMode, Call.setOutletMode o.deviceId mode =
        Call.authenticatedPut (Endpoint.restOutputs ++ "/" ++ percentEncode o.deviceId)
          (outletModeBody o.deviceId mode) := by
  refine ⟨fun src body s hsrc h => readStatus_wellNamed hsrc h,
    fun body s h => readStatus_legacyNamed h, fun s hs o ho => ?_⟩
  have hid : Tidy o.deviceId := (hs.outlets o ho).1
  exact ⟨outlet?_trim ho hid, setOutletMode_of_tidy hid⟩

/-- A legacy status with one outlet whose `did` starts with a blank. -/
def paddedOutlet : Json :=
  .obj [("istat", .obj [("outputs", .arr [.obj [("did", .str " 3_1"), ("name", .str "Pump")]])])]

theorem readStatus_names_padded :
    ∃ s, readStatus .rest (Json.render paddedOutlet) = .ok s ∧ s.WellNamed := by
  have hok : (readStatus .rest (Json.render paddedOutlet)).toOption.isSome = true := by
    decide +kernel
  cases h : readStatus .rest (Json.render paddedOutlet) with
  | error e =>
    rw [h] at hok
    cases hok
  | ok s => exact ⟨s, rfl, readStatus_names.1 .rest _ s (by decide) h⟩

/-- **A legacy `did` is kept as it is given**: the outlet of `did` ` 3_1` is listed under that id,
and its trimmed id finds no outlet. -/
theorem padded_did_unfound :
    (readStatus .cgiJson (Json.render paddedOutlet)).toOption.map
      (fun s => (s.outlets.map (·.deviceId), (s.outlet? (trim " 3_1")).isSome)) =
      some ([" 3_1"], false) := by
  decide +kernel

end ReefLink
