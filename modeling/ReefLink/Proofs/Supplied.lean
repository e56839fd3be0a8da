import ReefLink.Config.Cache
/-!
# What the configuration supplies to a status

A status read from a payload knows nothing of the configuration; four of its fields come from the
configuration cache: the module and network configuration, the MXM devices and the Trident's
waste container size. `Supplied` is that part of a status, read by `Status.supplied` and written
by `Status.withSupplied`. The two are a lens (`supplied_withSupplied`, `withSupplied_supplied`,
`withSupplied_withSupplied`), so a status written through them differs from the one it came from
in those four fields and nowhere else. A cache offers the same four things, its waste size derived
from its cached modules (`ConfigCache.supplied`).

`mergeInto` fills each of the four that a status lacks from the cache (`Supplied.fill`). Main
statement: `mergeInto_fills_gaps`, that merging changes nothing else, keeps every value the status
had, is idempotent, and changes nothing when the cache holds nothing.
-/

namespace ReefLink

/-- **What the configuration supplies to a status**: the module and network configuration, the
MXM devices and the Trident's waste container size. -/
structure Supplied where
  mconf : Option (List ModuleConfig)
  nconf : Option NetworkConfig
  mxmDevices : Option (KeyedList MxmDevice)
  wasteSize : Option Float

namespace Supplied

/-- Nothing supplied. -/
def empty : Supplied := ⟨none, none, none, none⟩

/-- Each field of `a`, and where `a` has none, that of `b`. -/
def fill (a b : Supplied) : Supplied :=
  ⟨a.mconf <|> b.mconf, a.nconf <|> b.nconf, a.mxmDevices <|> b.mxmDevices,
    a.wasteSize <|> b.wasteSize⟩

/-- Filling from nothing keeps what there is. -/
@[simp] theorem fill_empty (a : Supplied) : a.fill empty = a := by
  simp [fill, empty]

/-- Filling twice from the same source is filling once: what the first fill left empty, the
source has nothing for. -/
@[simp] theorem fill_fill_self (a b : Supplied) : (a.fill b).fill b = a.fill b := by
  simp [fill, Option.or_assoc, Option.or_self]

end Supplied

namespace Status

/-- The part of a status the configuration supplies. -/
def supplied (s : Status) : Supplied :=
  ⟨s.config.mconf, s.config.nconf, s.mxmDevices, s.trident.wasteSizeMl⟩

/-- A status with the part the configuration supplies replaced, and every other field kept. -/
def withSupplied (s : Status) (x : Supplied) : Status :=
  { s with
    config := { mconf := x.mconf, nconf := x.nconf }
    mxmDevices := x.mxmDevices
    trident := { s.trident with wasteSizeMl := x.wasteSize } }

/-- Reading what was written gives it back. -/
@[simp] theorem supplied_withSupplied (s : Status) (x : Supplied) :
    (s.withSupplied x).supplied = x := rfl

/-- Writing what is read changes nothing. -/
@[simp] theorem withSupplied_supplied (s : Status) : s.withSupplied s.supplied = s := rfl

/-- The second of two writes wins. -/
@[simp] theorem withSupplied_withSupplied (s : Status) (x y : Supplied) :
    (s.withSupplied x).withSupplied y = s.withSupplied y := rfl

end Status

namespace ConfigCache

/-- What a cache supplies: its sections, and the waste size of its cached modules. -/
def supplied (c : ConfigCache) : Supplied := ⟨c.mconf, c.nconf, c.mxmDevices, c.wasteSize⟩

/-- A cache supplies nothing exactly when it holds no modules, no network and no MXM devices: the
waste size comes from the modules. -/
theorem supplied_eq_empty_iff (c : ConfigCache) :
    c.supplied = Supplied.empty ↔ c.mconf = none ∧ c.nconf = none ∧ c.mxmDevices = none := by
  rcases c with ⟨_ | m, n, x, t, i⟩
  · simp [supplied, Supplied.empty, wasteSize]
  · simp [supplied, Supplied.empty]

/-- **Merging** writes the status's own part, filled where empty from what the cache supplies. -/
theorem mergeInto_eq (c : ConfigCache) (s : Status) :
    c.mergeInto s = s.withSupplied (s.supplied.fill c.supplied) := rfl

/-- **Merging a cache into a status only fills its gaps.** Nothing but the four supplied fields
changes; each of them keeps the status's value when it has one and takes the cache's otherwise,
the waste size being that of the first cached Trident entry with one; merging a second time
changes nothing; and a cache that holds no modules, no network and no MXM devices leaves the
status as it was, so a merge never overwrites what the payload gave. -/
theorem mergeInto_fills_gaps (c : ConfigCache) (s : Status) :
    (c.mergeInto s).withSupplied s.supplied = s ∧
    (c.mergeInto s).supplied = s.supplied.fill ⟨c.mconf, c.nconf, c.mxmDevices,
      c.mconf.bind tridentWasteSize⟩ ∧
    c.mergeInto (c.mergeInto s) = c.mergeInto s ∧
    (c.mconf = none → c.nconf = none → c.mxmDevices = none → c.mergeInto s = s) := by
  refine ⟨?frame, rfl, ?idem, ?empty⟩
  case frame => rw [mergeInto_eq, Status.withSupplied_withSupplied, Status.withSupplied_supplied]
  case idem =>
    -- the second merge fills from the same cache what the first left empty
    rw [mergeInto_eq c (c.mergeInto s), mergeInto_eq c s, Status.supplied_withSupplied,
      Supplied.fill_fill_self, Status.withSupplied_withSupplied]
  case empty =>
    intro hm hn hx
    have hc : c.supplied = Supplied.empty := (supplied_eq_empty_iff c).2 ⟨hm, hn, hx⟩
    rw [mergeInto_eq, hc, Supplied.fill_empty, Status.withSupplied_supplied]

/-- A fresh cache leaves a status as it was. -/
theorem fresh_cache_merges_nothing :
    ({} : ConfigCache).mconf = none ∧ ({} : ConfigCache).nconf = none ∧
      ({} : ConfigCache).mxmDevices = none ∧
      ({} : ConfigCache).mergeInto (Status.empty .rest) = Status.empty .rest :=
  ⟨rfl, rfl, rfl, (mergeInto_fills_gaps {} (Status.empty .rest)).2.2.2 rfl rfl rfl⟩

end ConfigCache

end ReefLink
