import ReefLink.Config.Cache
import Mathlib.Data.List.Induction
/-!
# The configuration cache over a history of stores

A cache is created empty, with a refresh interval, and changes only when a snapshot is stored in
it; merging it into a status, laying it over one, and asking whether it needs a refresh only read
it. So the cache after any sequence of those operations is the empty cache with its stores applied
in order (`ConfigCache.storeAll`), and the cache a client holds is one of those.

Each field of such a cache is read off its history (`storeAll_mconf` and its siblings): the
modules, the MXM devices and the time of the last fetch are those of the last store, so the three
are all absent before the first store and all present after it; the network configuration is that
of the last snapshot that had one. Whether a refresh is due is then a question about the last store
alone (`needsRefresh_false_iff`). Main statement: `storeAll_history`.
-/

namespace ReefLink

namespace ConfigCache

/-- **An empty cache** that asks for a refresh every `interval` ms. -/
def fresh (interval : Nat) : ConfigCache := { refreshInterval := interval }

/-- **A cache after a history of stores**: each a snapshot and the time it was fetched, in order. -/
def storeAll (c : ConfigCache) (ss : List (Snapshot × Nat)) : ConfigCache :=
  ss.foldl (fun c s => c.store s.1 s.2) c

@[simp] theorem storeAll_nil (c : ConfigCache) : c.storeAll [] = c := rfl

theorem storeAll_concat (c : ConfigCache) (ss : List (Snapshot × Nat)) (s : Snapshot × Nat) :
    c.storeAll (ss ++ [s]) = (c.storeAll ss).store s.1 s.2 := by
  simp [storeAll, List.foldl_append]

theorem storeAll_append (c : ConfigCache) (ss ss' : List (Snapshot × Nat)) :
    c.storeAll (ss ++ ss') = (c.storeAll ss).storeAll ss' := by
  simp [storeAll, List.foldl_append]

/-! ### One store -/

section Store

variable (c : ConfigCache) (snap : Snapshot) (now : Nat)

@[simp] theorem store_mconf : (c.store snap now).mconf = some (snap.config.mconf.getD []) := rfl
@[simp] theorem store_mxmDevices : (c.store snap now).mxmDevices = some snap.mxmDevices := rfl
@[simp] theorem store_lastFetch : (c.store snap now).lastFetch = some now := rfl
@[simp] theorem store_refreshInterval : (c.store snap now).refreshInterval = c.refreshInterval := rfl

/-- A snapshot without a network configuration keeps the cached one. -/
@[simp] theorem store_nconf : (c.store snap now).nconf = snap.config.nconf.or c.nconf := by
  cases h : snap.config.nconf <;> simp [store, h]

end Store

/-! ### A history of stores -/

section History

variable (c : ConfigCache) (ss : List (Snapshot × Nat))

/-- The modules are those of the last store. -/
theorem storeAll_mconf :
    (c.storeAll ss).mconf = (ss.getLast?.map fun s => s.1.config.mconf.getD []).or c.mconf := by
  induction ss using List.reverseRecOn with
  | nil => simp
  | append_singleton ss s ih => simp [storeAll_concat]

/-- The MXM devices are those of the last store. -/
theorem storeAll_mxmDevices :
    (c.storeAll ss).mxmDevices = (ss.getLast?.map (·.1.mxmDevices)).or c.mxmDevices := by
  induction ss using List.reverseRecOn with
  | nil => simp
  | append_singleton ss s ih => simp [storeAll_concat]

/-- The time of the last fetch is that of the last store. -/
theorem storeAll_lastFetch : (c.storeAll ss).lastFetch = (ss.getLast?.map (·.2)).or c.lastFetch := by
  induction ss using List.reverseRecOn with
  | nil => simp
  | append_singleton ss s ih => simp [storeAll_concat]

/-- **The network configuration is that of the last snapshot that had one**: a snapshot without
one never clears it. -/
theorem storeAll_nconf :
    (c.storeAll ss).nconf = (ss.filterMap (·.1.config.nconf)).getLast?.or c.nconf := by
  induction ss using List.reverseRecOn with
  | nil => simp
  | append_singleton ss s ih =>
    rw [storeAll_concat, store_nconf, ih, List.filterMap_append]
    cases h : s.1.config.nconf <;> simp [h]

@[simp] theorem storeAll_refreshInterval : (c.storeAll ss).refreshInterval = c.refreshInterval := by
  induction ss using List.reverseRecOn with
  | nil => rfl
  | append_singleton ss s ih => rw [storeAll_concat, store_refreshInterval, ih]

end History

/-! ### When a refresh is due -/

/-- **A refresh is not due** exactly when modules are cached, a fetch time is known, and less than
the interval has passed since it. -/
theorem needsRefresh_false_iff (c : ConfigCache) (now : Nat) :
    c.needsRefresh now false = false ↔
      c.mconf.isSome ∧ ∃ last, c.lastFetch = some last ∧ now - last < c.refreshInterval := by
  unfold needsRefresh isEmpty
  cases c.lastFetch with
  | none => simp
  | some last => simp [Nat.not_le]

/-- A refresh that is due stays due as time goes on. -/
theorem needsRefresh_mono {c : ConfigCache} {t t' : Nat} (h : c.needsRefresh t false = true)
    (ht : t ≤ t') : c.needsRefresh t' false = true := by
  unfold needsRefresh at *
  cases hl : c.lastFetch with
  | none => simp
  | some last =>
    simp only [hl, Bool.false_or, Bool.or_eq_true, decide_eq_true_eq] at h ⊢
    rcases h with h | h
    · exact .inl h
    · exact .inr (by omega)

/-- **The cache of a history of stores.** Take an empty cache with any refresh interval and store
any snapshots in it, at any times. The modules, the MXM devices and the time of the last fetch are
absent exactly before the first store, so the three are all absent or all present, and the time is
that of the last store. The network configuration is that of the last snapshot that had one: once
cached, only a later snapshot with one replaces it. And a refresh is not due at `now` exactly when
something was stored and less than the interval has passed since the last store. -/
theorem storeAll_history (interval : Nat) (ss : List (Snapshot × Nat)) (now : Nat) :
    (((fresh interval).storeAll ss).mconf = none ↔ ss = []) ∧
    (((fresh interval).storeAll ss).mxmDevices = none ↔ ss = []) ∧
    ((fresh interval).storeAll ss).lastFetch = ss.getLast?.map (·.2) ∧
    ((fresh interval).storeAll ss).nconf = (ss.filterMap (·.1.config.nconf)).getLast? ∧
    (((fresh interval).storeAll ss).needsRefresh now false = false ↔
      ∃ s ∈ ss.getLast?, now - s.2 < interval) := by
  have hlast : ((fresh interval).storeAll ss).lastFetch = ss.getLast?.map (·.2) := by
    simp [storeAll_lastFetch, fresh]
  refine ⟨by simp [storeAll_mconf, fresh], by simp [storeAll_mxmDevices, fresh], hlast,
    by simp [storeAll_nconf, fresh], ?_⟩
  -- modules are cached exactly when something was stored, and the last store dates the fetch
  rw [needsRefresh_false_iff, hlast, storeAll_refreshInterval, storeAll_mconf]
  cases ss.getLast? with
  | none => simp
  | some s => simp [fresh]

end ConfigCache

end ReefLink
