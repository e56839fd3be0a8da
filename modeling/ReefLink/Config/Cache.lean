import ReefLink.Config.Snapshot
/-!
# The configuration cache

Status polls are cheap and the configuration endpoint is not. The cache keeps the last
configuration snapshot so that every status can carry module names, MXM devices and the Trident's
waste container size, while the configuration is fetched only every `refreshInterval`
milliseconds. Times are milliseconds given by the caller; the cache holds no clock.

- `needsRefresh` holds when forced, when nothing is cached, or when the interval has passed since
  the last store (a time before it counts as none passed).
- `store` replaces the cache, but a snapshot without firmware fields keeps the cached ones.
- `mergeInto` fills only what a status lacks; `applyTo` overwrites what the cache has.
-/

namespace ReefLink

/-- The default time between two configuration fetches: five minutes. -/
def defaultRefreshInterval : Nat := 300000

/-- **The cached configuration.** -/
structure ConfigCache where
  mconf : Option (List ModuleConfig) := none
  nconf : Option NetworkConfig := none
  mxmDevices : Option (KeyedList MxmDevice) := none
  lastFetch : Option Nat := none
  refreshInterval : Nat := defaultRefreshInterval

namespace ConfigCache

/-- Whether nothing has been stored yet. -/
def isEmpty (c : ConfigCache) : Bool := c.mconf.isNone

/-- **Whether the configuration should be fetched** at a time. -/
def needsRefresh (c : ConfigCache) (now : Nat) (force : Bool) : Bool :=
  force || c.isEmpty ||
    match c.lastFetch with
    | none => true
    | some last => now - last ≥ c.refreshInterval

/-- **Stores a snapshot** fetched at a time. -/
def store (c : ConfigCache) (s : Snapshot) (now : Nat) : ConfigCache :=
  { c with
    mconf := some (s.config.mconf.getD [])
    nconf := if s.config.nconf.isSome then s.config.nconf else c.nconf
    mxmDevices := some s.mxmDevices
    lastFetch := some now }

/-- The waste container size of the cached Trident entry. -/
def wasteSize (c : ConfigCache) : Option Float := c.mconf.bind tridentWasteSize

/-- **Fills the sections a status lacks** from the cache; a Trident waste size already on the
status stays. -/
def mergeInto (c : ConfigCache) (s : Status) : Status :=
  { s with
    config := { mconf := s.config.mconf <|> c.mconf, nconf := s.config.nconf <|> c.nconf }
    mxmDevices := s.mxmDevices <|> c.mxmDevices
    trident := { s.trident with wasteSizeMl := s.trident.wasteSizeMl <|> c.wasteSize } }

/-- **Overwrites a status's sections** with those the cache has. -/
def applyTo (c : ConfigCache) (s : Status) : Status :=
  { s with
    config := { mconf := c.mconf <|> s.config.mconf, nconf := c.nconf <|> s.config.nconf }
    mxmDevices := c.mxmDevices <|> s.mxmDevices
    trident := { s.trident with wasteSizeMl := c.wasteSize <|> s.trident.wasteSizeMl } }

end ConfigCache

end ReefLink
