import ReefLink.Proofs.Renewal
/-!
# Fetching the status: the fallback and the record it gives

A status fetch tries REST when a password is set, then the JSON status page, then the XML page.
`StatusFallback` says what one fetch sends and what it ends in: served by REST, with a refresh of
the configuration when one is due (`ConfigRefresh`); or, when REST gave nothing (`RestFailed`),
by the pages, whose four ends `PagesFetch` lists: the JSON page answered, or refused the
credentials, or failed otherwise and left the fetch to the XML page, which answered or failed with
its own error. `fetchStatus_spec` proves every fetch is one of these, sent as the client makes its
requests, and gives the status it returns.

The cache enters twice on the REST path: the status is completed from the cache as it was, then a
configuration fetched during the poll is laid over it. So a field the new configuration lacks keeps
the value of the cache it replaced. `fetchStatus_merge` states the record exactly, and when it
differs from one completed with the final cache alone.
-/

namespace ReefLink

/-- The Trident of a status payload has no waste container size: that comes from the
configuration. -/
theorem TridentModule.ofPayload_wasteSizeMl (p : Json) :
    (TridentModule.ofPayload p).wasteSizeMl = none := by
  unfold TridentModule.ofPayload
  split
  · rfl
  · rename_i ms _
    cases h : List.findSome? _ (ms.filterMap Json.fields?) with
    | none => rfl
    | some t =>
      obtain ⟨m, -, hm⟩ := List.exists_of_findSome?_eq_some h
      split at hm
      · cases hm
      · split at hm
        · split at hm
          · cases hm; rfl
          · cases hm
        · cases hm

/-- Finishing a Trident keeps only a usable waste container size. -/
theorem Trident.finalize_wasteSizeMl (t : Trident) :
    t.finalize.wasteSizeMl = Trident.usableSize t.wasteSizeMl := rfl

/-- **A status with nothing of the configuration**: no module or network configuration, no MXM
devices and no waste container size. -/
structure Status.Bare (s : Status) : Prop where
  mconf : s.config.mconf = none
  nconf : s.config.nconf = none
  mxmDevices : s.mxmDevices = none
  wasteSize : s.trident.wasteSizeMl = none

/-- **A status read from a payload** names the endpoint it came from and is bare: the
configuration comes from the cache. -/
theorem readStatus_bare {src : Source} {body : String} {s : Status} (h : readStatus src body = .ok s) :
    s.info.source = src ∧ s.Bare := by
  unfold readStatus at h
  cases src with
  | rest | cgiJson =>
    cases hj : readJsonObject body with
    | error e => simp [hj, Except.map, Functor.map] at h
    | ok p =>
      simp only [hj, Except.map] at h
      injection h with h
      subst h
      refine ⟨rfl, rfl, rfl, rfl, ?_⟩
      -- the Trident's waste size is its payload's, which has none
      rw [Trident.finalize_wasteSizeMl]
      show Trident.usableSize (TridentModule.ofPayload p).wasteSizeMl = none
      rw [TridentModule.ofPayload_wasteSizeMl]
      rfl
  | xml =>
    cases hx : Xml.read body with
    | error e =>
      simp only [hx] at h
      injection h
    | ok root =>
      simp only [hx] at h
      injection h with h
      subst h
      exact ⟨rfl, rfl, rfl, rfl, rfl⟩

/-- The exchange once the status path is remembered, as a REST status fetch does. -/
def Exchange.rememberPath (ex : Exchange) (path : String) : Exchange :=
  { ex with client := { ex.client with session := { ex.client.session with statusPath? := some path } } }

namespace Departure

/-- **The status a page answered**, read as `source`: a success whose body reads as `s`. -/
def ReadsAs (d : Departure) (source : Source) (s : Status) : Prop :=
  ∃ resp, d.reply = .ok resp ∧ resp.isSuccess = true ∧ readStatus source resp.body = .ok s

/-- **The error a page answered**, read as `source`. -/
inductive FailsAs (d : Departure) (source : Source) : Error → Prop
  /-- The controller could not be reached. -/
  | transport {t : TransportError} : d.reply = .error t → FailsAs d source (.transport t)
  /-- It refused the credentials. -/
  | refused {m : String} : d.Refused → FailsAs d source (.auth m)
  /-- It answered another status that is no success. -/
  | status {resp : Response} : d.reply = .ok resp → ¬ (resp.status = 401 ∨ resp.status = 403) →
      resp.isSuccess = false → FailsAs d source (.transport (.unexpectedStatus resp.status))
  /-- Its body does not read. -/
  | unreadable {resp : Response} {f : ReadFailure} : d.reply = .ok resp → resp.isSuccess = true →
      readStatus source resp.body = .error f → FailsAs d source (.read f)

/-- A page that failed answered no status that reads. -/
theorem FailsAs.not_readsAs {d : Departure} {source : Source} {e : Error} (h : d.FailsAs source e)
    (s : Status) : ¬ d.ReadsAs source s := by
  rintro ⟨resp, hr, hs, hread⟩
  cases h with
  | transport ht =>
    rw [ht] at hr
    cases hr
  | refused hq => exact not_refused_of_success hr hs hq
  | status hr' _ hns =>
    rw [hr, Except.ok.injEq] at hr'
    subst hr'
    rw [hs] at hns
    cases hns
  | unreadable hr' _ hf =>
    rw [hr, Except.ok.injEq] at hr'
    subst hr'
    rw [hread] at hf
    cases hf

/-- A page fails with `auth` exactly when it refused the credentials. -/
theorem FailsAs.auth_iff {d : Departure} {source : Source} {e : Error} (h : d.FailsAs source e) :
    (∃ m, e = .auth m) ↔ d.Refused := by
  cases h with
  | transport ht => simp [Refused, ht]
  | refused hq => exact iff_of_true ⟨_, rfl⟩ hq
  | status hr h40x _ => exact iff_of_false (by simp) fun hq => h40x ((refused_iff hr).1 hq)
  | unreadable hr hs _ => exact iff_of_false (by simp) (not_refused_of_success hr hs)

end Departure

/-- A status with its Trident's volumes derived. -/
def Status.finalized (s : Status) : Status := { s with trident := s.trident.finalize }

/-- **The status pages**, asked for over the connection `conn`: the departures `ds` and the
outcome, an error or the payload read and the page it came from. -/
inductive PagesFetch (conn : Connection) : List Departure → Except Error (Source × Status) → Prop
  /-- The JSON page answered a status that reads. -/
  | json {d : Departure} {s₀ : Status} : d.request = pageRequest conn Endpoint.statusJson →
      d.ReadsAs .cgiJson s₀ → PagesFetch conn [d] (.ok (.cgiJson, s₀))
  /-- The JSON page refused the credentials: the fetch ends there. -/
  | refused {d : Departure} {m : String} : d.request = pageRequest conn Endpoint.statusJson →
      d.Refused → PagesFetch conn [d] (.error (.auth m))
  /-- The JSON page failed otherwise, and the XML page at the configured path answered a status
  that reads. -/
  | xml {d d' : Departure} {s₀ : Status} : d.request = pageRequest conn Endpoint.statusJson →
      ¬ d.Refused → (∀ s, ¬ d.ReadsAs .cgiJson s) → d'.request = pageRequest conn conn.statusPath →
      d'.ReadsAs .xml s₀ → PagesFetch conn [d, d'] (.ok (.xml, s₀))
  /-- The JSON page failed otherwise, and so did the XML page, with its own error. -/
  | xmlFailed {d d' : Departure} {e : Error} : d.request = pageRequest conn Endpoint.statusJson →
      ¬ d.Refused → (∀ s, ¬ d.ReadsAs .cgiJson s) → d'.request = pageRequest conn conn.statusPath →
      d'.FailsAs .xml e → PagesFetch conn [d, d'] (.error e)

namespace PagesFetch

variable {conn : Connection} {ds : List Departure}

/-- Every page a fetch asks for is the JSON page or the XML page at the configured path. -/
theorem requests {o : Except Error (Source × Status)} (h : PagesFetch conn ds o) :
    ∀ x ∈ ds, x.request = pageRequest conn Endpoint.statusJson ∨
      x.request = pageRequest conn conn.statusPath := by
  cases h with
  | json hd _ | refused hd _ => simp [hd]
  | xml hd _ _ hd' _ | xmlFailed hd _ _ hd' _ => simp [hd, hd']

/-- The payload of a page is read from it, and bare. -/
theorem bare {source : Source} {s₀ : Status} (h : PagesFetch conn ds (.ok (source, s₀))) :
    s₀.info.source = source ∧ s₀.Bare := by
  cases h with
  | json _ hr | xml _ _ _ _ hr =>
    obtain ⟨resp, -, -, hread⟩ := hr
    exact readStatus_bare hread

end PagesFetch

/-- **A status page leaves as the client makes them**, whatever the state of REST: the JSON page
is no REST path, and the XML page at the configured path is exempt. Neither asks for a
back-off. -/
theorem Departure.page_proper {x : Departure} {conn : Connection} (hc : x.client.conn = conn)
    (hr : x.request = pageRequest conn Endpoint.statusJson ∨
      x.request = pageRequest conn conn.statusPath) :
    x.backoffUntil = 0 ∧ x.Proper conn := by
  rcases hr with hr | hr
  · have hn : ¬ x.IsRest := by
      unfold IsRest IsRestPath
      rw [hr]
      show ¬ (normalizePath Endpoint.statusJson).startsWith "/rest/" = true
      decide +kernel
    exact ⟨backoffUntil_eq_zero (fun h => hn h.1), hc, fun h => absurd h hn,
      fun h => absurd h.isRest hn⟩
  · have hp : x.IsStatusPage := by
      unfold IsStatusPage
      rw [hc]
      exact Request.isPage_iff.2 hr
    exact ⟨backoffUntil_of_statusPage hp, hc, fun _ => Or.inr hp, fun h => absurd hp h.not_statusPage⟩

/-- Laying a cache over a bare status it completed changes nothing. -/
theorem ConfigCache.applyTo_mergeInto_self (c : ConfigCache) {s : Status} (hb : s.Bare) :
    c.applyTo (c.mergeInto s) = c.mergeInto s := by
  simp [applyTo, mergeInto, hb.mconf, hb.nconf, hb.mxmDevices, hb.wasteSize]

/-- Finishing a Trident sees its waste container size only as a usable size. -/
theorem Trident.finalize_congr_wasteSize (t : Trident) {x y : Option Float}
    (h : Trident.usableSize x = Trident.usableSize y) :
    ({ t with wasteSizeMl := x } : Trident).finalize = ({ t with wasteSizeMl := y } : Trident).finalize := by
  simp only [Trident.finalize, h]

/-- **A cache as a poll leaves it**: the one it began with, or that one with a snapshot stored. -/
def ConfigCache.KeptOrStored (c c' : ConfigCache) : Prop := c' = c ∨ ∃ snap t, c' = c.store snap t

/-- **Overlaying the cache a poll leaves** on a bare status completed from the cache it began with
is completing it from the final cache, but for the waste container size: there the final cache's
comes first and the first cache's fills in. -/
theorem ConfigCache.applyTo_mergeInto {c c' : ConfigCache} {s : Status} (hb : s.Bare)
    (hc : c.KeptOrStored c') :
    c'.applyTo (c.mergeInto s) = { c'.mergeInto s with trident := { (c'.mergeInto s).trident with
      wasteSizeMl := c'.wasteSize <|> c.wasteSize } } := by
  rcases hc with rfl | ⟨snap, t, rfl⟩
  · simp [applyTo, mergeInto, hb.mconf, hb.nconf, hb.mxmDevices, hb.wasteSize]
  · -- a stored snapshot always has modules and MXM devices, and keeps a network it lacks
    cases hn : snap.config.nconf <;>
      simp [applyTo, mergeInto, store, hb.mconf, hb.nconf, hb.mxmDevices, hb.wasteSize, hn]

/-- **The record of a poll against the one the final cache alone gives**: they agree unless the
final cache has no waste container size and the first had a usable one. -/
theorem ConfigCache.applyTo_mergeInto_finalized_iff {c c' : ConfigCache} {s : Status} (hb : s.Bare)
    (hc : c.KeptOrStored c') :
    (c'.applyTo (c.mergeInto s)).finalized = (c'.mergeInto s).finalized ↔
      ¬ (c'.wasteSize = none ∧ (Trident.usableSize c.wasteSize).isSome) := by
  rw [applyTo_mergeInto hb hc]
  have hx : (c'.mergeInto s).trident.wasteSizeMl = c'.wasteSize := by
    simp [mergeInto, hb.wasteSize]
  constructor
  · -- the two records differ in their usable waste container size
    rintro h ⟨hnone, hsome⟩
    have hw := congrArg (fun r : Status => r.trident.wasteSizeMl) h
    simp only [Status.finalized, Trident.finalize_wasteSizeMl, hx, hnone] at hw
    have hw' : Trident.usableSize c.wasteSize = none := by
      simpa [show Trident.usableSize none = none from rfl] using hw
    rw [hw'] at hsome
    simp at hsome
  · intro h
    have hu : Trident.usableSize (c'.wasteSize <|> c.wasteSize) =
        Trident.usableSize (c'.mergeInto s).trident.wasteSizeMl := by
      rw [hx]
      cases hw : c'.wasteSize with
      | some v => rfl
      | none => simpa [hw, Trident.usableSize] using h
    simp only [Status.finalized]
    rw [Trident.finalize_congr_wasteSize _ hu]

/-- **A refresh of the configuration after a REST status**, by a client with the connection and
cache of `c`, at a time `t`: nothing when the cache was not due, and one REST call of the
configuration, signing in first, when it was. -/
def ConfigRefresh (c : Client) (cfg : List Departure) : Prop :=
  ∃ c₁ t, c₁.conn = c.conn ∧ c₁.cache = c.cache ∧
    (c.cache.needsRefresh t false = false ∧ cfg = [] ∨
      c.cache.needsRefresh t false = true ∧
        CallRecord c₁ t (Request.make .get Endpoint.restConfig) true cfg)

/-- **REST gave no status**: without a password it was not tried; with one, the REST call of the
session's status path ended without a payload that reads. -/
def RestFailed (c : Client) (now : Nat) (pre : List Departure) : Prop :=
  c.conn.hasPassword = false ∧ pre = [] ∨
    c.conn.hasPassword = true ∧ CallRecord c now (Request.make .get c.session.statusPath) false pre ∧
      ∀ resp, Answered (Request.make .get c.session.statusPath) resp pre →
        ∃ f, readStatus .rest resp.body = .error f

/-- **What a status fetch sent and got**, from the client `c` at the time `now`: the departures
`ds` and the outcome, an error or the payload read and the endpoint it came from. -/
inductive StatusFallback (c : Client) (now : Nat) :
    List Departure → Except Error (Source × Status) → Prop
  /-- A password is set and the REST status answered a payload that reads; a refresh of the
  configuration follows when due. No page is asked for. -/
  | rest {pre cfg : List Departure} {resp : Response} {s₀ : Status} :
      c.conn.hasPassword = true →
      CallRecord c now (Request.make .get c.session.statusPath) false pre →
      Answered (Request.make .get c.session.statusPath) resp pre →
      readStatus .rest resp.body = .ok s₀ → ConfigRefresh c cfg →
      StatusFallback c now (pre ++ cfg) (.ok (.rest, s₀))
  /-- REST gave no status, and the pages were asked for. -/
  | pages {pre ds : List Departure} {o : Except Error (Source × Status)} :
      RestFailed c now pre → PagesFetch c.conn ds o → StatusFallback c now (pre ++ ds) o

/-- The payload a fetch got is read from the endpoint it names, and bare. -/
theorem StatusFallback.bare {c : Client} {now : Nat} {ds : List Departure} {source : Source}
    {s₀ : Status} (h : StatusFallback c now ds (.ok (source, s₀))) :
    s₀.info.source = source ∧ s₀.Bare := by
  cases h with
  | rest _ _ _ hread => exact readStatus_bare hread
  | pages _ hp => exact hp.bare

/-- A refresh by a client that kept the connection and cache of another is one by the other. -/
theorem ConfigRefresh.of_keeps {c c' : Client} {cfg : List Departure} (hk : c.Keeps c')
    (h : ConfigRefresh c' cfg) : ConfigRefresh c cfg := by
  obtain ⟨c₁, t, hconn, hcache, hdue⟩ := h
  rw [hk.conn] at hconn
  rw [hk.cache] at hcache hdue
  exact ⟨c₁, t, hconn, hcache, hdue⟩

/-- Remembering the status path the session already uses keeps the client. -/
theorem Client.Keeps.rememberPath {c : Client} {ex₁ : Exchange} (h : c.Keeps ex₁.client) :
    c.Keeps (ex₁.rememberPath c.session.statusPath).client :=
  ⟨h.conn, h.cache, h.tridentAbaddr, h.activeFeed, rfl, h.later⟩

namespace Call

variable {ex : Exchange}

/-- **A status page**: it is asked for once, and its answer gives the status, merged with the
cache, or the error. -/
theorem fetchPageStatus_spec (source : Source) (path : String) (ex : Exchange) :
    WP (fetchPageStatus source path)
      (fun s ex' => ex' = ex.depart (pageRequest ex.client.conn path) ∧
        ∃ s₀, (ex.departure (pageRequest ex.client.conn path)).ReadsAs source s₀ ∧
          s = ex.client.cache.mergeInto s₀)
      (fun e ex' => ex' = ex.depart (pageRequest ex.client.conn path) ∧
        (ex.departure (pageRequest ex.client.conn path)).FailsAs source e) ex := by
  unfold fetchPageStatus
  simp only [wp_bind, wp_state, wp_exchange]
  cases hn : ex.link.next.1 with
  | error t => exact ⟨rfl, .transport hn⟩
  | ok resp =>
    have hd : (ex.departure (pageRequest ex.client.conn path)).reply = .ok resp := hn
    simp only
    by_cases hu : resp.isUnauthorized = true
    · have h40x : resp.status = 401 ∨ resp.status = 403 := by simpa [Response.isUnauthorized] using hu
      rw [if_pos hu, wp_bind, wp_throw]
      exact ⟨rfl, .refused ⟨resp, hd, h40x⟩⟩
    have h40x : ¬ (resp.status = 401 ∨ resp.status = 403) := by simpa [Response.isUnauthorized] using hu
    rw [if_neg hu]
    by_cases hs : resp.isSuccess = true
    · rw [if_neg (by simp [hs])]
      simp only [wp_bind, wp_ofRead]
      cases hr : readStatus source resp.body with
      | error f => exact ⟨rfl, .unreadable hd hs hr⟩
      | ok s₀ => exact ⟨rfl, s₀, ⟨resp, hd, hs, hr⟩, rfl⟩
    · rw [if_pos (by simp [hs]), wp_bind, wp_throw]
      exact ⟨rfl, .status hd h40x (by simpa using hs)⟩

/-- **What a configuration refresh during a poll did**, from `ex` to `ex'`, to the status
`status`, giving `s`; `cfg` is what it sent. -/
inductive Refreshed (ex : Exchange) (status : Status) : List Departure → Status → Exchange → Prop
  /-- The cache was not due: nothing is sent and nothing changes. -/
  | notDue : ex.client.cache.needsRefresh ex.link.clock false = false →
      Refreshed ex status [] status ex
  /-- The configuration call failed, or its answer did not read: status and cache stay. -/
  | kept {cfg : List Departure} {ex' : Exchange} :
      ex.client.cache.needsRefresh ex.link.clock false = true → Leaves ex cfg ex' →
      CallRecord ex.client ex.link.clock (Request.make .get Endpoint.restConfig) true cfg →
      Refreshed ex status cfg status ex'
  /-- A snapshot came: it is stored at the time the refresh began and laid over the status. -/
  | stored {cfg : List Departure} {ex₁ : Exchange} {snap : Snapshot} :
      ex.client.cache.needsRefresh ex.link.clock false = true → Leaves ex cfg ex₁ →
      CallRecord ex.client ex.link.clock (Request.make .get Endpoint.restConfig) true cfg →
      Refreshed ex status cfg ((ex₁.client.cache.store snap ex.link.clock).applyTo status)
        { ex₁ with client := { ex₁.client with cache := ex₁.client.cache.store snap ex.link.clock } }

/-- **A refresh during a poll** never fails: a failed configuration call keeps what was there. -/
theorem refreshConfigIfDue_spec (status : Status) (ex : Exchange) :
    WP (refreshConfigIfDue status) (fun s ex' => ∃ cfg, Refreshed ex status cfg s ex')
      (fun _ _ => False) ex := by
  unfold refreshConfigIfDue
  simp only [wp_bind, wp_clock, wp_state]
  by_cases hdue : ex.client.cache.needsRefresh ex.link.clock false = true
  · rw [if_neg (by simp [hdue]), wp_bind, wp_attempt]
    unfold fetchConfig
    simp only [wp_bind]
    refine (restCall_spec _ true ex).mono ?_ ?_
    · rintro resp ex₁ ⟨cfg, hl, hrec, -⟩
      simp only [wp_bind, wp_ofRead]
      cases readJsonObject resp.body with
      | error f => exact ⟨cfg, .kept hdue hl hrec⟩
      | ok p => exact ⟨cfg, .stored hdue hl hrec⟩
    · rintro e ex₁ ⟨cfg, hl, hrec, -⟩
      exact ⟨cfg, .kept hdue hl hrec⟩
  · rw [if_pos (by simpa using hdue)]
    exact ⟨[], .notDue (by simpa using hdue)⟩

/-- **The REST status**: one REST call of the session's status path, without signing in first.
When it answers a status that reads, the status is completed from the cache and a due refresh
follows; otherwise the fetch fails with the call's record and nothing else changed. -/
theorem fetchRestStatus_spec (ex : Exchange) :
    WP fetchRestStatus
      (fun s ex' => ∃ pre resp s₀ ex₁ cfg, Leaves ex pre ex₁ ∧
        CallRecord ex.client ex.link.clock (Request.make .get ex.client.session.statusPath) false pre ∧
        Answered (Request.make .get ex.client.session.statusPath) resp pre ∧
        readStatus .rest resp.body = .ok s₀ ∧
        Refreshed (ex₁.rememberPath ex.client.session.statusPath) (ex₁.client.cache.mergeInto s₀) cfg s ex')
      (fun _ ex' => ∃ pre, Leaves ex pre ex' ∧
        CallRecord ex.client ex.link.clock (Request.make .get ex.client.session.statusPath) false pre ∧
        ∀ resp, Answered (Request.make .get ex.client.session.statusPath) resp pre →
          ∃ f, readStatus .rest resp.body = .error f) ex := by
  unfold fetchRestStatus
  simp only [wp_bind, wp_state]
  refine (restCall_spec _ false ex).mono ?_ ?_
  · rintro resp ex₁ ⟨pre, hl, hrec, hans⟩
    simp only [wp_bind, wp_ofRead]
    cases hr : readStatus .rest resp.body with
    | error f =>
      refine ⟨pre, hl, hrec, fun resp' hans' => ⟨f, ?_⟩⟩
      obtain ⟨d, hd, -, hreply, -⟩ := hans
      obtain ⟨d', hd', -, hreply', -⟩ := hans'
      rw [Option.mem_def.1 hd, Option.mem_def, Option.some.injEq] at hd'
      subst hd'
      rw [hreply, Except.ok.injEq] at hreply'
      rw [← hreply', hr]
    | ok s₀ =>
      simp only [wp_updateSession, wp_bind, wp_state]
      refine (refreshConfigIfDue_spec _ _).mono ?_ (fun _ _ h => h.elim)
      rintro s ex' ⟨cfg, hrf⟩
      exact ⟨pre, resp, s₀, ex₁, cfg, hl, hrec, hans, hr, hrf⟩
  · rintro e ex₁ ⟨pre, hl, hrec, hun⟩
    exact ⟨pre, hl, hrec, fun resp hans => absurd hans (hun.not_answered (by simp [Request.make]))⟩

/-- **Finishing a status** derives its Trident's volumes and remembers the Trident and the feed
that runs. -/
@[simp] theorem wp_finish (s : Status) {Q : Status → Exchange → Prop} :
    WP (finish s) Q E ex ↔ Q s.finalized { ex with client := { ex.client with
      tridentAbaddr := s.finalized.tridentAbaddr, activeFeed := runningFeed s.finalized } } := Iff.rfl

/-- The pages of a fetch left from the client as it was, which kept its connection, session and
cache. -/
def PagesSent (ex : Exchange) (ds : List Departure) (ex' : Exchange) : Prop :=
  ex'.sent = ex.sent ++ ds ∧ (∀ x ∈ ds, x.client = ex.client) ∧ ex'.client.conn = ex.client.conn ∧
    ex'.client.session = ex.client.session ∧ ex'.client.cache = ex.client.cache

/-- **The status pages**, asked for from the client as it is: a status is the answering page's
payload, completed from the cache and finished. -/
theorem fetchLegacyStatus_spec (ex : Exchange) :
    WP fetchLegacyStatus
      (fun r ex' => ∃ ds source s₀, PagesFetch ex.client.conn ds (.ok (source, s₀)) ∧
        PagesSent ex ds ex' ∧ r = (ex.client.cache.mergeInto s₀).finalized)
      (fun e ex' => ∃ ds, PagesFetch ex.client.conn ds (.error e) ∧ PagesSent ex ds ex') ex := by
  unfold fetchLegacyStatus
  rw [wp_bind, wp_attempt]
  refine (fetchPageStatus_spec .cgiJson _ ex).mono ?_ ?_
  · rintro s ex₁ ⟨rfl, s₀, hreads, rfl⟩
    simp only [wp_finish]
    exact ⟨[_], _, s₀, .json rfl hreads, ⟨by simp, by simp, rfl, rfl, rfl⟩, rfl⟩
  · rintro e ex₁ ⟨rfl, hfail⟩
    split
    · rename_i heq
      cases heq
    · rename_i m heq
      cases heq
      exact ⟨[_], .refused rfl (hfail.auth_iff.1 ⟨m, rfl⟩), ⟨by simp, by simp, rfl, rfl, rfl⟩⟩
    · rename_i e' hne heq
      cases heq
      have hq : ¬ (ex.departure (pageRequest ex.client.conn Endpoint.statusJson)).Refused :=
        fun h => by
          obtain ⟨m, hm⟩ := hfail.auth_iff.2 h
          exact hne m hm
      simp only [wp_bind, wp_state]
      refine (fetchPageStatus_spec .xml _ _).mono ?_ ?_
      · rintro s ex₂ ⟨rfl, s₀, hreads, rfl⟩
        simp only [wp_finish]
        exact ⟨[_, _], _, s₀, .xml rfl hq hfail.not_readsAs rfl hreads,
          ⟨by simp, by simp, rfl, rfl, rfl⟩, rfl⟩
      · rintro e ex₂ ⟨rfl, hfail'⟩
        exact ⟨[_, _], .xmlFailed rfl hq hfail.not_readsAs rfl hfail', ⟨by simp, by simp, rfl, rfl, rfl⟩⟩

/-- **A JSON page not found falls to the XML page**: when the next reply is a `404`, the pages ask
for the XML page at the configured path, from the client as it is and at the time it is, whatever
that page answers. -/
theorem fetchLegacyStatus_notFound {ex : Exchange} {rest : List Reply}
    (hlink : ex.link.replies = .ok { status := 404 } :: rest) :
    WP fetchLegacyStatus
      (fun _ ex' => ∃ x ∈ ex'.sent, x.client = ex.client ∧ x.clock = ex.link.clock ∧
        x.request = pageRequest ex.client.conn ex.client.conn.statusPath)
      (fun _ ex' => ∃ x ∈ ex'.sent, x.client = ex.client ∧ x.clock = ex.link.clock ∧
        x.request = pageRequest ex.client.conn ex.client.conn.statusPath) ex := by
  have hnext : ex.link.next.1 = .ok { status := 404 } := by simp [Link.next, hlink]
  unfold fetchLegacyStatus
  rw [wp_bind, wp_attempt]
  refine (fetchPageStatus_spec .cgiJson _ _).mono ?_ ?_
  · rintro s ex₁ ⟨-, s₀, ⟨resp, hr, hs, -⟩, -⟩
    rw [Exchange.departure_reply, hnext, Except.ok.injEq] at hr
    subst hr
    simp [Response.isSuccess] at hs
  · rintro e ex₁ ⟨rfl, hfail⟩
    split
    · rename_i heq
      cases heq
    · rename_i m heq
      cases heq
      obtain ⟨resp, hr, h40x⟩ := hfail.auth_iff.1 ⟨m, rfl⟩
      rw [Exchange.departure_reply, hnext, Except.ok.injEq] at hr
      subst hr
      simp at h40x
    · simp only [wp_bind, wp_state]
      refine (fetchPageStatus_spec .xml _ _).mono ?_ ?_
      all_goals
        rintro _ ex₂ ⟨rfl, -⟩
        simp only [wp_finish, Exchange.depart_sent]
        exact ⟨_, List.mem_append_right _ (List.mem_singleton_self _), rfl, by simp, rfl⟩

/-- **The pages leave as the client makes them**: from the client as it was, and none asks for a
back-off. -/
theorem PagesSent.sends {ds : List Departure} {ex' : Exchange} {o : Except Error (Source × Status)}
    (hs : PagesSent ex ds ex') (hf : PagesFetch ex.client.conn ds o) : Sends ex ds ex' := by
  obtain ⟨hsent, hcl, hconn, hsess, -⟩ := hs
  have hp : ∀ x ∈ ds, x.backoffUntil = 0 ∧ x.Proper ex.client.conn := fun x hx =>
    Departure.page_proper (by rw [hcl x hx]) (hf.requests x hx)
  have hd : ex'.client.session.deadline = ex.client.session.deadline := by rw [hsess]
  exact {
    sent := hsent
    later := Nat.le_of_eq hd.symm
    backoff := fun x hx => by
      rw [(hp x hx).1]
      exact Nat.zero_le _
    between := fun x hx => by
      rw [hcl x hx, hd]
      exact ⟨Nat.le_refl _, Nat.le_refl _⟩
    spaced := Departure.spaced_of_dropLast fun y hy => (hp y (List.dropLast_subset _ hy)).1
    conn := hconn
    proper := fun x hx => (hp x hx).2 }

/-- **What a refresh during a poll sends and leaves**: a refresh of the configuration, sent as the
client makes them, and the status it was given, or that status with the stored snapshot laid over
it. -/
theorem Refreshed.sends {ex' : Exchange} {status s : Status} {cfg : List Departure}
    (h : Refreshed ex status cfg s ex') :
    ConfigRefresh ex.client cfg ∧ Sends ex cfg ex' ∧
      (s = status ∧ ex'.client.cache = ex.client.cache ∨
        ∃ snap t, ex'.client.cache = ex.client.cache.store snap t ∧
          s = ex'.client.cache.applyTo status) := by
  have get : (Request.make .get Endpoint.restConfig).method ≠ .post := by simp [Request.make]
  cases h with
  | notDue hdue =>
    exact ⟨⟨ex.client, ex.link.clock, rfl, rfl, .inl ⟨hdue, rfl⟩⟩, .refl ex, .inl ⟨rfl, rfl⟩⟩
  | kept hdue hl hrec =>
    exact ⟨⟨ex.client, ex.link.clock, rfl, rfl, .inr ⟨hdue, hrec⟩⟩, .of_callRecord hl hrec get,
      .inl ⟨rfl, hl.keeps.cache⟩⟩
  | @stored _ _ snap hdue hl hrec =>
    refine ⟨⟨ex.client, ex.link.clock, rfl, rfl, .inr ⟨hdue, hrec⟩⟩,
      (Sends.of_callRecord hl hrec get).update rfl rfl rfl, .inr ⟨snap, ex.link.clock, ?_, rfl⟩⟩
    -- the configuration call kept the cache the snapshot is stored in
    show ConfigCache.store _ _ _ = _
    rw [hl.keeps.cache]

/-- **The pages after REST gave nothing**: REST sent `pre` and left `ex₁` with the cache it found;
the pages end the fetch. -/
theorem fetchLegacyStatus_after {pre : List Departure} {ex₁ : Exchange}
    (hrest : RestFailed ex.client ex.link.clock pre) (hs : Sends ex pre ex₁)
    (hcache : ex₁.client.cache = ex.client.cache) :
    WP fetchLegacyStatus
      (fun r ex' => ∃ ds source s₀, StatusFallback ex.client ex.link.clock ds (.ok (source, s₀)) ∧
        Sends ex ds ex' ∧ ex.client.cache.KeptOrStored ex'.client.cache ∧
        r = (ex'.client.cache.applyTo (ex.client.cache.mergeInto s₀)).finalized)
      (fun e ex' => ∃ ds, StatusFallback ex.client ex.link.clock ds (.error e) ∧ Sends ex ds ex')
      ex₁ := by
  refine (fetchLegacyStatus_spec ex₁).mono ?_ ?_
  · rintro r ex' ⟨ds, source, s₀, hf, hsent, rfl⟩
    have hcache' : ex'.client.cache = ex.client.cache := hsent.2.2.2.2.trans hcache
    refine ⟨pre ++ ds, source, s₀, .pages hrest (hs.conn ▸ hf), hs.trans (hsent.sends hf),
      .inl hcache', ?_⟩
    rw [hcache', hcache, ConfigCache.applyTo_mergeInto_self _ hf.bare.2]
  · rintro e ex' ⟨ds, hf, hsent⟩
    exact ⟨pre ++ ds, .pages hrest (hs.conn ▸ hf), hs.trans (hsent.sends hf)⟩

/-- **A status fetch** is one of the ways `StatusFallback` lists, sent as the client makes them;
a status it returns is the payload read, completed from the cache it began with and overlaid with
the cache it leaves, which is that cache or one with a snapshot stored. -/
theorem fetchStatus_spec (ex : Exchange) :
    WP fetchStatus
      (fun r ex' => ∃ ds source s₀, StatusFallback ex.client ex.link.clock ds (.ok (source, s₀)) ∧
        Sends ex ds ex' ∧ ex.client.cache.KeptOrStored ex'.client.cache ∧
        r = (ex'.client.cache.applyTo (ex.client.cache.mergeInto s₀)).finalized)
      (fun e ex' => ∃ ds, StatusFallback ex.client ex.link.clock ds (.error e) ∧ Sends ex ds ex') ex := by
  unfold fetchStatus
  simp only [wp_bind, wp_state]
  have get : (Request.make .get ex.client.session.statusPath).method ≠ .post := by
    simp [Request.make]
  by_cases hp : ex.client.conn.hasPassword = true
  · rw [if_pos hp, wp_bind, wp_attempt]
    refine (fetchRestStatus_spec ex).mono ?_ ?_
    · rintro s ex₂ ⟨pre, resp, s₀, ex₁, cfg, hl, hrec, hans, hread, hrf⟩
      dsimp only
      rw [wp_finish]
      obtain ⟨hcfg, hsends, hs⟩ := hrf.sends
      have hrest : Sends ex pre (ex₁.rememberPath ex.client.session.statusPath) :=
        (Sends.of_callRecord hl hrec get).update rfl rfl rfl
      refine ⟨pre ++ cfg, .rest, s₀, .rest hp hrec hans hread (.of_keeps hl.keeps.rememberPath hcfg),
        (hrest.trans hsends).update rfl rfl rfl, ?_⟩
      show ex.client.cache.KeptOrStored ex₂.client.cache ∧
        s.finalized = (ex₂.client.cache.applyTo (ex.client.cache.mergeInto s₀)).finalized
      have hcache₁ : ex₁.client.cache = ex.client.cache := hl.keeps.cache
      rcases hs with ⟨rfl, hkept⟩ | ⟨snap, t, hstored, rfl⟩
      · have hkept' : ex₂.client.cache = ex.client.cache := hkept.trans hcache₁
        refine ⟨.inl hkept', ?_⟩
        show (ex₁.client.cache.mergeInto s₀).finalized = _
        rw [hkept', hcache₁, ConfigCache.applyTo_mergeInto_self _ (readStatus_bare hread).2]
      · refine ⟨.inr ⟨snap, t, hstored.trans (by rw [← hcache₁]; rfl)⟩, ?_⟩
        show (ex₂.client.cache.applyTo (ex₁.client.cache.mergeInto s₀)).finalized = _
        rw [hcache₁]
    · rintro e ex₁ ⟨pre, hl, hrec, hno⟩
      exact fetchLegacyStatus_after (.inr ⟨hp, hrec, hno⟩) (Sends.of_callRecord hl hrec get)
        hl.keeps.cache
  · rw [if_neg hp]
    exact fetchLegacyStatus_after (.inl ⟨by simpa using hp, rfl⟩) (.refl ex) rfl

/-- **A status fetch falls back from REST to the JSON page to the XML page**: what it sends and
what it ends in is one of the ways `StatusFallback` lists, and a status it returns names the
endpoint whose payload it is. -/
theorem fetchStatus_falls_back (ex : Exchange) :
    WP fetchStatus
      (fun r ex' => ∃ ds source s₀, ex'.sent = ex.sent ++ ds ∧
        StatusFallback ex.client ex.link.clock ds (.ok (source, s₀)) ∧ r.info.source = source)
      (fun e ex' => ∃ ds, ex'.sent = ex.sent ++ ds ∧
        StatusFallback ex.client ex.link.clock ds (.error e)) ex := by
  refine (fetchStatus_spec ex).mono ?_ ?_
  · rintro r ex' ⟨ds, source, s₀, hfb, hs, -, rfl⟩
    exact ⟨ds, source, s₀, hs.sent, hfb, hfb.bare.1⟩
  · rintro e ex' ⟨ds, hfb, hs⟩
    exact ⟨ds, hs.sent, hfb⟩

/-- **The record a status fetch returns**: the payload read, completed from the cache the fetch
began with and overlaid with the cache it leaves. It is the payload completed from the final cache
alone unless the fetch stored a configuration with no waste container size over a cache with a
usable one: the record then keeps the size of the configuration it superseded. -/
theorem fetchStatus_merge (ex : Exchange) :
    WP fetchStatus
      (fun r ex' => ∃ ds source s₀, StatusFallback ex.client ex.link.clock ds (.ok (source, s₀)) ∧
        r = (ex'.client.cache.applyTo (ex.client.cache.mergeInto s₀)).finalized ∧
        (r = (ex'.client.cache.mergeInto s₀).finalized ↔
          ¬ (ex'.client.cache.wasteSize = none ∧
            (Trident.usableSize ex.client.cache.wasteSize).isSome)))
      (fun _ _ => True) ex := by
  refine (fetchStatus_spec ex).mono ?_ (fun _ _ _ => trivial)
  rintro r ex' ⟨ds, source, s₀, hfb, -, hkept, rfl⟩
  exact ⟨ds, source, s₀, hfb, rfl, ConfigCache.applyTo_mergeInto_finalized_iff hfb.bare.2 hkept⟩

end Call

end ReefLink
