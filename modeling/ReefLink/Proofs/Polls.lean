import ReefLink.Proofs.CacheKept
import ReefLink.Proofs.CacheHistory
import ReefLink.Proofs.Fallback
import ReefLink.Client.Operation
import Mathlib.Data.List.Infix
/-!
# Polling refreshes the configuration only when it is due

A client that polls the status keeps a configuration cache, and a poll asks for the configuration
(`/rest/config`) only when the cache says a refresh is due. This file follows the cache through
every run of polls: status fetches, with the clock and the controller's replies moving on between
them.

`Departure.configSnapshot` is the configuration a request brought: a success answered to a request
for the configuration path, whose body reads. `Stores ex ds hist ex'` says what a stretch of
running from `ex` to `ex'` did to the cache. It sent `ds`, and left the cache it began with with
`hist` stored in turn; the snapshots stored are exactly those `ds` brought, so a request that
brought none (a refusal, a failure, a body that does not read) changed nothing; and each request
for the configuration left from a client holding the cache with a prefix of `hist` stored, while
a refresh was due. Stretches compose (`Stores.trans`), a status fetch is one
(`fetchStatus_stores`), and so is every run of polls (`runAll_stores`).

The REST status path and the XML status page must not be the configuration path themselves
(`Client.StatusPathsApart`). Nothing keeps a connection from naming `/rest/config` as its XML
status page, and such a client asks for it whenever REST gives no status and the JSON page fails,
a refresh due or not (`fetchStatus_asks_statusPage`, and the last theorem of this file).

Main statement: `config_refresh_policy`, the cache's history (`ConfigCache.storeAll_history`)
together with what runs of polls do to it.
-/

namespace ReefLink

namespace Departure

/-- **The configuration a request brought**: a success answered to a request for the
configuration path, whose body reads as a JSON object. -/
def configSnapshot (x : Departure) : Option Snapshot :=
  if x.request.path = Endpoint.restConfig then
    match x.reply with
    | .ok resp =>
      if resp.isSuccess then (readJsonObject resp.body).toOption.map Snapshot.ofPayload else none
    | .error _ => none
  else none

theorem configSnapshot_of_ne {x : Departure} (h : x.request.path ≠ Endpoint.restConfig) :
    x.configSnapshot = none := by
  simp [configSnapshot, h]

/-- A refusal brings nothing: `401` and `403` are no success. -/
theorem configSnapshot_of_refused {x : Departure} (h : x.Refused) : x.configSnapshot = none := by
  obtain ⟨resp, hr, hs⟩ := h
  have hns : resp.isSuccess = false := by
    rcases hs with hs | hs <;> simp [Response.isSuccess, hs]
  simp [configSnapshot, hr, hns]

/-- A sign-in asks for the login path. -/
theorem IsSignIn.path_ne {x : Departure} (h : x.IsSignIn) : x.request.path ≠ Endpoint.restConfig := by
  rw [h.2]
  decide

/-- Requests none of which asks for the configuration path bring none. -/
theorem filterMap_configSnapshot_eq_nil {ds : List Departure}
    (h : ∀ x ∈ ds, x.request.path ≠ Endpoint.restConfig) : ds.filterMap configSnapshot = [] :=
  List.filterMap_eq_nil_iff.2 fun x hx => configSnapshot_of_ne (h x hx)

end Departure

/-- A request made for a path asks for it in normal form. -/
@[simp] theorem Request.make_path (m : Method) (p : String) : (Request.make m p).path = normalizePath p := by
  -- not `rfl`: checking it unfolds `normalizePath` before the request, which takes seconds
  simp only [Request.make]

/-- A status page is asked for at its path in normal form. -/
@[simp] theorem pageRequest_path (conn : Connection) (p : String) :
    (pageRequest conn p).path = normalizePath p := by
  simp only [pageRequest, Request.make]

/-- The configuration request asks for the configuration path as written. -/
theorem path_configRequest : (Request.make .get Endpoint.restConfig).path = Endpoint.restConfig := by
  rw [Request.make_path]
  decide +kernel

/-! ### What one REST call brings -/

section Call

variable {c : Client} {now : Nat} {r : Request} {loginFirst : Bool} {ds : List Departure}

/-- **Before its last request, a REST call sends only sign-ins and a refused request.** -/
theorem CallRecord.dropLast (h : CallRecord c now r loginFirst ds) :
    ∀ x ∈ ds.dropLast, x.IsSignIn ∨ x.Refused := by
  -- what follows the sign-ins is the request once at most, so all before the last are sign-ins
  have hafter : ∀ {ins post : List Departure}, SignIns ins → Resent r ins post →
      ∀ x ∈ (ins ++ post).dropLast, x.IsSignIn := by
    intro ins post hins hres x hx
    rcases hres with ⟨rfl, -⟩ | ⟨d, t, rfl, -⟩
    · rw [List.append_nil] at hx
      exact (hins.1 x (List.mem_of_mem_dropLast hx)).1
    · rw [List.dropLast_concat] at hx
      exact (hins.1 x hx).1
  cases h with
  | shut => simp
  | once => simp
  | @renewed d ins post _ _ _ hrefused hins hres =>
    intro x hx
    by_cases hnil : ins ++ post = []
    · rw [hnil] at hx
      simp at hx
    · rw [List.dropLast_cons_of_ne_nil hnil] at hx
      rcases List.mem_cons.1 hx with rfl | hx
      · exact .inr hrefused
      · exact .inl (hafter hins hres x hx)
  | signedIn _ _ _ hins hres => exact fun x hx => .inl (hafter hins hres x hx)

/-- **A REST call brings at most one configuration**: the one its last request brought. -/
theorem CallRecord.configSnapshots (h : CallRecord c now r loginFirst ds) :
    ds.filterMap Departure.configSnapshot = (ds.getLast?.bind Departure.configSnapshot).toList := by
  cases hl : ds.getLast? with
  | none => rw [List.getLast?_eq_none_iff.1 hl]; rfl
  | some d =>
    have hpre : ds.dropLast.filterMap Departure.configSnapshot = [] := by
      refine List.filterMap_eq_nil_iff.2 fun x hx => ?_
      rcases h.dropLast x hx with hs | hq
      · exact Departure.configSnapshot_of_ne hs.path_ne
      · exact Departure.configSnapshot_of_refused hq
    rw [← List.dropLast_append_getLast? d hl, List.filterMap_append, hpre, List.nil_append,
      Option.bind_some]
    cases hd : d.configSnapshot <;> simp [hd]

/-- A REST call of another path sends no request for the configuration. -/
theorem CallRecord.path_ne (h : CallRecord c now r loginFirst ds) (hr : r.path ≠ Endpoint.restConfig) :
    ∀ x ∈ ds, x.request.path ≠ Endpoint.restConfig := by
  intro x hx
  rcases (h.departures x hx).2 with ⟨hs, -⟩ | ⟨tok, hreq⟩
  · exact hs.path_ne
  · rw [hreq]
    exact hr

end Call

/-- The configuration an answered configuration call brought is its answer's, when that reads. -/
theorem Answered.configSnapshot {resp : Response} {ds : List Departure}
    (h : Answered (Request.make .get Endpoint.restConfig) resp ds) :
    ds.getLast?.bind Departure.configSnapshot =
      (readJsonObject resp.body).toOption.map Snapshot.ofPayload := by
  obtain ⟨d, hd, ⟨tok, hreq⟩, hreply, hs⟩ := h
  have hpath : d.request.path = Endpoint.restConfig := by
    rw [hreq]
    exact path_configRequest
  rw [Option.mem_def.1 hd, Option.bind_some]
  simp [Departure.configSnapshot, hpath, hreply, hs]

/-- A call that got no answer brought no configuration. -/
theorem Unanswered.configSnapshot {ds : List Departure} (h : Unanswered ds) :
    ds.getLast?.bind Departure.configSnapshot = none := by
  cases hl : ds.getLast? with
  | none => rfl
  | some d =>
    rcases h d hl with hs | hns
    · exact Departure.configSnapshot_of_ne hs.path_ne
    · cases hr : d.reply with
      | error t => simp [Departure.configSnapshot, hr]
      | ok resp => simp [Departure.configSnapshot, hr, hns resp hr]

/-- **Neither status path a client asks for is the configuration's**: the REST status path of its
session, and the XML status page of its connection. -/
def Client.StatusPathsApart (c : Client) : Prop :=
  normalizePath c.session.statusPath ≠ Endpoint.restConfig ∧
    normalizePath c.conn.statusPath ≠ Endpoint.restConfig

/-! ### Stretches of running and the stores they make -/

/-- **What a stretch of running did to the cache**, from `ex` to `ex'`: it sent `ds` and stored
`hist`, the snapshots with the times they were stored at. The connection and the status path stay
and the clock does not go back. The cache is the one it began with with `hist` stored in turn, the
snapshots stored are those `ds` brought, each at a time within the stretch and no earlier than the
one before; and each request for the configuration left from a client holding the cache with a
prefix of `hist` stored, while a refresh was due. -/
structure Stores (ex : Exchange) (ds : List Departure) (hist : List (Snapshot × Nat)) (ex' : Exchange) :
    Prop where
  sent : ex'.sent = ex.sent ++ ds
  conn : ex'.client.conn = ex.client.conn
  statusPath : ex'.client.session.statusPath = ex.client.session.statusPath
  clock : ex.link.clock ≤ ex'.link.clock
  cache : ex'.client.cache = ex.client.cache.storeAll hist
  answered : hist.map (·.1) = ds.filterMap Departure.configSnapshot
  times : ∀ s ∈ hist, ex.link.clock ≤ s.2 ∧ s.2 ≤ ex'.link.clock
  ordered : hist.Pairwise (·.2 ≤ ·.2)
  due : ∀ x ∈ ds, x.request.path = Endpoint.restConfig → ∃ pre, pre <+: hist ∧
    x.client.cache = ex.client.cache.storeAll pre ∧ x.client.cache.needsRefresh x.clock false = true

namespace Stores

variable {ex ex₁ ex₂ ex' : Exchange} {ds ds₁ ds₂ : List Departure}
  {hist hist₁ hist₂ : List (Snapshot × Nat)}

theorem refl (ex : Exchange) : Stores ex [] [] ex where
  sent := (List.append_nil _).symm
  conn := rfl
  statusPath := rfl
  clock := Nat.le_refl _
  cache := rfl
  answered := rfl
  times := by simp
  ordered := .nil
  due := by simp

/-- **One stretch after another**: what both sent, and the stores of the first, then those of the
second. -/
theorem trans (h₁ : Stores ex ds₁ hist₁ ex₁) (h₂ : Stores ex₁ ds₂ hist₂ ex₂) :
    Stores ex (ds₁ ++ ds₂) (hist₁ ++ hist₂) ex₂ where
  sent := by rw [h₂.sent, h₁.sent, List.append_assoc]
  conn := h₂.conn.trans h₁.conn
  statusPath := h₂.statusPath.trans h₁.statusPath
  clock := Nat.le_trans h₁.clock h₂.clock
  cache := by rw [h₂.cache, h₁.cache, ConfigCache.storeAll_append]
  answered := by rw [List.map_append, List.filterMap_append, h₁.answered, h₂.answered]
  times := by
    intro s hs
    rcases List.mem_append.1 hs with hs | hs
    · exact ⟨(h₁.times s hs).1, Nat.le_trans (h₁.times s hs).2 h₂.clock⟩
    · exact ⟨Nat.le_trans h₁.clock (h₂.times s hs).1, (h₂.times s hs).2⟩
  -- a store of the first stretch is no later than its end, one of the second no earlier
  ordered := List.pairwise_append.2 ⟨h₁.ordered, h₂.ordered,
    fun a ha b hb => Nat.le_trans (h₁.times a ha).2 (h₂.times b hb).1⟩
  due := by
    intro x hx hpath
    rcases List.mem_append.1 hx with hx | hx
    · obtain ⟨pre, hpre, hc, hdue⟩ := h₁.due x hx hpath
      exact ⟨pre, hpre.trans (List.prefix_append _ _), hc, hdue⟩
    · obtain ⟨pre, hpre, hc, hdue⟩ := h₂.due x hx hpath
      refine ⟨hist₁ ++ pre, (List.prefix_append_right_inj hist₁).2 hpre, ?_, hdue⟩
      rw [hc, h₁.cache, ConfigCache.storeAll_append]

/-- The status paths stay apart along a stretch: it keeps both. -/
theorem apart (h : Stores ex ds hist ex') (hp : ex.client.StatusPathsApart) :
    ex'.client.StatusPathsApart := by
  unfold Client.StatusPathsApart
  rw [h.statusPath, h.conn]
  exact hp

/-- What a stretch that keeps the cache sent left from a client with that cache, and was due when
the stretch began. -/
theorem due_of_kept (hk : CacheKept ex ex') (hs : ex'.sent = ex.sent ++ ds)
    (hdue : ex.client.cache.needsRefresh ex.link.clock false = true) :
    ∀ x ∈ ds, ∃ pre, pre <+: hist ∧ x.client.cache = ex.client.cache.storeAll pre ∧
      x.client.cache.needsRefresh x.clock false = true := by
  intro x hx
  obtain ⟨hc, hclk⟩ := hk.departures hs x hx
  refine ⟨[], List.nil_prefix, hc, ?_⟩
  rw [hc]
  exact ConfigCache.needsRefresh_mono hdue hclk

/-- **A stretch that stores nothing**: it keeps the connection, the status path and the cache,
what it sent brought no configuration, and it asked for the configuration only while the cache
was due. -/
theorem of_kept (hs : ex'.sent = ex.sent ++ ds) (hconn : ex'.client.conn = ex.client.conn)
    (hpath : ex'.client.session.statusPath = ex.client.session.statusPath) (hk : CacheKept ex ex')
    (hnone : ds.filterMap Departure.configSnapshot = [])
    (hdue : (∃ x ∈ ds, x.request.path = Endpoint.restConfig) →
      ex.client.cache.needsRefresh ex.link.clock false = true) :
    Stores ex ds [] ex' where
  sent := hs
  conn := hconn
  statusPath := hpath
  clock := hk.clock
  cache := hk.cache
  answered := hnone.symm
  times := by simp
  ordered := .nil
  due := fun x hx hp => due_of_kept hk hs (hdue ⟨x, hx, hp⟩) x hx

/-- **A stretch that asks nothing of the configuration** and keeps the cache. -/
theorem of_apart (hs : ex'.sent = ex.sent ++ ds) (hconn : ex'.client.conn = ex.client.conn)
    (hpath : ex'.client.session.statusPath = ex.client.session.statusPath) (hk : CacheKept ex ex')
    (hne : ∀ x ∈ ds, x.request.path ≠ Endpoint.restConfig) : Stores ex ds [] ex' :=
  of_kept hs hconn hpath hk (Departure.filterMap_configSnapshot_eq_nil hne) fun ⟨x, hx, hp⟩ =>
    absurd hp (hne x hx)

/-- A change of the client alone that keeps its connection, status path and cache. -/
theorem of_client {c : Client} (hconn : c.conn = ex.client.conn)
    (hpath : c.session.statusPath = ex.client.session.statusPath) (hcache : c.cache = ex.client.cache) :
    Stores ex [] [] { ex with client := c } :=
  of_apart (by simp) hconn hpath (CacheKept.of_client hcache) (by simp)

/-- A change of the link alone whose clock does not go back. -/
theorem of_link {l : Link} (h : ex.link.clock ≤ l.clock) : Stores ex [] [] { ex with link := l } :=
  of_apart (by simp) rfl rfl ⟨rfl, h, [], by simp, by simp⟩ (by simp)

/-- **A refresh that stored**: a configuration call made while the cache was due, which kept the
client and whose requests brought `snap`, stored at the time the refresh began. -/
theorem stored {snap : Snapshot} (hs : ex₁.sent = ex.sent ++ ds) (hkeeps : ex.client.Keeps ex₁.client)
    (hk : CacheKept ex ex₁) (hsnap : ds.filterMap Departure.configSnapshot = [snap])
    (hdue : ex.client.cache.needsRefresh ex.link.clock false = true) :
    Stores ex ds [(snap, ex.link.clock)]
      { ex₁ with client := { ex₁.client with cache := ex₁.client.cache.store snap ex.link.clock } } where
  sent := hs
  conn := hkeeps.conn
  statusPath := hkeeps.statusPath
  clock := hk.clock
  cache := by
    show ConfigCache.store _ _ _ = _
    rw [hk.cache]
    rfl
  answered := hsnap.symm
  times := by simpa using hk.clock
  ordered := List.pairwise_singleton _ _
  due := fun x hx _ => due_of_kept hk hs hdue x hx

end Stores

/-! ### A poll -/

namespace Call

/-- **A REST call of another path stores nothing** and asks nothing of the configuration. -/
theorem restCall_stores {r : Request} (hr : r.path ≠ Endpoint.restConfig) (loginFirst : Bool)
    (ex : Exchange) :
    WP (restCall r loginFirst) (fun _ ex' => ∃ ds, Stores ex ds [] ex')
      (fun _ ex' => ∃ ds, Stores ex ds [] ex') ex := by
  have hstores : ∀ {ds ex'}, Leaves ex ds ex' → CallRecord ex.client ex.link.clock r loginFirst ds →
      CacheKept ex ex' → Stores ex ds [] ex' := fun hl hrec hk =>
    .of_apart hl.sent hl.keeps.conn hl.keeps.statusPath hk (hrec.path_ne hr)
  refine ((restCall_spec r loginFirst ex).and (keepsCache_restCall r loginFirst ex)).mono ?_ ?_
  · rintro _ ex' ⟨⟨ds, hl, hrec, -⟩, hk⟩
    exact ⟨ds, hstores hl hrec hk⟩
  · rintro _ ex' ⟨⟨ds, hl, hrec, -⟩, hk⟩
    exact ⟨ds, hstores hl hrec hk⟩

/-- **A refresh during a poll** asks for the configuration only when the cache is due, and stores
exactly the snapshot its answer brought, if any. -/
theorem refreshConfigIfDue_stores (status : Status) (ex : Exchange) :
    WP (refreshConfigIfDue status) (fun _ ex' => ∃ ds hist, Stores ex ds hist ex') (fun _ _ => False)
      ex := by
  unfold refreshConfigIfDue
  simp only [wp_bind, wp_clock, wp_state]
  by_cases hdue : ex.client.cache.needsRefresh ex.link.clock false = true
  · rw [if_neg (by simp [hdue]), wp_bind, wp_attempt]
    unfold fetchConfig
    simp only [wp_bind]
    have hcall := (restCall_spec (Request.make .get Endpoint.restConfig) true ex).and
      (keepsCache_restCall (Request.make .get Endpoint.restConfig) true ex)
    have kept : ∀ {cfg ex₁}, Leaves ex cfg ex₁ → CacheKept ex ex₁ →
        cfg.filterMap Departure.configSnapshot = [] → ∃ ds hist, Stores ex ds hist ex₁ :=
      fun hl hk hnone => ⟨_, [], .of_kept hl.sent hl.keeps.conn hl.keeps.statusPath hk hnone fun _ => hdue⟩
    refine hcall.mono ?_ ?_
    · rintro resp ex₁ ⟨⟨cfg, hl, hrec, hans⟩, hk⟩
      simp only [wp_bind, wp_ofRead]
      have hsnaps := hrec.configSnapshots
      rw [hans.configSnapshot] at hsnaps
      cases hr : readJsonObject resp.body with
      | error f =>
        rw [hr] at hsnaps
        exact kept hl hk hsnaps
      | ok p =>
        rw [hr] at hsnaps
        exact ⟨cfg, _, .stored hl.sent hl.keeps hk hsnaps hdue⟩
    · rintro e ex₁ ⟨⟨cfg, hl, hrec, hun⟩, hk⟩
      have hsnaps := hrec.configSnapshots
      rw [hun.configSnapshot] at hsnaps
      exact kept hl hk hsnaps
  · rw [if_pos (by simpa using hdue)]
    exact ⟨[], [], .refl ex⟩

/-- **The status pages store nothing**, and neither is the configuration path. -/
theorem fetchLegacyStatus_stores (ex : Exchange)
    (hpage : normalizePath ex.client.conn.statusPath ≠ Endpoint.restConfig) :
    WP fetchLegacyStatus (fun _ ex' => ∃ ds, Stores ex ds [] ex') (fun _ ex' => ∃ ds, Stores ex ds [] ex')
      ex := by
  have hstores : ∀ {ds ex' o}, PagesFetch ex.client.conn ds o → PagesSent ex ds ex' →
      CacheKept ex ex' → Stores ex ds [] ex' := by
    intro ds ex' o hf hs hk
    refine .of_apart hs.1 hs.2.2.1 (by rw [hs.2.2.2.1]) hk fun x hx => ?_
    rcases hf.requests x hx with hr | hr <;> rw [hr, pageRequest_path]
    · decide +kernel
    · exact hpage
  refine ((fetchLegacyStatus_spec ex).and (keepsCache_fetchLegacyStatus ex)).mono ?_ ?_
  · rintro _ ex' ⟨⟨ds, _, _, hf, hs, -⟩, hk⟩
    exact ⟨ds, hstores hf hs hk⟩
  · rintro _ ex' ⟨⟨ds, hf, hs⟩, hk⟩
    exact ⟨ds, hstores hf hs hk⟩

/-- **A status fetch** stores at most the snapshot its refresh brought, asking for the
configuration only when the cache was due. -/
theorem fetchStatus_stores (ex : Exchange) (hp : ex.client.StatusPathsApart) :
    WP fetchStatus (fun _ ex' => ∃ ds hist, Stores ex ds hist ex')
      (fun _ ex' => ∃ ds hist, Stores ex ds hist ex') ex := by
  have pages : ∀ {ds ex₁}, Stores ex ds [] ex₁ → WP fetchLegacyStatus
      (fun _ ex' => ∃ ds hist, Stores ex ds hist ex') (fun _ ex' => ∃ ds hist, Stores ex ds hist ex')
      ex₁ := by
    intro ds ex₁ h₁
    have after : ∀ ex', (∃ ds', Stores ex₁ ds' [] ex') → ∃ ds hist, Stores ex ds hist ex' := by
      rintro ex' ⟨ds', h₂⟩
      exact ⟨_, _, h₁.trans h₂⟩
    exact (fetchLegacyStatus_stores ex₁ (h₁.apart hp).2).mono (fun _ => after) (fun _ => after)
  unfold fetchStatus
  simp only [wp_bind, wp_state]
  by_cases hpw : ex.client.conn.hasPassword = true
  · rw [if_pos hpw, wp_bind, wp_attempt]
    unfold fetchRestStatus
    simp only [wp_bind, wp_state]
    have hstatus : (Request.make .get ex.client.session.statusPath).path ≠ Endpoint.restConfig := by
      rw [Request.make_path]
      exact hp.1
    refine (restCall_stores hstatus false ex).mono ?_ ?_
    · rintro resp ex₁ ⟨pre, h₁⟩
      simp only [wp_bind, wp_ofRead]
      cases hr : readStatus .rest resp.body with
      | error f => exact pages h₁
      | ok s₀ =>
        simp only [wp_updateSession, wp_bind, wp_state]
        refine (refreshConfigIfDue_stores _ _).mono ?_ (fun _ _ h => h.elim)
        rintro s ex₃ ⟨cfg, hist, h₃⟩
        rw [wp_finish]
        -- remembering the status path the session already asks for keeps it
        have hpath : Stores ex₁ [] [] { ex₁ with client := { ex₁.client with session :=
            { ex₁.client.session with statusPath? := some ex.client.session.statusPath } } } :=
          Stores.of_client rfl h₁.statusPath.symm rfl
        have h₂ := h₁.trans (hpath.trans h₃)
        exact ⟨_, _, h₂.trans (Stores.of_client rfl rfl rfl)⟩
    · rintro e ex₁ ⟨pre, h₁⟩
      exact pages h₁
  · rw [if_neg hpw]
    exact pages (.refl ex)

end Call

/-! ### Runs of polls -/

namespace Operation

/-- **An operation of a polling loop**: a status fetch, or the clock or the controller's replies
moving on between two. -/
def isPoll : Operation → Bool
  | fetchStatus | advance _ | supply _ => true
  | _ => false

/-- A poll is a stretch of running as `Stores` says. -/
theorem perform_stores {op : Operation} (hop : op.isPoll = true) (ex : Exchange)
    (hp : ex.client.StatusPathsApart) :
    Call.WP op.perform (fun _ ex' => ∃ ds hist, Stores ex ds hist ex')
      (fun _ ex' => ∃ ds hist, Stores ex ds hist ex') ex := by
  cases op
  case fetchStatus =>
    exact (Call.wp_bind _ _).2 ((Call.fetchStatus_stores ex hp).mono (fun _ _ h => h) (fun _ _ h => h))
  case advance ms => exact ⟨[], [], .of_link (Nat.le_add_right _ _)⟩
  case supply replies => exact ⟨[], [], .of_link (Nat.le_refl _)⟩
  all_goals cases hop

/-- **A run of polls** is a stretch of running as `Stores` says, by induction over its polls. -/
theorem runAll_stores (ops : List Operation) (hpolls : ∀ op ∈ ops, op.isPoll = true) (ex : Exchange)
    (hp : ex.client.StatusPathsApart) :
    Call.WP (runAll ops) (fun _ ex' => ∃ ds hist, Stores ex ds hist ex') (fun _ _ => False) ex := by
  induction ops generalizing ex with
  | nil => exact ⟨[], [], .refl ex⟩
  | cons op ops ih =>
    rw [runAll, Call.wp_bind, Call.wp_attempt]
    -- whatever the poll ends in, the polls after it go on from where it left
    have rest : ∀ ex₁, (∃ ds hist, Stores ex ds hist ex₁) → Call.WP (runAll ops)
        (fun _ ex' => ∃ ds hist, Stores ex ds hist ex') (fun _ _ => False) ex₁ := by
      rintro ex₁ ⟨ds₁, hist₁, h₁⟩
      refine (ih (fun o ho => hpolls o (List.mem_cons_of_mem _ ho)) ex₁ (h₁.apart hp)).mono ?_
        (fun _ _ h => h)
      rintro _ ex₂ ⟨ds₂, hist₂, h₂⟩
      exact ⟨_, _, h₁.trans h₂⟩
    exact (perform_stores (hpolls op List.mem_cons_self) ex hp).mono (fun _ => rest) (fun _ => rest)

end Operation

open Operation in
/-- **The configuration cache's refresh policy.** Store any snapshots, at any times, into an empty
cache with any refresh interval: the modules, the MXM devices and the time of the last fetch are all
absent before the first store and all present after it, the time being the last store's; the
network configuration is that of the last snapshot that had one, so only a later snapshot with one
replaces it; and a refresh is not due exactly when something was stored and less than the interval
has passed since the last store.

And run any polls from a client with an empty cache whose status paths are not the configuration
path (a status page there is asked for with no refresh due, as the end of this file shows): status
fetches, with the clock and the controller's replies moving on between them, each fetch failing or
not. The cache the run leaves is the empty one with a history of stores in order
of time, and the snapshots stored are exactly those the run's requests for the configuration
brought, in order: a refresh that failed, was refused or got a body that does not read changed
nothing. And each request for the configuration left from a client whose cache was a prefix of that
history with nothing stored, or whose last store was at least the interval old. -/
theorem config_refresh_policy :
    (∀ (interval : Nat) (ss : List (Snapshot × Nat)) (now : Nat),
      (((ConfigCache.fresh interval).storeAll ss).mconf = none ↔ ss = []) ∧
      (((ConfigCache.fresh interval).storeAll ss).mxmDevices = none ↔ ss = []) ∧
      ((ConfigCache.fresh interval).storeAll ss).lastFetch = ss.getLast?.map (·.2) ∧
      ((ConfigCache.fresh interval).storeAll ss).nconf = (ss.filterMap (·.1.config.nconf)).getLast? ∧
      (((ConfigCache.fresh interval).storeAll ss).needsRefresh now false = false ↔
        ∃ s ∈ ss.getLast?, now - s.2 < interval)) ∧
    ∀ (interval : Nat) (ops : List Operation) (ex : Exchange), (∀ op ∈ ops, op.isPoll = true) →
      ex.client.cache = ConfigCache.fresh interval → ex.client.StatusPathsApart →
      Call.WP (runAll ops) (fun _ ex' => ∃ ds hist, ex'.sent = ex.sent ++ ds ∧
          ex'.client.cache = (ConfigCache.fresh interval).storeAll hist ∧
          hist.Pairwise (·.2 ≤ ·.2) ∧ hist.map (·.1) = ds.filterMap Departure.configSnapshot ∧
          ∀ x ∈ ds, x.request.path = Endpoint.restConfig → ∃ pre, pre <+: hist ∧
            x.client.cache = (ConfigCache.fresh interval).storeAll pre ∧
            (pre = [] ∨ ∃ s ∈ pre.getLast?, interval ≤ x.clock - s.2))
        (fun _ _ => False) ex := by
  refine ⟨ConfigCache.storeAll_history, fun interval ops ex hpolls hfresh hp => ?_⟩
  refine (runAll_stores ops hpolls ex hp).mono ?_ (fun _ _ h => h)
  rintro _ ex' ⟨ds, hist, h⟩
  refine ⟨ds, hist, h.sent, by rw [h.cache, hfresh], h.ordered, h.answered, fun x hx hpath => ?_⟩
  obtain ⟨pre, hpre, hc, hdue⟩ := h.due x hx hpath
  rw [hfresh] at hc
  refine ⟨pre, hpre, hc, ?_⟩
  -- a refresh was due, which by the history of stores means nothing stored or an old last store
  rw [hc] at hdue
  cases hl : pre.getLast? with
  | none => exact .inl (List.getLast?_eq_none_iff.1 hl)
  | some s =>
    refine .inr ⟨s, rfl, Nat.le_of_not_lt fun hlt => ?_⟩
    have hnot := (ConfigCache.storeAll_history interval pre x.clock).2.2.2.2.2 ⟨s, hl, hlt⟩
    rw [hnot] at hdue
    cases hdue

/-- A client just made, over a connection with a password, polls once. -/
theorem first_poll_refresh_policy :
    Call.WP (Operation.runAll [.fetchStatus]) (fun _ ex' => ∃ ds hist,
        ex'.sent = [] ++ ds ∧ ex'.client.cache = (ConfigCache.fresh defaultRefreshInterval).storeAll hist ∧
        hist.Pairwise (·.2 ≤ ·.2) ∧ hist.map (·.1) = ds.filterMap Departure.configSnapshot ∧
        ∀ x ∈ ds, x.request.path = Endpoint.restConfig → ∃ pre, pre <+: hist ∧
          x.client.cache = (ConfigCache.fresh defaultRefreshInterval).storeAll pre ∧
          (pre = [] ∨ ∃ s ∈ pre.getLast?, defaultRefreshInterval ≤ x.clock - s.2))
      (fun _ _ => False) { client := { conn := { host := "tank", password? := some "reef" } }, link := {} } :=
  config_refresh_policy.2 defaultRefreshInterval [.fetchStatus]
    { client := { conn := { host := "tank", password? := some "reef" } }, link := {} } (by decide) rfl
    ⟨by decide +kernel, by decide +kernel⟩

namespace Call

/-- **A poll falls back to the XML page** when REST is open and its status request, sent with a
token, is answered `500`, and the JSON page is answered `404`: the XML page at the configured path
leaves from the client as it was, at the time the poll began. -/
theorem fetchStatus_asks_statusPage {ex : Exchange} {t : String} {rest : List Reply}
    (hopen : ex.Open) (htok : ex.client.session.token = some t)
    (hlink : ex.link.replies = .ok { status := 500 } :: .ok { status := 404 } :: rest) :
    WP fetchStatus
      (fun _ ex' => ∃ x ∈ ex'.sent, x.client = ex.client ∧ x.clock = ex.link.clock ∧
        x.request = pageRequest ex.client.conn ex.client.conn.statusPath)
      (fun _ ex' => ∃ x ∈ ex'.sent, x.client = ex.client ∧ x.clock = ex.link.clock ∧
        x.request = pageRequest ex.client.conn ex.client.conn.statusPath) ex := by
  let r := { Request.make .get ex.client.session.statusPath with session := some t }
  have hrest : WP fetchRestStatus (fun _ _ => False) (fun _ ex₁ => ex₁ = ex.depart r) ex := by
    unfold fetchRestStatus
    simp only [wp_bind, wp_state]
    refine wp_restCall (fun _ h => absurd hopen h) (fun h => absurd hopen h) (fun _ _ => ?_)
      (fun _ h _ => by rw [htok] at h; cases h)
    rw [htok]
    unfold sendRenewing sendRest
    rw [wp_bind, wp_attempt]
    simp only [wp_bind, wp_exchange]
    have hnext : ex.link.next.1 = .ok { status := 500 } := by simp [Link.next, hlink]
    rw [hnext]
    simp only
    rw [if_neg (by decide), if_neg (by decide), if_neg (by decide), if_neg (by decide), wp_throw]
    rfl
  have hlink₁ : (ex.depart r).link.replies = .ok { status := 404 } :: rest := by
    simp [Exchange.depart, Link.next, hlink]
  unfold fetchStatus
  simp only [wp_bind, wp_state]
  rw [if_pos hopen.1, wp_bind, wp_attempt]
  refine hrest.mono (fun _ _ h => h.elim) ?_
  rintro e ex₁ rfl
  refine (fetchLegacyStatus_notFound hlink₁).mono ?_ ?_
  all_goals
    rintro _ ex' ⟨x, hx, hc, hclk, hr⟩
    exact ⟨x, hx, hc, by rw [hclk, Exchange.depart_clock], hr⟩

end Call

namespace Operation

open Call in
/-- **A status page at the configuration path is asked for with no refresh due.** A client over a
connection with a password, whose XML status page is `/rest/config`, stored an empty configuration
at time 0 and polls at time 0: REST answers its status request `500` and the JSON page is not
found, so the poll asks for `/rest/config` as the XML status page, from a cache that is not due. -/
theorem statusPage_asks_config_path :
    WP (runAll [.fetchStatus])
      (fun _ ex' => ∃ x ∈ ex'.sent, x.request.path = Endpoint.restConfig ∧
        x.client.cache.needsRefresh x.clock false = false)
      (fun _ _ => False)
      { client :=
          { conn := { host := "apex", password? := some "pw", statusPath := "/rest/config" },
            session := { token := some "sid1" },
            cache := (ConfigCache.fresh defaultRefreshInterval).storeAll [({}, 0)] },
        link := { replies := [.ok { status := 500 }, .ok { status := 404 }, .ok { status := 404 }] } } := by
  have hpath : normalizePath "/rest/config" = Endpoint.restConfig := by decide +kernel
  have hdue : ((ConfigCache.fresh defaultRefreshInterval).storeAll [({}, 0)]).needsRefresh 0 false =
      false :=
    (ConfigCache.storeAll_history defaultRefreshInterval [({}, 0)] 0).2.2.2.2.2
      ⟨_, rfl, show 0 - 0 < defaultRefreshInterval by decide⟩
  rw [runAll, wp_bind, wp_attempt]
  simp only [perform, runAll]
  rw [wp_bind]
  refine (fetchStatus_asks_statusPage ?_ rfl rfl).mono ?_ ?_
  · exact ⟨rfl, Nat.le_refl 0⟩
  all_goals
    rintro _ ex' ⟨x, hx, hc, hclk, hr⟩
    refine ⟨x, hx, by rw [hr, pageRequest_path, hpath], by rw [hc, hclk]; exact hdue⟩

end Operation

end ReefLink
