import ReefLink.Proofs.Fallback
import ReefLink.Client.Operation
/-!
# What a run of operations sends

Every operation sends its requests as the client makes them (`Departure.Proper`): over the
connection it was given; to REST only while REST is open, unless it asks for the status page at
the configured path; and a sign-in only from a client that holds no token. The back-offs it asks
for are spaced as `Spaced` says. `SendsProperly` names a call that sends so from any exchange,
whatever it ends in. Sequencing and trying keep it, so each operation is one lemma built from the
contracts of the calls it makes, and a run is an induction over its operations (`runAll_spec`).

Two consequences are read off a run. `runAll_rest_gated`: a request to REST leaves only with a
password set and no back-off pending, and never before the back-off that an earlier `429` from
REST asked for has passed. `restCall_signs_in_only_without_token`: one REST call signs in at most
once and resends its request at most once, and no run signs in while the client holds a token.

The status page is the one exception to the first: the XML page at the configured path is asked
for whatever the state of REST, and `statusPage_sent_to_rest_without_password` is a run where that
path is a REST path.
-/

namespace ReefLink

namespace Call

variable {α β : Type}

/-- **A call that sends as the client makes them**, from any exchange, whatever it ends in. -/
def SendsProperly (c : Call α) : Prop :=
  ∀ ex, WP c (fun _ ex' => ∃ ds, Sends ex ds ex') (fun _ ex' => ∃ ds, Sends ex ds ex') ex

theorem sendsProperly_pure (a : α) : SendsProperly (pure a : Call α) := fun ex => ⟨[], .refl ex⟩

theorem sendsProperly_throw (e : Error) : SendsProperly (throw e : Call α) :=
  fun ex => ⟨[], .refl ex⟩

/-- **Sequencing** sends what both calls send. -/
theorem sendsProperly_bind {c : Call α} {f : α → Call β} (hc : SendsProperly c)
    (hf : ∀ a, SendsProperly (f a)) : SendsProperly (c >>= f) := by
  intro ex
  refine (wp_bind c f).2 ((hc ex).mono ?_ (fun _ _ h => h))
  rintro a ex₁ ⟨ds₁, h₁⟩
  -- whatever the rest ends in, it sends after what the first call sent
  have after : ∀ ex₂, (∃ ds, Sends ex₁ ds ex₂) → ∃ ds, Sends ex ds ex₂ := by
    rintro ex₂ ⟨ds₂, h₂⟩
    exact ⟨ds₁ ++ ds₂, h₁.trans h₂⟩
  exact (hf a ex₁).mono (fun _ => after) (fun _ => after)

theorem sendsProperly_attempt {c : Call α} (hc : SendsProperly c) : SendsProperly (attempt c) :=
  fun ex => (wp_attempt c).2 (hc ex)

theorem sendsProperly_ite {p : Prop} [Decidable p] {c₁ c₂ : Call α} (h₁ : SendsProperly c₁)
    (h₂ : SendsProperly c₂) : SendsProperly (if p then c₁ else c₂) := by
  split
  · exact h₁
  · exact h₂

theorem sendsProperly_state : SendsProperly state := fun ex => ⟨[], .refl ex⟩

theorem sendsProperly_clock : SendsProperly clock := fun ex => ⟨[], .refl ex⟩

theorem sendsProperly_ofRead (x : Except ReadFailure α) : SendsProperly (ofRead x) := by
  intro ex
  rw [wp_ofRead]
  cases x <;> exact ⟨[], .refl ex⟩

/-- A change of the client that keeps its connection and session sends nothing. -/
theorem sendsProperly_update {f : Client → Client}
    (hf : ∀ c, (f c).conn = c.conn ∧ (f c).session = c.session) : SendsProperly (update f) :=
  fun ex => (wp_update f).2 ⟨[], (Sends.refl ex).update (hf ex.client).1
    (by rw [(hf ex.client).2]) rfl⟩

/-- A change of the link alone sends nothing. -/
theorem sendsProperly_modify {f : Exchange → Exchange}
    (hf : ∀ ex, (f ex).client = ex.client ∧ (f ex).sent = ex.sent) :
    SendsProperly (modify f : Call Unit) :=
  fun ex => ⟨[], (Sends.refl ex).update (by rw [(hf ex).1]) (by rw [(hf ex).1]) (hf ex).2⟩

/-- **A REST call sends as the client makes them**, unless its request is itself a sign-in. -/
theorem sendsProperly_restCall {r : Request} (hr : r.method ≠ .post) (loginFirst : Bool) :
    SendsProperly (restCall r loginFirst) := by
  intro ex
  refine (restCall_spec r loginFirst ex).mono ?_ ?_
  · rintro _ _ ⟨ds, hl, hrec, -⟩
    exact ⟨ds, .of_callRecord hl hrec hr⟩
  · rintro _ _ ⟨ds, hl, hrec, -⟩
    exact ⟨ds, .of_callRecord hl hrec hr⟩

/-- **A request to no REST path** leaves as the client makes them, whatever the state of REST. -/
theorem sendsProperly_exchange {r : Request} (hr : ¬ IsRestPath r.path) :
    SendsProperly (exchange r) := by
  intro ex
  have hn : ¬ (ex.departure r).IsRest := hr
  have hs : Sends ex [ex.departure r] (ex.depart r) :=
    { toSpaced := (Leaves.depart (Departure.backoffUntil_eq_zero fun h => hn h.1)).toSpaced
      conn := rfl
      proper := fun x hx => by
        rw [List.mem_singleton.1 hx]
        exact ⟨rfl, fun h => absurd h hn, fun h => absurd h.isRest hn⟩ }
  rw [wp_exchange]
  cases ex.link.next.1 <;> exact ⟨_, hs⟩

theorem sendsProperly_fetchStatus : SendsProperly fetchStatus := by
  intro ex
  refine (fetchStatus_spec ex).mono ?_ ?_
  · rintro _ _ ⟨ds, -, -, -, hs, -⟩
    exact ⟨ds, hs⟩
  · rintro _ _ ⟨ds, -, hs⟩
    exact ⟨ds, hs⟩

theorem sendsProperly_fetchConfig : SendsProperly fetchConfig :=
  sendsProperly_bind (sendsProperly_restCall (by simp [Request.make]) true) fun _ =>
    sendsProperly_bind (sendsProperly_ofRead _) fun _ => sendsProperly_pure _

theorem sendsProperly_refreshConfigNow : SendsProperly refreshConfigNow :=
  sendsProperly_bind sendsProperly_fetchConfig fun _ =>
    sendsProperly_bind sendsProperly_clock fun _ =>
      sendsProperly_bind (sendsProperly_update fun _ => ⟨rfl, rfl⟩) fun _ => sendsProperly_pure _

theorem sendsProperly_authenticatedPut (path : String) (body : Json) :
    SendsProperly (authenticatedPut path body) :=
  sendsProperly_bind (sendsProperly_restCall (by simp [Request.make, Request.withJson]) true)
    fun _ => sendsProperly_pure _

theorem sendsProperly_setOutletMode (deviceId : String) (mode : OutletMode) :
    SendsProperly (setOutletMode deviceId mode) := by
  unfold setOutletMode
  dsimp only
  -- with the trimmed id left opaque, elaboration does not try to run the check on it
  generalize Text.trim deviceId = did
  exact sendsProperly_ite (sendsProperly_bind (sendsProperly_throw _) fun _ =>
    sendsProperly_authenticatedPut _ _) (sendsProperly_authenticatedPut _ _)

/-- The feed form goes to the status page's form, which is no REST path. -/
theorem sendsProperly_formFeedControl (selector : Nat) :
    SendsProperly (formFeedControl selector) := by
  unfold formFeedControl
  refine sendsProperly_bind sendsProperly_state fun c => ?_
  have hr : ¬ IsRestPath ({ (Request.make .post Endpoint.statusForm).withForm
      [("FeedSel", toString selector)] with basicAuth := c.conn.basicAuth } : Request).path := by
    show ¬ (normalizePath Endpoint.statusForm).startsWith "/rest/" = true
    decide +kernel
  refine sendsProperly_bind (sendsProperly_exchange hr) fun resp => ?_
  dsimp only
  have hsuccess := sendsProperly_ite (p := (!resp.isSuccess) = true) (sendsProperly_throw
    (.transport (.unexpectedStatus resp.status))) (sendsProperly_pure ())
  exact sendsProperly_ite (sendsProperly_bind (sendsProperly_throw _) fun _ => hsuccess) hsuccess

theorem sendsProperly_feedControl (cycle : FeedCycle) (active : Bool) :
    SendsProperly (feedControl cycle active) := by
  unfold feedControl
  dsimp only
  refine sendsProperly_bind (sendsProperly_attempt (sendsProperly_authenticatedPut _ _)) fun r => ?_
  have hfeed := sendsProperly_update (f := fun c => { c with
    activeFeed := if active = true then some cycle else none }) fun _ => ⟨rfl, rfl⟩
  cases r with
  | error e => exact sendsProperly_bind (sendsProperly_formFeedControl _) fun _ => hfeed
  | ok u => exact hfeed

theorem sendsProperly_tridentPutExtra (extra : Json) : SendsProperly (tridentPutExtra extra) := by
  refine sendsProperly_bind sendsProperly_state fun c => ?_
  split
  · refine sendsProperly_bind (sendsProperly_attempt (sendsProperly_authenticatedPut _ _)) fun r => ?_
    split
    · exact sendsProperly_authenticatedPut _ _
    · exact sendsProperly_throw _
    · exact sendsProperly_pure _
  · exact sendsProperly_throw _

end Call

namespace Operation

open Call

/-- **Every operation sends as the client makes them**, whatever it ends in. -/
theorem perform_sendsProperly (op : Operation) : SendsProperly op.perform := by
  cases op with
  | fetchStatus => exact sendsProperly_bind sendsProperly_fetchStatus fun _ => sendsProperly_pure _
  | refreshConfigNow =>
    exact sendsProperly_bind sendsProperly_refreshConfigNow fun _ => sendsProperly_pure _
  | authenticatedPut path body => exact sendsProperly_authenticatedPut path body
  | setOutletMode deviceId mode => exact @sendsProperly_setOutletMode deviceId mode
  | setFeedCycle cycle => exact sendsProperly_feedControl cycle true
  | cancelFeed => exact sendsProperly_bind sendsProperly_state fun _ => sendsProperly_feedControl _ _
  | tridentSetWasteSize size =>
    exact sendsProperly_bind (sendsProperly_tridentPutExtra _) fun _ =>
      sendsProperly_bind sendsProperly_refreshConfigNow fun _ => sendsProperly_pure _
  | tridentResetWaste => exact sendsProperly_tridentPutExtra _
  | tridentResetReagent slot => exact sendsProperly_tridentPutExtra _
  | tridentPrimeChannel channel => exact sendsProperly_tridentPutExtra _
  | advance ms => exact sendsProperly_modify fun _ => ⟨rfl, rfl⟩
  | supply replies => exact sendsProperly_modify fun _ => ⟨rfl, rfl⟩

/-- **A run of operations** never fails and sends as the client makes them. -/
theorem runAll_spec (ops : List Operation) (ex : Exchange) :
    WP (runAll ops) (fun _ ex' => ∃ ds, Sends ex ds ex') (fun _ _ => False) ex := by
  induction ops generalizing ex with
  | nil => exact ⟨[], .refl ex⟩
  | cons op ops ih =>
    -- the operation, whatever it ended in, then the rest from where it left
    have rest : ∀ ex₁, (∃ ds, Sends ex ds ex₁) →
        WP (runAll ops) (fun _ ex' => ∃ ds, Sends ex ds ex') (fun _ _ => False) ex₁ := by
      rintro ex₁ ⟨ds₁, h₁⟩
      refine (ih ex₁).mono ?_ (fun _ _ h => h)
      rintro _ ex₂ ⟨ds₂, h₂⟩
      exact ⟨ds₁ ++ ds₂, h₁.trans h₂⟩
    rw [runAll, wp_bind, wp_attempt]
    exact (op.perform_sendsProperly ex).mono (fun _ => rest) (fun _ => rest)

/-- **REST is asked only while it is open**: over any run of operations from any client, a request
to a REST path, the status page at the configured path apart, leaves with a password set and no
back-off pending at its time; and after a `429` from REST nothing more goes to REST before the
back-off it asked for has passed. -/
theorem runAll_rest_gated (ops : List Operation) (ex : Exchange) :
    WP (runAll ops)
      (fun _ ex' => ∃ ds, ex'.sent = ex.sent ++ ds ∧
        (∀ x ∈ ds, x.IsRest → ¬ x.IsStatusPage →
          ex.client.conn.hasPassword = true ∧ ∀ u ∈ x.client.session.disabledUntil, u ≤ x.clock) ∧
        ds.Pairwise fun y x => ∀ resp, y.IsRest → ¬ y.IsStatusPage → y.reply = .ok resp →
          resp.status = 429 → x.IsRest → ¬ x.IsStatusPage →
          y.clock + Session.backoffOf resp.retryAfter ≤ x.clock)
      (fun _ _ => False) ex := by
  refine (runAll_spec ops ex).mono ?_ (fun _ _ h => h)
  rintro _ ex' ⟨ds, hs⟩
  -- a REST departure other than the status page left while REST was open
  have hopen : ∀ x ∈ ds, x.IsRest → ¬ x.IsStatusPage → x.Open := fun x hx hr hp =>
    ((hs.proper x hx).2.1 hr).resolve_right hp
  refine ⟨ds, hs.sent, fun x hx hr hp => ?_, hs.spaced.imp_of_mem ?_⟩
  · obtain ⟨hpw, hdl⟩ := hopen x hx hr hp
    refine ⟨(hs.proper x hx).1 ▸ hpw, fun u hu => ?_⟩
    rw [Session.deadline, Option.mem_def.1 hu] at hdl
    exact hdl
  · intro y x _ hx hyx resp hr hp hreply h429 hr' hp'
    calc y.clock + Session.backoffOf resp.retryAfter
        = y.backoffUntil := (Departure.backoffUntil_of_limited hr hp hreply h429).symm
      _ ≤ x.client.session.deadline := hyx
      _ ≤ x.clock := (hopen x hx hr' hp').2

/-- **A REST call signs in at most once, and only without a token**: one call is one of the
shapes `CallRecord` lists, so it sends nothing while REST is closed, resends its request at most
once and only after a refusal, carrying the token the sign-in gave, and never renews a token it
signed in for itself; and over any run of operations every sign-in leaves from a client holding
no token. -/
theorem restCall_signs_in_only_without_token (r : Request) (loginFirst : Bool) (ex : Exchange)
    (ops : List Operation) (ex₀ : Exchange) :
    WP (restCall r loginFirst)
      (fun _ ex' => ∃ ds, ex'.sent = ex.sent ++ ds ∧ CallRecord ex.client ex.link.clock r loginFirst ds)
      (fun _ ex' => ∃ ds, ex'.sent = ex.sent ++ ds ∧
        CallRecord ex.client ex.link.clock r loginFirst ds) ex ∧
    WP (runAll ops)
      (fun _ ex' => ∃ ds, ex'.sent = ex₀.sent ++ ds ∧
        ∀ x ∈ ds, x.IsSignIn → x.client.session.token = none)
      (fun _ _ => False) ex₀ := by
  refine ⟨(restCall_spec r loginFirst ex).mono ?_ ?_, (runAll_spec ops ex₀).mono ?_ (fun _ _ h => h)⟩
  · rintro _ ex' ⟨ds, hl, hrec, -⟩
    exact ⟨ds, hl.sent, hrec⟩
  · rintro _ ex' ⟨ds, hl, hrec, -⟩
    exact ⟨ds, hl.sent, hrec⟩
  · rintro _ ex' ⟨ds, hs⟩
    exact ⟨ds, hs.sent, fun x hx => (hs.proper x hx).2.2⟩

/-- **The status page at a REST path is asked for without a password**: a client with no
password whose status page is configured at the REST status path fetches the status, the JSON
page answers 404, and the XML page is asked for at that REST path. -/
theorem statusPage_sent_to_rest_without_password :
    WP (runAll [.fetchStatus])
      (fun _ ex' => ∃ x ∈ ex'.sent, x.IsRest ∧ x.client.conn.hasPassword = false)
      (fun _ _ => False)
      { client := { conn := { host := "apex", statusPath := "/rest/status" } },
        link := { replies := [.ok { status := 404 }, .ok { status := 200, body := "<status/>" }] } } := by
  rw [runAll, wp_bind, wp_attempt]
  simp only [perform]
  unfold Call.fetchStatus
  simp only [wp_bind, wp_state]
  rw [if_neg (by decide)]
  refine (fetchLegacyStatus_notFound rfl).mono ?_ ?_
  all_goals
    rintro _ ex' ⟨x, hx, hc, -, hr⟩
    simp only [runAll, wp_pure]
    refine ⟨x, hx, ?_, by rw [hc]; rfl⟩
    rw [Departure.IsRest, hr]
    show (normalizePath "/rest/status").startsWith "/rest/" = true
    decide +kernel

end Operation

end ReefLink
