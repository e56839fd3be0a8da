import ReefLink.Proofs.CallFailure
/-!
# Writing the Trident's settings

The Trident controls put the module's extra settings at its own configuration path,
`/rest/config/mconf/<address>`, as an entry of its bus address and the settings. When that fails
as unsupported they put the same entry inside a module list at `/rest/config/mconf`; the reset and
prime controls are this write of their own settings, and setting the waste container size fetches
the configuration once the write is done.

`TridentWrite` lists what one write sends and ends in, and `tridentControl_writes` proves every
write is one of them. The write falls back on the error alone, and a REST call fails as unsupported
when any `404` ends it (`restCall_unsupported`), so the module list is also written when the
sign-in of the first call was answered `404`: the module's own `PUT` was then never sent, and the
fallback signs in once more.
-/

namespace ReefLink

namespace Call

/-- The entry of the Trident's settings: its bus address and `extra`. -/
def tridentEntry (abaddr : Int) (extra : Json) : Json :=
  .ofFields [("abaddr", .num (.int abaddr)), ("extra", extra)]

/-- **The `PUT` at the module's own path**, `/rest/config/mconf/<address>`, of its entry. -/
def modulePut (abaddr : Int) (extra : Json) : Request :=
  (Request.make .put (Endpoint.restModules ++ "/" ++ toString abaddr)).withJson (tridentEntry abaddr extra)

/-- **The `PUT` of the module list**, `/rest/config/mconf`, holding only the entry. -/
def bulkPut (abaddr : Int) (extra : Json) : Request :=
  (Request.make .put Endpoint.restModules).withJson (.ofFields [("mconf", .arr [tridentEntry abaddr extra])])

/-- **A write of the Trident's settings** `extra` from `ex`, ending in `res` at `ex'`. -/
inductive TridentWrite (ex : Exchange) (extra : Json) : Except Error Unit → Exchange → Prop
  /-- No Trident is known: nothing is sent. -/
  | undetected : ex.client.tridentAbaddr = none →
      TridentWrite ex extra (.error (.device .tridentNotDetected)) ex
  /-- The REST call of the module's own `PUT` ended in no `404`, and its outcome is the write's. -/
  | module {a : Int} {ds : List Departure} {res : Except Error Unit} {ex' : Exchange} :
      ex.client.tridentAbaddr = some a → ex'.sent = ex.sent ++ ds →
      CallRecord ex.client ex.link.clock (modulePut a extra) true ds →
      (∀ d ∈ ds.getLast?, ¬ d.NotFound) →
      (res = .ok () ↔ ∃ resp, Answered (modulePut a extra) resp ds) → TridentWrite ex extra res ex'
  /-- The REST call of the module's own `PUT` ended in a `404`, of the `PUT` or of a sign-in; the
  REST call of the module list's `PUT` follows, and its outcome is the write's. -/
  | bulk {a : Int} {ds ds' : List Departure} {res : Except Error Unit} {ex₁ ex' : Exchange} :
      ex.client.tridentAbaddr = some a → ex₁.sent = ex.sent ++ ds →
      CallRecord ex.client ex.link.clock (modulePut a extra) true ds → (∃ d ∈ ds.getLast?, d.NotFound) →
      ex'.sent = ex₁.sent ++ ds' → CallRecord ex₁.client ex₁.link.clock (bulkPut a extra) true ds' →
      (res = .ok () ↔ ∃ resp, Answered (bulkPut a extra) resp ds') → TridentWrite ex extra res ex'

/-- **An authenticated `PUT`** is a REST call that signs in first when it holds no token; it fails
as unsupported exactly when its last request was answered `404`. -/
theorem authenticatedPut_spec (path : String) (body : Json) (ex : Exchange) :
    WP (authenticatedPut path body)
      (fun _ ex' => ∃ ds, ex'.sent = ex.sent ++ ds ∧
        CallRecord ex.client ex.link.clock ((Request.make .put path).withJson body) true ds ∧
        (∃ resp, Answered ((Request.make .put path).withJson body) resp ds) ∧
        ∀ d ∈ ds.getLast?, ¬ d.NotFound)
      (fun e ex' => ∃ ds, ex'.sent = ex.sent ++ ds ∧
        CallRecord ex.client ex.link.clock ((Request.make .put path).withJson body) true ds ∧
        (∀ resp, ¬ Answered ((Request.make .put path).withJson body) resp ds) ∧
        ((∃ m, e = .notSupported m) ↔ ∃ d ∈ ds.getLast?, d.NotFound)) ex := by
  unfold authenticatedPut
  rw [wp_bind]
  have hput : ((Request.make .put path).withJson body).method ≠ .post := by
    simp [Request.make, Request.withJson]
  refine ((restCall_spec _ true ex).and (restCall_unsupported _ true ex)).mono ?_ ?_
  · rintro resp ex' ⟨⟨ds, hl, hrec, hans⟩, ds', hs', hnf⟩
    -- both specifications speak of the same departures
    have hds : ds' = ds := List.append_cancel_left (hs'.symm.trans hl.sent)
    subst hds
    exact ⟨ds', hs', hrec, ⟨resp, hans⟩, hnf⟩
  · rintro e ex' ⟨⟨ds, hl, hrec, hun⟩, ds', hs', hnf⟩
    have hds : ds' = ds := List.append_cancel_left (hs'.symm.trans hl.sent)
    subst hds
    exact ⟨ds', hs', hrec, fun resp => hun.not_answered hput, hnf⟩

theorem tridentPutExtra_writes (extra : Json) (ex : Exchange) :
    WP (tridentPutExtra extra) (fun u ex' => TridentWrite ex extra (.ok u) ex')
      (fun e ex' => TridentWrite ex extra (.error e) ex') ex := by
  unfold tridentPutExtra
  simp only [wp_bind, wp_state]
  cases ha : ex.client.tridentAbaddr with
  | none => exact .undetected ha
  | some a =>
    simp only [wp_bind, wp_attempt]
    refine (authenticatedPut_spec _ _ ex).mono ?_ ?_
    · rintro _ ex₁ ⟨ds, hs, hrec, hans, hnf⟩
      exact .module ha hs hrec hnf (iff_of_true rfl hans)
    · intro e ex₁ hfail
      obtain ⟨ds, hs, hrec, hna, hnf⟩ := hfail
      split
      · rename_i m heq
        cases heq
        have h404 := hnf.1 ⟨m, rfl⟩
        refine (authenticatedPut_spec _ _ ex₁).mono ?_ ?_
        · rintro _ ex₂ ⟨ds', hs', hrec', hans', -⟩
          exact .bulk ha hs hrec h404 hs' hrec' (iff_of_true rfl hans')
        · rintro _ ex₂ ⟨ds', hs', hrec', hna', -⟩
          exact .bulk ha hs hrec h404 hs' hrec' (iff_of_false (by simp) (not_exists.2 hna'))
      · rename_i e' hne heq
        cases heq
        have hnf' : ∀ d ∈ ds.getLast?, ¬ d.NotFound := by
          intro d hd h
          obtain ⟨m, hm⟩ := hnf.2 ⟨d, hd, h⟩
          exact hne m hm
        exact .module ha hs hrec hnf' (iff_of_false (by simp) (not_exists.2 hna))
      · rename_i heq
        cases heq

/-- The settings that set the waste container size. -/
def wasteSizeExtra (size : WasteSize) : Json := .ofFields [("wasteSize", Json.ofFloat size.ml)]

/-- **The configuration was fetched** from `ex` on: one REST call of `GET /rest/config`, signing in
first when no token is held. -/
def ConfigFetched (ex ex' : Exchange) : Prop :=
  ∃ ds, ex'.sent = ex.sent ++ ds ∧
    CallRecord ex.client ex.link.clock (Request.make .get Endpoint.restConfig) true ds

theorem refreshConfigNow_fetches (ex : Exchange) :
    WP refreshConfigNow (fun _ ex' => ConfigFetched ex ex') (fun _ ex' => ConfigFetched ex ex') ex := by
  unfold refreshConfigNow fetchConfig
  simp only [wp_bind]
  refine (restCall_spec _ true ex).mono ?_ ?_
  · rintro resp ex₁ ⟨ds, hl, hrec, -⟩
    -- reading the answer and storing it send nothing
    rw [wp_bind, wp_ofRead]
    split
    · simp only [wp_pure, wp_bind, wp_clock, wp_update]
      exact ⟨ds, hl.sent, hrec⟩
    · exact ⟨ds, hl.sent, hrec⟩
  · rintro _ ex₁ ⟨ds, hl, hrec, -⟩
    exact ⟨ds, hl.sent, hrec⟩

/-- **The Trident controls write as `TridentWrite` says.** Every write of settings `extra` (the
reset and prime controls are such writes): with no Trident known it sends nothing and fails as
undetected; otherwise it makes the REST call of the module's own `PUT`, and the REST call of the
module list's `PUT` follows exactly when the first call's last request, the `PUT` or a sign-in,
was answered `404`. Setting the waste container size fetches the configuration only after its
write succeeded, and always then. -/
theorem tridentControl_writes (extra : Json) (size : WasteSize) (ex : Exchange) :
    WP (tridentPutExtra extra) (fun u ex' => TridentWrite ex extra (.ok u) ex')
      (fun e ex' => TridentWrite ex extra (.error e) ex') ex ∧
    WP (tridentSetWasteSize size)
      (fun _ ex' => ∃ ex₁, TridentWrite ex (wasteSizeExtra size) (.ok ()) ex₁ ∧ ConfigFetched ex₁ ex')
      (fun e ex' => TridentWrite ex (wasteSizeExtra size) (.error e) ex' ∨
        ∃ ex₁, TridentWrite ex (wasteSizeExtra size) (.ok ()) ex₁ ∧ ConfigFetched ex₁ ex') ex := by
  refine ⟨tridentPutExtra_writes extra ex, ?_⟩
  unfold tridentSetWasteSize
  rw [wp_bind]
  refine (tridentPutExtra_writes _ ex).mono ?_ (fun _ _ h => .inl h)
  intro u ex₁ hw
  rw [wp_bind]
  exact (refreshConfigNow_fetches ex₁).mono (fun _ ex₂ h => ⟨ex₁, hw, h⟩) (fun _ ex₂ h => .inr ⟨ex₁, hw, h⟩)

/-- A client that knows the Trident at address 5 and holds no token resets its waste container:
the sign-in is answered `404`, and the write signs in once more and puts the module list, which
succeeds. The module's own `PUT` is never sent. -/
theorem tridentReset_after_missing_signIn :
    WP tridentResetWaste
      (fun _ ex' => TridentWrite
          { client := { conn := { host := "apex", password? := some "pw" }, tridentAbaddr := some 5 },
            link := { replies := [.ok { status := 404 }, .ok { status := 200, sessionCookie := some "sid2" },
              .ok { status := 200 }] } }
          (.ofFields [("reset", flagsJson resetWasteFlags)]) (.ok ()) ex' ∧
        ex'.sent.map (fun x => (x.request.method, x.request.path)) =
          [(.post, "/rest/login"), (.post, "/rest/login"), (.put, "/rest/config/mconf")])
      (fun _ _ => False)
      { client := { conn := { host := "apex", password? := some "pw" }, tridentAbaddr := some 5 },
        link := { replies := [.ok { status := 404 }, .ok { status := 200, sessionCookie := some "sid2" },
          .ok { status := 200 }] } } := by
  unfold tridentResetWaste
  refine (((tridentControl_writes _ ⟨1⟩ _).1).and (WP.of_check
      (fun _ ex' => decide (ex'.sent.map (fun x => (x.request.method, x.request.path)) =
        [(.post, "/rest/login"), (.post, "/rest/login"), (.put, "/rest/config/mconf")]))
      (fun _ _ => false) ?_)).mono ?_ (fun _ _ h => absurd h.2 Bool.false_ne_true)
  · decide +kernel
  · rintro _ ex' ⟨hw, hsent⟩
    exact ⟨hw, of_decide_eq_true hsent⟩

end Call

end ReefLink
