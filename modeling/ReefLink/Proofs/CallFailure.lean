import ReefLink.Proofs.Renewal
import ReefLink.Proofs.SignInEnds
/-!
# How a REST call fails

Two ways a REST call fails are read off what it sent.

A refusal (`auth`) drops the token the call was refused, with one exception. When the call's
request is refused, the call signs in again and sends the request once more with the token it
got; if that is refused too, the refusal is returned and that token stays in the session.
`restCall_refused_token` says so: after a refusal the session holds no token, unless the call
went that way (`RenewalRefused`), and then it holds the token the controller has just refused.

A call fails as unsupported exactly when the last request it sent was answered `404`
(`restCall_unsupported`). That request is the call's own request or one of its sign-ins, and
the error does not tell the two apart.
-/

namespace ReefLink

/-- A success is no `404`. -/
theorem Departure.not_notFound_of_success {d : Departure} {resp : Response} (hr : d.reply = .ok resp)
    (hs : resp.isSuccess = true) : ¬ d.NotFound := by
  rintro ⟨resp', hr', h404⟩
  rw [hr, Except.ok.injEq] at hr'
  subst hr'
  simp only [Response.isSuccess, Bool.and_eq_true, decide_eq_true_eq] at hs
  omega

/-- A refusal is no `404`. -/
theorem Departure.Refused.not_notFound {d : Departure} (h : d.Refused) : ¬ d.NotFound := by
  obtain ⟨resp, hr, h40x⟩ := h
  rintro ⟨resp', hr', h404⟩
  rw [hr, Except.ok.injEq] at hr'
  subst hr'
  omega

/-- A departure with no `404` before others leaves the last one as it was. -/
theorem notFound_last_cons {d : Departure} (hd : ¬ d.NotFound) (ds : List Departure) :
    (∃ x ∈ (d :: ds).getLast?, x.NotFound) ↔ ∃ x ∈ ds.getLast?, x.NotFound := by
  cases hl : ds.getLast? with
  | none => simp [List.getLast?_cons, hl, hd]
  | some y => simp [List.getLast?_cons, hl]

namespace Call

variable {ex : Exchange}

/-- **What a sign-in leaves**: a token it returns is held and was granted by its last request;
after a failure the session holds no token or the one it held; and it fails as unsupported exactly
when its last request was answered `404`. -/
theorem login_outcome (ex : Exchange) :
    WP login
      (fun t ex' => ∃ ds, ex'.sent = ex.sent ++ ds ∧ ex'.client.session.token = some t ∧
        ∃ d ∈ ds.getLast?, d.Grants t)
      (fun e ex' => ∃ ds, ex'.sent = ex.sent ++ ds ∧
        (ex'.client.session.token = none ∨ ex'.client.session.token = ex.client.session.token) ∧
        ((∃ m, e = .notSupported m) ↔ ∃ d ∈ ds.getLast?, d.NotFound)) ex := by
  unfold login
  simp only [wp_bind, wp_checkAvailable, wp_state]
  cases hr : ex.client.session.retryIn ex.link.clock with
  | some ms => exact ⟨[], by simp, by simp, by simp⟩
  | none =>
    simp only
    cases hp : ex.client.conn.password with
    | none => exact ⟨[], by simp, by simp, by simp⟩
    | some pw =>
      simp only
      refine (loginWith_ends pw ex.client ex.link.clock ex.sent _ [] [] [] ex .nil rfl
        (by simp)).mono ?_ ?_
      · rintro t ex' ⟨ds, hs, hend⟩
        exact ⟨ds, hs, hend.token_of_ok⟩
      · rintro e ex' ⟨ds, hs, hend⟩
        refine ⟨ds, hs, hend.token_of_error, ?_⟩
        simpa using hend.notSupported_iff

/-- **Sending a REST request fails as unsupported** exactly when it was answered `404`. -/
theorem sendRest_unsupported (r : Request) (tok : Option String) (ex : Exchange) :
    WP (sendRest r tok) (fun _ _ => True)
      (fun e _ => (∃ m, e = .notSupported m) ↔ (ex.departure { r with session := tok }).NotFound) ex := by
  unfold sendRest
  simp only [wp_bind, wp_exchange]
  cases hn : ex.link.next.1 with
  | error e => simp [Departure.NotFound, hn]
  | ok resp =>
    have hnf : (ex.departure { r with session := tok }).NotFound ↔ resp.status = 404 := by
      simp [Departure.NotFound, hn]
    simp only
    by_cases hs : resp.isSuccess = true
    · simp [hs]
    by_cases hu : resp.status = 401 ∨ resp.status = 403
    · rw [if_neg hs, if_pos (by simpa using hu), wp_throw, hnf]
      simp only [reduceCtorEq, exists_false, false_iff]
      omega
    rw [if_neg hs, if_neg (by simpa using hu)]
    by_cases h404 : resp.status = 404
    · rw [if_pos h404, wp_throw, hnf]
      exact iff_of_true ⟨_, rfl⟩ h404
    rw [if_neg h404]
    by_cases h429 : resp.status = 429
    · rw [if_pos h429, wp_bind, wp_backOff, wp_throw, hnf]
      simp [Session.rateLimited, h404]
    · rw [if_neg h429, wp_throw, hnf]
      simp [h404]

/-- **The renewal of a refused request, refused too**: the request left with the token `tok`
and was refused, sign-ins followed and the last granted `t`, and the request left again with `t`
and was refused. -/
def RenewalRefused (r : Request) (tok : Option String) (t : String) (ds : List Departure) : Prop :=
  ∃ d ins d', ds = d :: (ins ++ [d']) ∧ d.request = { r with session := tok } ∧ d.Refused ∧
    (∃ x ∈ ins.getLast?, x.Grants t) ∧ d'.request = { r with session := some t } ∧ d'.Refused

/-- **A refusal of a token the call did not just get** drops it and renews it once: the refusal
returned leaves no token, or the token of a renewal refused too. -/
theorem sendRenewing_refused (r : Request) (tok : Option String) (ex : Exchange) :
    WP (sendRenewing r tok false) (fun _ _ => True)
      (fun e ex' => ∀ m, e = .auth m → ex'.client.session.token = none ∨
        ∃ t ds, ex'.sent = ex.sent ++ ds ∧ RenewalRefused r tok t ds ∧
          ex'.client.session.token = some t) ex := by
  unfold sendRenewing
  rw [wp_bind, wp_attempt]
  refine (sendRest_spec r tok ex).mono (fun _ _ _ => trivial) ?_
  intro e ex₁ hf
  split
  · rename_i heq
    cases heq
  · rename_i reason heq
    cases heq
    simp only [wp_bind, wp_updateSession, Bool.false_eq_true, if_false]
    refine (login_outcome _).mono ?_ ?_
    · rintro t ex₃ ⟨ins, hs₃, htok₃, hgrant⟩
      refine (sendRest_spec r (some t) ex₃).mono (fun _ _ _ => trivial) ?_
      intro e' ex₄ hf₂ m hm
      -- the request sent again with the new token was refused: that token stays
      have hsent : ex₄.sent = ex.sent ++ (ex.departure { r with session := tok } ::
          (ins ++ [ex₃.departure { r with session := some t }])) := by
        rw [hf₂.leaves.sent, hs₃, hf.leaves.sent]
        simp
      exact .inr ⟨t, _, hsent, ⟨_, ins, _, rfl, rfl, hf.auth.1 ⟨reason, rfl⟩, hgrant, rfl,
        hf₂.auth.1 ⟨m, hm⟩⟩, hf₂.token.trans htok₃⟩
    · rintro _ ex₃ ⟨-, -, htok₃, -⟩ m -
      exact .inl (htok₃.elim id id)
  · rename_i e' hne heq
    cases heq
    intro m hm
    exact absurd hm (hne m)

/-- **A refusal of a token the call just got** is final and drops it. -/
theorem sendRenewing_fresh_refused (r : Request) (tok : Option String) (ex : Exchange) :
    WP (sendRenewing r tok true) (fun _ _ => True)
      (fun e ex' => ∀ m, e = .auth m → ex'.client.session.token = none) ex := by
  unfold sendRenewing
  rw [wp_bind, wp_attempt]
  refine (sendRest_spec r tok ex).mono (fun _ _ _ => trivial) ?_
  intro e ex₁ _
  split
  · rename_i heq
    cases heq
  · rename_i reason heq
    cases heq
    simp only [wp_bind, wp_updateSession, if_true, wp_throw]
    simp
  · rename_i e' hne heq
    cases heq
    intro m hm
    exact absurd hm (hne m)

/-- **A refused REST call keeps no token but the one its renewal got.** When a REST call returns a
refusal, the session holds no token; the one exception is a call whose request was refused, after
which a sign-in granted a token and the request sent again with that token was refused too: that
token, the one just refused, stays in the session. -/
theorem restCall_refused_token (r : Request) (loginFirst : Bool) (ex : Exchange) :
    WP (restCall r loginFirst) (fun _ _ => True)
      (fun e ex' => ∀ m, e = .auth m → ex'.client.session.token = none ∨
        ∃ t ds, ex'.sent = ex.sent ++ ds ∧ RenewalRefused r ex.client.session.token t ds ∧
          ex'.client.session.token = some t) ex := by
  refine wp_restCall (fun _ _ _ h => by cases h) (fun _ _ h => by cases h) ?_ ?_
  · exact fun _ _ => sendRenewing_refused r ex.client.session.token ex
  · intro _ htok _
    refine (login_outcome ex).mono ?_ ?_
    · intro t ex₁ _
      exact (sendRenewing_fresh_refused r (some t) ex₁).mono (fun _ _ _ => trivial)
        fun _ _ h m hm => .inl (h m hm)
    · rintro _ ex₁ ⟨-, -, htok₁, -⟩ m -
      exact .inl (htok₁.elim id (·.trans htok))

/-- A client holding the token `sid1` writes an outlet: the `PUT` is refused, a sign-in grants
`sid2`, and the `PUT` with `sid2` is refused too. The call fails as refused, and `sid2`, the token
just refused, stays in the session. -/
theorem restCall_keeps_refused_renewal :
    WP (restCall ((Request.make .put "/rest/status/outputs/3_1").withJson (.ofFields [])) false)
      (fun _ _ => False)
      (fun e ex' => (∃ m, e = .auth m) ∧ ex'.client.session.token = some "sid2" ∧
        ∃ ds, ex'.sent = ds ∧
          RenewalRefused ((Request.make .put "/rest/status/outputs/3_1").withJson (.ofFields []))
            (some "sid1") "sid2" ds)
      { client := { conn := { host := "apex", password? := some "pw" }, session := { token := some "sid1" } },
        link := { replies := [.ok { status := 401 }, .ok { status := 200, sessionCookie := some "sid2" },
          .ok { status := 403 }] } } := by
  refine ((WP.of_check (fun _ _ => false) (fun e ex' =>
      e.needsReauth && ex'.client.session.token == some "sid2")
      ?_).and (restCall_refused_token _ false _)).mono (fun _ _ h => absurd h.1 Bool.false_ne_true) ?_
  · decide +kernel
  rintro e ex' ⟨hchk, hkept⟩
  simp only [Bool.and_eq_true, beq_iff_eq] at hchk
  obtain ⟨hauth, htok⟩ := hchk
  cases e with
  | auth m =>
    rcases hkept m rfl with hnone | ⟨t, ds, hs, hren, ht⟩
    · rw [htok] at hnone
      cases hnone
    · rw [htok, Option.some.injEq] at ht
      subst ht
      exact ⟨⟨m, rfl⟩, htok, ds, hs, hren⟩
  | _ => cases hauth

/-- **Sending with a token, renewed once when refused and not fresh**, sends at least its request
and fails as unsupported exactly when the last request it sent was answered `404`. -/
theorem sendRenewing_unsupported (r : Request) (tok : Option String) (fresh : Bool) (ex : Exchange) :
    WP (sendRenewing r tok fresh)
      (fun _ ex' => ∃ ds, ex'.sent = ex.sent ++ ds ∧ ds ≠ [] ∧ ∀ d ∈ ds.getLast?, ¬ d.NotFound)
      (fun e ex' => ∃ ds, ex'.sent = ex.sent ++ ds ∧ ds ≠ [] ∧
        ((∃ m, e = .notSupported m) ↔ ∃ d ∈ ds.getLast?, d.NotFound)) ex := by
  unfold sendRenewing
  rw [wp_bind, wp_attempt]
  refine ((sendRest_spec r tok ex).and (sendRest_unsupported r tok ex)).mono ?_ ?_
  · rintro resp ex₁ ⟨⟨rfl, hreply, hs⟩, -⟩
    exact ⟨_, rfl, by simp, by simpa using Departure.not_notFound_of_success hreply hs⟩
  · rintro e ex₁ ⟨hf, hnf⟩
    split
    · rename_i heq
      cases heq
    · rename_i reason heq
      cases heq
      have hq : ¬ (ex.departure { r with session := tok }).NotFound :=
        (hf.auth.1 ⟨reason, rfl⟩).not_notFound
      simp only [wp_bind, wp_updateSession]
      cases fresh with
      | true =>
        simp only [if_true, wp_throw]
        exact ⟨_, hf.leaves.sent, by simp, by simpa using hq⟩
      | false =>
        simp only [Bool.false_eq_true, if_false, wp_bind]
        refine (login_outcome _).mono ?_ ?_
        · rintro t ex₃ ⟨ins, hs₃, -, -⟩
          have hsent : ∀ ex₄ : Exchange, ex₄.sent = ex₃.sent ++ [ex₃.departure { r with session := some t }] →
              ex₄.sent = ex.sent ++ (ex.departure { r with session := tok } ::
                (ins ++ [ex₃.departure { r with session := some t }])) := by
            intro ex₄ hs₄
            simp [hs₄, hs₃, hf.leaves.sent]
          refine ((sendRest_spec r (some t) ex₃).and (sendRest_unsupported r (some t) ex₃)).mono ?_ ?_
          · rintro resp ex₄ ⟨⟨rfl, hreply, hs⟩, -⟩
            exact ⟨_, hsent _ rfl, by simp,
              by simpa [List.getLast?_cons] using Departure.not_notFound_of_success hreply hs⟩
          · rintro e' ex₄ ⟨hf₂, hnf₂⟩
            exact ⟨_, hsent _ hf₂.leaves.sent, by simp, by simpa [List.getLast?_cons] using hnf₂⟩
        · rintro e' ex₃ ⟨ins, hs₃, -, hnf₃⟩
          refine ⟨ex.departure { r with session := tok } :: ins, by simp [hs₃, hf.leaves.sent],
            by simp, ?_⟩
          rw [notFound_last_cons hq]
          exact hnf₃
    · rename_i e' _ heq
      cases heq
      exact ⟨_, hf.leaves.sent, by simp, by simpa using hnf⟩

/-- **A REST call fails as unsupported** exactly when the last request it sent was answered
`404`: the call's own request, or one of its sign-ins. -/
theorem restCall_unsupported (r : Request) (loginFirst : Bool) (ex : Exchange) :
    WP (restCall r loginFirst)
      (fun _ ex' => ∃ ds, ex'.sent = ex.sent ++ ds ∧ ∀ d ∈ ds.getLast?, ¬ d.NotFound)
      (fun e ex' => ∃ ds, ex'.sent = ex.sent ++ ds ∧
        ((∃ m, e = .notSupported m) ↔ ∃ d ∈ ds.getLast?, d.NotFound)) ex := by
  have hnone : ∀ e : Error, (∀ m, e ≠ .notSupported m) → ∃ ds, ex.sent = ex.sent ++ ds ∧
      ((∃ m, e = .notSupported m) ↔ ∃ d ∈ ds.getLast?, d.NotFound) :=
    fun e he => ⟨[], by simp, by simpa using he⟩
  have hsend : ∀ (tok : Option String) (fresh : Bool) (ins : List Departure) (ex₁ : Exchange),
      ex₁.sent = ex.sent ++ ins →
      WP (sendRenewing r tok fresh)
        (fun _ ex' => ∃ ds, ex'.sent = ex.sent ++ ds ∧ ∀ d ∈ ds.getLast?, ¬ d.NotFound)
        (fun e ex' => ∃ ds, ex'.sent = ex.sent ++ ds ∧
          ((∃ m, e = .notSupported m) ↔ ∃ d ∈ ds.getLast?, d.NotFound)) ex₁ := by
    intro tok fresh ins ex₁ hs₁
    -- what is sent last is sent after the sign-ins
    have hlast : ∀ ds : List Departure, ds ≠ [] → (ins ++ ds).getLast? = ds.getLast? := by
      intro ds hne
      rw [List.getLast?_append, List.getLast?_eq_some_getLast hne]
      rfl
    refine (sendRenewing_unsupported r tok fresh ex₁).mono ?_ ?_
    · rintro _ ex₂ ⟨ds, hs₂, hne, hnf⟩
      exact ⟨ins ++ ds, by rw [hs₂, hs₁, List.append_assoc], by rw [hlast ds hne]; exact hnf⟩
    · rintro _ ex₂ ⟨ds, hs₂, hne, hnf⟩
      exact ⟨ins ++ ds, by rw [hs₂, hs₁, List.append_assoc], by rw [hlast ds hne]; exact hnf⟩
  refine wp_restCall (fun ms _ => hnone (.transportDisabled ms) fun _ h => by cases h)
    (fun _ => hnone (.device .passwordRequired) fun _ h => by cases h) ?_ ?_
  · exact fun _ _ => hsend _ false [] ex (by simp)
  · intro _ _ _
    refine (login_outcome ex).mono ?_ ?_
    · rintro t ex₁ ⟨ins, hs₁, -, -⟩
      exact hsend (some t) true ins ex₁ hs₁
    · rintro e ex₁ ⟨ins, hs₁, -, hnf⟩
      exact ⟨ins, hs₁, hnf⟩

end Call

end ReefLink
