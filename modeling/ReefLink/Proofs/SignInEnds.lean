import ReefLink.Proofs.SignIn
/-!
# How a sign-in ends

A sign-in tries user names in turn: the configured one, trimmed and when not blank, then `admin`
unless that was it. Each name's request is a `POST` of `/rest/login` with the name, the password
and `remember_me` off. It is sent again only after a transient failure, at most three times in
all, `250 ms` times the attempt number later (`Retries`). The first answer that grants a token
ends the search and the token is kept; a `404`, a `429` and a failure of the transport stop it
(`Stops`). Any other answer passes on to the next name (`Declines`), and once every name was
passed over (`Declined`) the token is dropped and the last unexpected status is reported, else
the refusal (`rejection`).

`SignInEnds` puts these together, and `login_ends` proves that a sign-in from any exchange ends
as it says, or fails at once without sending when REST is off or no password is set. Its proof is
a loop invariant (`loginWith_ends`): the names passed over so far form a `Declined` run.
-/

namespace ReefLink

/-- A departure answered `404`. -/
def Departure.NotFound (d : Departure) : Prop := ∃ resp, d.reply = .ok resp ∧ resp.status = 404

namespace Call

/-- **The sign-in request for a user name**: a `POST` of `/rest/login` with no session, whose JSON
body holds the name, the password and `remember_me` off. -/
def signInRequest (user pw : String) : Request :=
  { method := .post, path := Endpoint.restLogin,
    body := .json (.ofFields [("login", .str user), ("password", .str pw), ("remember_me", .bool false)]) }

theorem loginRequest_eq (user pw : String) :
    (Request.make .post Endpoint.restLogin).withJson (loginBody user pw) = signInRequest user pw := by
  have hpath : normalizePath Endpoint.restLogin = Endpoint.restLogin := by decide +kernel
  simp [Request.make, Request.withJson, loginBody, signInRequest, hpath]

/-- **The user names a sign-in tries**, in order: the configured one when it counts (trimmed and
not blank), then `admin` unless that was it. -/
def signInUsers (conn : Connection) : List String :=
  conn.user.toList ++ if conn.user = some defaultUser then [] else [defaultUser]

theorem loginCandidates_eq (conn : Connection) : conn.loginCandidates = signInUsers conn := by
  unfold Connection.loginCandidates signInUsers
  cases conn.user with
  | none => rfl
  | some u => by_cases h : u = defaultUser <;> simp [h]

/-- **The tries of one sign-in request** `r` from client `c`, the first of them attempt `n` and
leaving at `now`: a try that fails in a transient way is sent again while fewer than three were
sent, `250 ms` times its attempt number later. `ρ` is what the last try came to, at time `fin`. -/
inductive Retries (c : Client) (r : Request) : Nat → Nat → List Departure → Reply → Nat → Prop
  /-- The last try: it did not fail in a transient way, or it was the third. -/
  | last {n now : Nat} {d : Departure} : d.client = c → d.request = r → d.clock = now →
      (∀ e, tryOutcome d.reply = .error e → e.isTransient = true → loginAttempts ≤ n) →
      Retries c r n now [d] (tryOutcome d.reply) now
  /-- A try that failed in a transient way before the third, and the tries after it. -/
  | retry {n now fin : Nat} {d : Departure} {ds : List Departure} {ρ : Reply} {e : TransportError} :
      d.client = c → d.request = r → d.clock = now → n < loginAttempts →
      tryOutcome d.reply = .error e → e.isTransient = true →
      Retries c r (n + 1) (now + loginRetryStep * n) ds ρ fin → Retries c r n now (d :: ds) ρ fin

/-- **An answer that passes the search on** to the next name: no success with a token, and
neither `404` nor `429`. -/
def Declines (resp : Response) : Prop :=
  (resp.isSuccess = true → tokenOf resp = none) ∧ resp.status ≠ 404 ∧ resp.status ≠ 429

/-- **How the last try of a name stops the search**, at time `now`: with the token of a success,
kept by the client; as unsupported at a `404`; backing off at a `429`; or with the failure of the
transport. `res` is what the sign-in returns and `c'` the client it leaves. -/
inductive Stops (c : Client) (now : Nat) : Reply → Except Error String → Client → Prop
  | granted {resp : Response} {t : String} : resp.isSuccess = true → tokenOf resp = some t →
      Stops c now (.ok resp) (.ok t) { c with session := { c.session with token := some t } }
  | notFound {resp : Response} : resp.status = 404 →
      Stops c now (.ok resp) (.error (.notSupported ("POST " ++ Endpoint.restLogin))) c
  | limited {resp : Response} : resp.status = 429 →
      Stops c now (.ok resp) (.error (.rateLimited (resp.retryAfter.bind retryAfterMs?)))
        { c with session := (c.session.rateLimited now resp.retryAfter).1 }
  | failed {e : TransportError} : Stops c now (.error e) (.error (.transport e)) c

/-- **The names a sign-in passed over**, from client `c` with password `pw`: each name's tries,
the first leaving at `now` and each name's after the one before, ended in an answer that passes
the search on. `rs` are those answers, and `fin` is when the last try left. -/
inductive Declined (pw : String) (c : Client) :
    List String → Nat → List Departure → List Response → Nat → Prop
  | nil {now : Nat} : Declined pw c [] now [] [] now
  | cons {u : String} {us : List String} {now mid fin : Nat} {ds ds' : List Departure}
      {resp : Response} {rs : List Response} :
      Retries c (signInRequest u pw) 1 now ds (.ok resp) mid → Declines resp →
      Declined pw c us mid ds' rs fin → Declined pw c (u :: us) now (ds ++ ds') (resp :: rs) fin

/-- An answer with a status neither a success nor a refusal. -/
def Unexpected (resp : Response) : Bool := !resp.isSuccess && !resp.isUnauthorized

/-- The status of the last answer. -/
def lastStatusOf (rs : List Response) : Option Nat := rs.getLast?.map (·.status)

/-- The last unexpected status, as a failure of the transport. -/
def lastErrorOf (rs : List Response) : Option TransportError :=
  (rs.filter Unexpected).getLast?.map fun resp => .unexpectedStatus resp.status

/-- **What a sign-in that passed over every name reports**: the last unexpected status, else a
refusal that names the last status. -/
def rejection (rs : List Response) : Error :=
  match lastErrorOf rs with
  | some e => .transport e
  | none => .auth (match lastStatusOf rs with
    | some s => "REST login rejected (HTTP " ++ toString s ++ ")"
    | none => "REST login rejected")

/-- **A whole sign-in** over the names `users` with password `pw`, from client `c` at `now`: it
sent `ds`, returned `res`, and left client `c'` at time `fin`. -/
inductive SignInEnds (pw : String) (c : Client) (users : List String) (now : Nat) :
    List Departure → Except Error String → Client → Nat → Prop
  /-- Every name was passed over: the token is dropped and the rejection reported. -/
  | exhausted {ds : List Departure} {rs : List Response} {fin : Nat} :
      Declined pw c users now ds rs fin →
      SignInEnds pw c users now ds (.error (rejection rs))
        { c with session := { c.session with token := none } } fin
  /-- The names `pre` were passed over, and the last try of `u` stopped the search. -/
  | stopped {pre rest : List String} {u : String} {ds ds' : List Departure} {rs : List Response}
      {mid fin : Nat} {ρ : Reply} {res : Except Error String} {c' : Client} :
      users = pre ++ u :: rest → Declined pw c pre now ds rs mid →
      Retries c (signInRequest u pw) 1 mid ds' ρ fin → Stops c fin ρ res c' →
      SignInEnds pw c users now (ds ++ ds') res c' fin

/-- A name passed over after those before it. -/
theorem Declined.snoc {pw : String} {c : Client} {pre : List String} {u : String} {now mid fin : Nat}
    {ds ds' : List Departure} {rs : List Response} {resp : Response}
    (h : Declined pw c pre now ds rs mid) (hu : Retries c (signInRequest u pw) 1 mid ds' (.ok resp) fin)
    (hd : Declines resp) : Declined pw c (pre ++ [u]) now (ds ++ ds') (rs ++ [resp]) fin := by
  induction h with
  | nil => simpa using Declined.cons hu hd .nil
  | cons hr hdr _ ih => simpa using Declined.cons hr hdr (ih hu)

/-- A try that is the last one: it leaves now from the client as it is. -/
theorem Retries.depart {r : Request} {n : Nat} {ex : Exchange}
    (hstop : ∀ e, tryOutcome ex.link.next.1 = .error e → e.isTransient = true → loginAttempts ≤ n) :
    Retries ex.client r n ex.link.clock [ex.departure r] (tryOutcome ex.link.next.1)
      (ex.depart r).link.clock := by
  rw [Exchange.depart_clock]
  exact .last rfl rfl rfl hstop

theorem loginSend_retries (r : Request) (n left : Nat) (hn : n + left = loginAttempts) (ex : Exchange) :
    WP (loginSend r n left)
      (fun ρ ex' => ex'.client = ex.client ∧
        ∃ ds, ex'.sent = ex.sent ++ ds ∧ Retries ex.client r n ex.link.clock ds ρ ex'.link.clock)
      (fun _ _ => False) ex := by
  induction left generalizing n ex with
  | zero =>
    rw [loginSend, wp_loginTry]
    -- the third try is the last, whatever it came to
    exact ⟨rfl, _, rfl, Retries.depart fun _ _ _ => by omega⟩
  | succ left ih =>
    rw [loginSend, wp_bind, wp_loginTry]
    rcases hρ : tryOutcome ex.link.next.1 with e | resp
    · by_cases ht : e.isTransient = true
      · simp only [ht, if_true, wp_bind, wp_pause]
        refine (ih (n + 1) (by omega) _).mono ?_ (fun _ _ h => h)
        rintro ρ ex' ⟨hc, ds, hs, hrt⟩
        refine ⟨hc, ex.departure r :: ds, by simp [hs], ?_⟩
        exact .retry rfl rfl rfl (by unfold loginAttempts at hn ⊢; omega) hρ ht (by simpa using hrt)
      · simp only [ht, Bool.false_eq_true, if_false, wp_pure]
        refine ⟨rfl, _, rfl, hρ ▸ Retries.depart fun e' he' ht' => ?_⟩
        rw [hρ, Except.error.injEq] at he'
        exact absurd (he' ▸ ht') ht
    · simp only [wp_pure]
      exact ⟨rfl, _, rfl, hρ ▸ Retries.depart fun e' he' _ => by rw [hρ] at he'; cases he'⟩

/-- **How one sign-in answer is read**: a success with a token is returned; an answer that passes
the search on changes nothing, and counts as unexpected exactly when it is read as a failure; a
`404` and a `429` stop the search, the `429` backing off. -/
theorem readLoginAnswer_ends (resp : Response) (ex : Exchange) :
    WP (readLoginAnswer resp)
      (fun a ex' => match a with
        | .token t => ex' = ex ∧ resp.isSuccess = true ∧ tokenOf resp = some t
        | .next => ex' = ex ∧ Declines resp ∧ Unexpected resp = false
        | .failed e => ex' = ex ∧ Declines resp ∧ Unexpected resp = true ∧ e = .unexpectedStatus resp.status
        | .stop e => resp.status = 404 ∧ ex' = ex ∧ e = .notSupported ("POST " ++ Endpoint.restLogin) ∨
            resp.status = 429 ∧ e = .rateLimited (resp.retryAfter.bind retryAfterMs?) ∧
              ex' = { ex with client := { ex.client with
                session := (ex.client.session.rateLimited ex.link.clock resp.retryAfter).1 } })
      (fun _ _ => False) ex := by
  unfold readLoginAnswer
  by_cases hs : resp.isSuccess = true
  · have h429 : resp.status ≠ 429 ∧ resp.status ≠ 404 := by
      simp only [Response.isSuccess, Bool.and_eq_true, decide_eq_true_eq] at hs
      omega
    cases ht : tokenOf resp with
    | some t => simp [hs]
    | none => simp [hs, Declines, ht, h429, Unexpected]
  · by_cases h40x : (resp.status = 401 || resp.status = 403) = true
    · have h4 : resp.status ≠ 404 ∧ resp.status ≠ 429 := by simp at h40x; omega
      simp [hs, h40x, Declines, h4, Unexpected, Response.isUnauthorized]
    · by_cases h404 : resp.status = 404
      · simp [hs, h404]
      · by_cases h429 : resp.status = 429
        · simp [hs, h429, Session.rateLimited]
        · simp [hs, h40x, h404, h429, Declines, Unexpected, Response.isUnauthorized]

/-- What a sign-in that sent `ds` after `sent₀` has come to. -/
def SignInRecord (pw : String) (c : Client) (users : List String) (now : Nat)
    (sent₀ : List Departure) (res : Except Error String) (ex' : Exchange) : Prop :=
  ∃ ds, ex'.sent = sent₀ ++ ds ∧ SignInEnds pw c users now ds res ex'.client ex'.link.clock

theorem lastStatusOf_concat (rs : List Response) (resp : Response) :
    lastStatusOf (rs ++ [resp]) = some resp.status := by
  simp [lastStatusOf]

theorem lastErrorOf_concat (rs : List Response) (resp : Response) :
    lastErrorOf (rs ++ [resp]) =
      if Unexpected resp then some (.unexpectedStatus resp.status) else lastErrorOf rs := by
  by_cases h : Unexpected resp = true <;> simp [lastErrorOf, List.filter_append, h]

/-- **The sign-in loop**, from the names `pre` already passed over: whatever the names `users` left
answer, the sign-in over `pre ++ users` ends as `SignInEnds` says. -/
theorem loginWith_ends (pw : String) (c : Client) (now₀ : Nat) (sent₀ : List Departure)
    (users pre : List String) (ds₀ : List Departure) (rs₀ : List Response) (ex : Exchange)
    (hpre : Declined pw c pre now₀ ds₀ rs₀ ex.link.clock) (hc : ex.client = c)
    (hs : ex.sent = sent₀ ++ ds₀) :
    WP (loginWith pw users (lastStatusOf rs₀) (lastErrorOf rs₀))
      (fun t ex' => SignInRecord pw c (pre ++ users) now₀ sent₀ (.ok t) ex')
      (fun e ex' => SignInRecord pw c (pre ++ users) now₀ sent₀ (.error e) ex') ex := by
  induction users generalizing pre ds₀ rs₀ ex with
  | nil =>
    simp only [loginWith, wp_bind, wp_updateSession]
    have hend : SignInRecord pw c (pre ++ []) now₀ sent₀ (.error (rejection rs₀))
        { ex with client := { ex.client with session := { ex.client.session with token := none } } } :=
      ⟨ds₀, hs, by rw [List.append_nil, hc]; exact .exhausted hpre⟩
    unfold rejection at hend
    cases h : lastErrorOf rs₀ <;> rw [h] at hend <;> exact hend
  | cons u rest ih =>
    simp only [loginWith, wp_bind]
    rw [loginRequest_eq]
    refine (loginSend_retries _ 1 (loginAttempts - 1) rfl ex).mono ?_ (fun _ _ h => h.elim)
    rintro ρ ex₁ ⟨hc₁, ds₁, hs₁, hrt⟩
    rw [hc] at hrt
    have hstop : ∀ {res : Except Error String} {c' : Client}, Stops c ex₁.link.clock ρ res c' →
        ∀ ex' : Exchange, ex'.sent = ex₁.sent → ex'.client = c' → ex'.link.clock = ex₁.link.clock →
        SignInRecord pw c (pre ++ u :: rest) now₀ sent₀ res ex' := by
      intro res c' hst ex' hs' hc' hclk'
      refine ⟨ds₀ ++ ds₁, by rw [hs', hs₁, hs, List.append_assoc], ?_⟩
      rw [hc', hclk']
      exact .stopped rfl hpre hrt hst
    cases ρ with
    | error e =>
      simp only [wp_bind, wp_throw]
      exact hstop .failed ex₁ rfl (hc₁.trans hc) rfl
    | ok resp =>
      simp only [wp_pure, wp_bind]
      refine (readLoginAnswer_ends resp ex₁).mono (fun a ex₂ ha => ?_) (fun _ _ h => h.elim)
      -- a name passed over extends the run of declined names
      have hnext : Declines resp → ∀ le, le = lastErrorOf (rs₀ ++ [resp]) → ex₂ = ex₁ →
          WP (loginWith pw rest (some resp.status) le)
            (fun t ex' => SignInRecord pw c (pre ++ u :: rest) now₀ sent₀ (.ok t) ex')
            (fun e ex' => SignInRecord pw c (pre ++ u :: rest) now₀ sent₀ (.error e) ex') ex₂ := by
        intro hd le hle hex
        rw [hex, hle]
        have hpre' := hpre.snoc hrt hd
        rw [← lastStatusOf_concat rs₀ resp]
        simpa using ih (pre ++ [u]) (ds₀ ++ ds₁) (rs₀ ++ [resp]) ex₁ hpre' (hc₁.trans hc)
          (by rw [hs₁, hs, List.append_assoc])
      cases a with
      | token t =>
        obtain ⟨rfl, hsucc, ht⟩ := ha
        simp only [wp_bind, wp_updateSession, wp_pure]
        exact hstop (.granted hsucc ht) _ rfl (by rw [hc₁, hc]) rfl
      | next =>
        obtain ⟨rfl, hd, hu⟩ := ha
        exact hnext hd _ (by rw [lastErrorOf_concat, hu]; rfl) rfl
      | failed e =>
        obtain ⟨rfl, hd, hu, rfl⟩ := ha
        exact hnext hd _ (by rw [lastErrorOf_concat, hu]; rfl) rfl
      | stop e =>
        simp only [wp_throw]
        rcases ha with ⟨h404, rfl, rfl⟩ | ⟨h429, rfl, rfl⟩
        · exact hstop (.notFound h404) _ rfl (hc₁.trans hc) rfl
        · exact hstop (.limited h429) _ rfl (by rw [hc₁, hc]) rfl

/-- **How a sign-in from `ex` ends**, returning `res` in `ex'`: with REST off or no password it
fails at once and sends nothing; otherwise it is a `SignInEnds` over the user names it tries. -/
def LoginEnds (ex : Exchange) (res : Except Error String) (ex' : Exchange) : Prop :=
  match ex.client.session.retryIn ex.link.clock, ex.client.conn.password with
  | some ms, _ => res = .error (.transportDisabled ms) ∧ ex' = ex
  | none, none => res = .error (.device .passwordRequired) ∧ ex' = ex
  | none, some pw => ∃ ds, ex'.sent = ex.sent ++ ds ∧
      SignInEnds pw ex.client (signInUsers ex.client.conn) ex.link.clock ds res ex'.client ex'.link.clock

/-- **How a sign-in goes**, from any exchange. With REST off or no password it fails at once and
sends nothing. Otherwise it tries the configured user name, then `admin`, with the password; it
sends a name's request again only after a transient failure, at most three times and `250 ms`
times the attempt number later; the first success with a token returns it and keeps it; a `404`,
a `429` (which backs off) or a failure of the transport stop it; and when every name was passed
over, the token is dropped and the last unexpected status is reported, else the refusal. -/
theorem login_ends (ex : Exchange) :
    WP login (fun t ex' => LoginEnds ex (.ok t) ex') (fun e ex' => LoginEnds ex (.error e) ex') ex := by
  unfold login LoginEnds
  simp only [wp_bind, wp_checkAvailable, wp_state]
  cases hr : ex.client.session.retryIn ex.link.clock with
  | some ms => simp
  | none =>
    simp only
    cases hp : ex.client.conn.password with
    | none => simp
    | some pw =>
      simp only
      rw [loginCandidates_eq]
      refine (loginWith_ends pw ex.client ex.link.clock ex.sent (signInUsers ex.client.conn) [] [] []
        ex .nil rfl (by simp)).mono ?_ ?_
      · rintro t ex' ⟨ds, hs, hend⟩
        exact ⟨ds, hs, hend⟩
      · rintro e ex' ⟨ds, hs, hend⟩
        exact ⟨ds, hs, hend⟩

/-! ## What a sign-in leaves -/

/-- A try that came to a failure got no `404`: a transient status is none. -/
theorem not_notFound_of_tryOutcome_error {d : Departure} {e : TransportError}
    (h : tryOutcome d.reply = .error e) : ¬ d.NotFound := by
  rintro ⟨resp, hr, h404⟩
  rw [hr] at h
  by_cases ht : isTransientStatus resp.status = true
  · simp [isTransientStatus, h404] at ht
  · simp [tryOutcome, ht] at h

/-- The tries of a request came to what their last try came to. -/
theorem Retries.getLast {c : Client} {r : Request} {n now fin : Nat} {ds : List Departure} {ρ : Reply}
    (h : Retries c r n now ds ρ fin) : ∃ d ∈ ds.getLast?, ρ = tryOutcome d.reply := by
  induction h with
  | last => exact ⟨_, rfl, rfl⟩
  | retry _ _ _ _ _ _ _ ih =>
    obtain ⟨d, hd, hρ⟩ := ih
    exact ⟨d, by simp [List.getLast?_cons, Option.mem_def.1 hd], hρ⟩

/-- **The names passed over** ended in no `404`. -/
theorem Declined.not_notFound {pw : String} {c : Client} {users : List String} {now fin : Nat}
    {ds : List Departure} {rs : List Response} (h : Declined pw c users now ds rs fin) :
    ∀ d ∈ ds.getLast?, ¬ d.NotFound := by
  induction h with
  | nil => simp
  | @cons u us now mid fin ds ds' resp rs hr hd _ ih =>
    intro d hdl
    rw [List.getLast?_append] at hdl
    cases hl : ds'.getLast? with
    | some d' =>
      rw [hl, Option.some_or] at hdl
      exact ih d (hl ▸ hdl)
    | none =>
      -- nothing after this name: its last try is the last departure, answered `resp`
      rw [hl, Option.none_or] at hdl
      obtain ⟨d₀, hd₀, hρ⟩ := hr.getLast
      rw [Option.mem_def.1 hd₀, Option.mem_def, Option.some.injEq] at hdl
      subst hdl
      rintro ⟨resp', hr', h404⟩
      rw [tryOutcome_eq_ok hρ.symm, Except.ok.injEq] at hr'
      exact hd.2.1 (hr' ▸ h404)

/-- The last departure of a sign-in that stopped at a name is that name's last try. -/
theorem getLast?_stopped {ds ds' : List Departure} {d : Departure} (hd : d ∈ ds'.getLast?) :
    (ds ++ ds').getLast? = some d := by
  rw [List.getLast?_append, Option.mem_def.1 hd, Option.some_or]

/-- **A token a sign-in returns** is held by the client it leaves, and the last request it sent
was granted it. -/
theorem SignInEnds.token_of_ok {pw : String} {c c' : Client} {users : List String} {now fin : Nat}
    {ds : List Departure} {t : String} (h : SignInEnds pw c users now ds (.ok t) c' fin) :
    c'.session.token = some t ∧ ∃ d ∈ ds.getLast?, d.Grants t := by
  cases h with
  | stopped _ _ hrt hst =>
    obtain ⟨d, hd, hρ⟩ := hrt.getLast
    cases hst with
    | granted hs ht =>
      refine ⟨rfl, d, getLast?_stopped hd, _, tryOutcome_eq_ok hρ.symm, hs, ht⟩

/-- **A sign-in that failed** leaves no token, or the one the client held. -/
theorem SignInEnds.token_of_error {pw : String} {c c' : Client} {users : List String} {now fin : Nat}
    {ds : List Departure} {e : Error} (h : SignInEnds pw c users now ds (.error e) c' fin) :
    c'.session.token = none ∨ c'.session.token = c.session.token := by
  cases h with
  | exhausted => exact .inl rfl
  | stopped _ _ _ hst =>
    cases hst with
    | notFound => exact .inr rfl
    | limited => exact .inr (Session.rateLimited_token _ _ _)
    | failed => exact .inr rfl

/-- **A sign-in fails as unsupported** exactly when the last request it sent was answered `404`. -/
theorem SignInEnds.notSupported_iff {pw : String} {c c' : Client} {users : List String}
    {now fin : Nat} {ds : List Departure} {res : Except Error String}
    (h : SignInEnds pw c users now ds res c' fin) :
    (∃ m, res = .error (.notSupported m)) ↔ ∃ d ∈ ds.getLast?, d.NotFound := by
  cases h with
  | exhausted hd =>
    have hlast := hd.not_notFound
    refine iff_of_false ?_ ?_
    · rintro ⟨m, hm⟩
      unfold rejection at hm
      split at hm <;> cases hm
    · rintro ⟨d, hmem, hnf⟩
      exact hlast d hmem hnf
  | stopped _ _ hrt hst =>
    obtain ⟨d, hd, hρ⟩ := hrt.getLast
    rw [getLast?_stopped hd]
    simp only [Option.mem_def, Option.some.injEq, exists_eq_left']
    cases hst with
    | granted hs =>
      refine iff_of_false (by simp) ?_
      rintro ⟨resp', hr', h404⟩
      rw [tryOutcome_eq_ok hρ.symm, Except.ok.injEq] at hr'
      subst hr'
      simp only [Response.isSuccess, Bool.and_eq_true, decide_eq_true_eq] at hs
      omega
    | notFound h404 => exact iff_of_true ⟨_, rfl⟩ ⟨_, tryOutcome_eq_ok hρ.symm, h404⟩
    | limited h429 =>
      refine iff_of_false (by simp) ?_
      rintro ⟨resp', hr', h404⟩
      rw [tryOutcome_eq_ok hρ.symm, Except.ok.injEq] at hr'
      subst hr'
      omega
    | failed => exact iff_of_false (by simp) (not_notFound_of_tryOutcome_error hρ.symm)

end Call

end ReefLink
