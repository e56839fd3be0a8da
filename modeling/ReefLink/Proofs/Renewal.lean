import ReefLink.Proofs.SignIn
/-!
# REST calls and the renewal of a session

A REST call sends its request with the token the session holds, after signing in when it holds
none and the call asks for it. A refusal (`401` or `403`) drops the token; the client then signs
in once more and sends the request again with the new token, unless the refused token was the one
the call had just got, which is never renewed.

`CallRecord` is the shape of what one call sends, one constructor per path: nothing when REST is
shut, the request once, the request refused and renewed, or a sign-in first. `restCall_spec`
proves that every call sends one of these shapes, keeps the client but for its session, backs off
for every `429` it meets, and returns a success only as the answer to its last request. It is
assembled from one specification per function: `sendRest_spec`, `login_fresh_spec` and the two
cases of `sendRenewing`.
-/

namespace ReefLink

/-- The request `r` left right away from the client `c`, carrying the token `c` held. -/
def Departure.Starts (c : Client) (now : Nat) (r : Request) (d : Departure) : Prop :=
  d.client = c ∧ d.clock = now ∧ d.request = { r with session := c.session.token }

/-- **The sign-ins of one `login` of a REST call**: each went to `/rest/login` from a client
holding no token while REST was open, and none but the last was granted a token. -/
def SignIns (ins : List Departure) : Prop :=
  (∀ x ∈ ins, x.IsSignIn ∧ x.client.session.token = none ∧ x.Open) ∧
    ∀ x ∈ ins.dropLast, ∀ t, ¬ x.Grants t

/-- **What follows the sign-ins `ins`** in a REST call: nothing when none of them granted a token;
otherwise the request `r` once more, carrying the token the last one granted, from a client
holding that token while REST was open. -/
def Resent (r : Request) (ins post : List Departure) : Prop :=
  post = [] ∧ (∀ x ∈ ins, ∀ t, ¬ x.Grants t) ∨
    ∃ d t, post = [d] ∧ (∃ x ∈ ins.getLast?, x.Grants t) ∧
      d.request = { r with session := some t } ∧ d.client.session.token = some t ∧ d.Open

/-- **The departures of one REST call** of `r` from the client `c` at `now`, which signs in first
when it holds no token and `loginFirst` is set. -/
inductive CallRecord (c : Client) (now : Nat) (r : Request) (loginFirst : Bool) :
    List Departure → Prop
  /-- REST is off, or no password is set: nothing is sent. -/
  | shut : ¬ c.OpenAt now → CallRecord c now r loginFirst []
  /-- The request leaves once, with the cached token or with none, and is not refused. -/
  | once {d : Departure} : c.OpenAt now → (c.session.token.isSome ∨ loginFirst = false) →
      d.Starts c now r → ¬ d.Refused → CallRecord c now r loginFirst [d]
  /-- The request, sent with the cached token or with none, is refused: the client signs in once
  and sends it once more with the token it got. -/
  | renewed {d : Departure} {ins post : List Departure} : c.OpenAt now →
      (c.session.token.isSome ∨ loginFirst = false) → d.Starts c now r → d.Refused →
      SignIns ins → Resent r ins post → CallRecord c now r loginFirst (d :: (ins ++ post))
  /-- No token is cached and the call signs in first, once; the request leaves once with the
  token it got, and a refusal of that token is final. -/
  | signedIn {ins post : List Departure} : c.OpenAt now → c.session.token = none →
      loginFirst = true → SignIns ins → Resent r ins post →
      CallRecord c now r loginFirst (ins ++ post)

/-- **The answer of a REST call**: a success answered to its last departure, which carried `r`. -/
def Answered (r : Request) (resp : Response) (ds : List Departure) : Prop :=
  ∃ d ∈ ds.getLast?, (∃ tok, d.request = { r with session := tok }) ∧ d.reply = .ok resp ∧
    resp.isSuccess = true

namespace Leaves

variable {ex ex₁ : Exchange} {ds : List Departure}

/-- A request that asks for no back-off leaves only itself. -/
theorem depart {r : Request} (h : (ex.departure r).backoffUntil = 0) :
    Leaves ex [ex.departure r] (ex.depart r) :=
  .of_zero (by simp) (Client.Keeps.refl _) (by simp) (by simpa using h)

/-- Dropping the token changes nothing a call leaves. -/
theorem dropToken (h : Leaves ex ds ex₁) :
    Leaves ex ds { ex₁ with client := { ex₁.client with
      session := { ex₁.client.session with token := none } } } :=
  ⟨⟨h.sent, h.later, h.backoff, h.between, h.spaced⟩, ⟨h.keeps.conn, h.keeps.cache,
    h.keeps.tridentAbaddr, h.keeps.activeFeed, h.keeps.statusPath, h.keeps.later⟩, h.conns⟩

end Leaves

/-- **A call that got no answer**: its last departure, if any, was a sign-in or got no success. -/
def Unanswered (ds : List Departure) : Prop :=
  ∀ d ∈ ds.getLast?, d.IsSignIn ∨ ∀ resp, d.reply = .ok resp → resp.isSuccess = false

theorem Unanswered.nil : Unanswered [] := fun _ h => by simp at h

/-- A last departure that got no success leaves a call unanswered. -/
theorem Unanswered.concat (pre : List Departure) {d : Departure}
    (h : ∀ resp, d.reply = .ok resp → resp.isSuccess = false) : Unanswered (pre ++ [d]) := by
  intro x hx
  rw [List.getLast?_concat, Option.mem_def, Option.some.injEq] at hx
  exact Or.inr (hx ▸ h)

/-- Sign-ins after an unanswered call leave it unanswered. -/
theorem Unanswered.append_signIns {pre ins : List Departure} (h : Unanswered pre)
    (hins : SignIns ins) : Unanswered (pre ++ ins) := by
  intro x hx
  rw [List.getLast?_append] at hx
  cases hi : ins.getLast? with
  | none =>
    rw [hi] at hx
    exact h x hx
  | some y =>
    simp only [hi, Option.some_or, Option.mem_def, Option.some.injEq] at hx
    subst hx
    exact Or.inl (hins.1 _ (List.mem_of_getLast? hi)).1

/-- A call that got no answer gives none to a request that is no sign-in. -/
theorem Unanswered.not_answered {ds : List Departure} {r : Request} {resp : Response}
    (h : Unanswered ds) (hr : r.method ≠ .post) : ¬ Answered r resp ds := by
  rintro ⟨d, hd, ⟨tok, hreq⟩, hreply, hs⟩
  rcases h d hd with hsi | hns
  · apply hr
    rw [← hsi.1, hreq]
  · rw [hns resp hreply] at hs
    cases hs

/-- Departures before the last do not change the answer. -/
theorem Answered.append {r : Request} {resp : Response} {ds : List Departure} (pre : List Departure)
    (h : Answered r resp ds) : Answered r resp (pre ++ ds) := by
  obtain ⟨d, hd, hreq⟩ := h
  refine ⟨d, ?_, hreq⟩
  rw [List.getLast?_append, Option.mem_def.1 hd]
  rfl

/-- **Every departure of a REST call** left while REST was open, and is either a sign-in from a
client holding no token or the request itself, with some token. -/
theorem CallRecord.departures {c : Client} {now : Nat} {r : Request} {loginFirst : Bool}
    {ds : List Departure} (h : CallRecord c now r loginFirst ds) :
    ∀ x ∈ ds, x.Open ∧
      (x.IsSignIn ∧ x.client.session.token = none ∨ ∃ tok, x.request = { r with session := tok }) := by
  -- the sign-ins and the resent request, as every path but `shut` ends with them
  have hafter : ∀ {ins post : List Departure}, SignIns ins → Resent r ins post → ∀ x ∈ ins ++ post,
      x.Open ∧ (x.IsSignIn ∧ x.client.session.token = none ∨
        ∃ tok, x.request = { r with session := tok }) := by
    intro ins post hins hres x hx
    rcases List.mem_append.1 hx with hx | hx
    · obtain ⟨hsi, htok, hop⟩ := hins.1 x hx
      exact ⟨hop, Or.inl ⟨hsi, htok⟩⟩
    · rcases hres with ⟨rfl, -⟩ | ⟨d, t, rfl, -, hreq, -, hop⟩
      · cases hx
      · rw [List.mem_singleton.1 hx]
        exact ⟨hop, Or.inr ⟨some t, hreq⟩⟩
  have hfirst : ∀ {d : Departure}, c.OpenAt now → d.Starts c now r →
      d.Open ∧ ∃ tok, d.request = { r with session := tok } := by
    intro d hopen ⟨hc, hclk, hreq⟩
    refine ⟨?_, _, hreq⟩
    unfold Departure.Open
    rw [hc, hclk]
    exact hopen
  cases h with
  | shut => intro x hx; cases hx
  | once hopen _ hstart _ =>
    intro x hx
    rw [List.mem_singleton.1 hx]
    exact ⟨(hfirst hopen hstart).1, Or.inr (hfirst hopen hstart).2⟩
  | renewed hopen _ hstart _ hins hres =>
    intro x hx
    rcases List.mem_cons.1 hx with rfl | hx
    · exact ⟨(hfirst hopen hstart).1, Or.inr (hfirst hopen hstart).2⟩
    · exact hafter hins hres x hx
  | signedIn _ _ _ hins hres => exact hafter hins hres

/-- A REST call of a request to a REST path sends to REST paths only. -/
theorem CallRecord.isRest {c : Client} {now : Nat} {r : Request} {loginFirst : Bool}
    {ds : List Departure} (h : CallRecord c now r loginFirst ds) (hr : IsRestPath r.path) :
    ∀ x ∈ ds, x.IsRest := by
  intro x hx
  rcases (h.departures x hx).2 with ⟨hsi, -⟩ | ⟨tok, hreq⟩
  · exact hsi.isRest
  · unfold Departure.IsRest
    rw [hreq]
    exact hr

/-- **A departure as the client makes them**, over the connection `conn`: it left from a client
with that connection; a request to a REST path left while REST was open, unless it asked for the
status page at the configured path; and a sign-in left from a client holding no token. -/
def Departure.Proper (conn : Connection) (x : Departure) : Prop :=
  x.client.conn = conn ∧ (x.IsRest → x.Open ∨ x.IsStatusPage) ∧
    (x.IsSignIn → x.client.session.token = none)

/-- **What an operation sends**, from `ex` to `ex'`: departures spaced by the back-off, each made
as the client makes them, over a connection that stays. -/
structure Sends (ex : Exchange) (ds : List Departure) (ex' : Exchange) : Prop
    extends Spaced ex ds ex' where
  conn : ex'.client.conn = ex.client.conn
  proper : ∀ x ∈ ds, x.Proper ex.client.conn

namespace Sends

variable {ex ex₁ ex₂ : Exchange} {ds ds₁ ds₂ : List Departure}

/-- Nothing sent. -/
theorem refl (ex : Exchange) : Sends ex [] ex where
  sent := (List.append_nil _).symm
  later := Nat.le_refl _
  backoff := by simp
  between := by simp
  spaced := .nil
  conn := rfl
  proper := by simp

/-- One operation after another sends what both send. -/
theorem trans (h₁ : Sends ex ds₁ ex₁) (h₂ : Sends ex₁ ds₂ ex₂) : Sends ex (ds₁ ++ ds₂) ex₂ where
  toSpaced := h₁.toSpaced.trans h₂.toSpaced
  conn := h₂.conn.trans h₁.conn
  proper x hx := by
    rcases List.mem_append.1 hx with hx | hx
    · exact h₁.proper x hx
    · rw [← h₁.conn]
      exact h₂.proper x hx

/-- A change of the client that keeps its connection and back-off sends nothing. -/
theorem update (h : Sends ex ds ex₁) (hc : ex₂.client.conn = ex₁.client.conn)
    (hd : ex₂.client.session.deadline = ex₁.client.session.deadline) (hs : ex₂.sent = ex₁.sent) :
    Sends ex ds ex₂ where
  sent := hs.trans h.sent
  later := hd ▸ h.later
  backoff := hd ▸ h.backoff
  between := hd ▸ h.between
  spaced := h.spaced
  conn := hc.trans h.conn
  proper := h.proper

/-- **A REST call sends as the client does**, unless its request is itself a sign-in: every
departure left while REST was open, and its sign-ins from a client holding no token. -/
theorem of_callRecord {r : Request} {loginFirst : Bool} (hl : Leaves ex ds ex₁)
    (hrec : CallRecord ex.client ex.link.clock r loginFirst ds) (hr : r.method ≠ .post) :
    Sends ex ds ex₁ where
  toSpaced := hl.toSpaced
  conn := hl.keeps.conn
  proper x hx := by
    obtain ⟨hopen, hkind⟩ := hrec.departures x hx
    refine ⟨hl.conns x hx, fun _ => Or.inl hopen, fun hsi => ?_⟩
    rcases hkind with ⟨-, htok⟩ | ⟨tok, hreq⟩
    · exact htok
    · exact absurd (by rw [← hsi.1, hreq]) hr

end Sends

namespace Call

variable {ex : Exchange}

/-- A run of sign-ins of an open client holding no token is the `login` of a REST call. -/
theorem SignInRun.signIns {c : Client} {now : Nat} {ds : List Departure}
    (hrun : SignInRun c now ds) (hopen : c.OpenAt now) (htok : c.session.token = none) :
    SignIns ds := by
  refine ⟨fun x hx => ?_, fun x hx t => (hrun.2 x hx).1 t⟩
  obtain ⟨hsi, hc, hclk⟩ := hrun.1 x hx
  refine ⟨hsi, by rw [hc, htok], ?_⟩
  unfold Departure.Open
  rw [hc]
  exact hopen.mono hclk

/-- **A REST request that failed**, from `ex` to `ex'`: `r` left once from the client as it was,
got no success, and left a back-off that covers its `429`; the error is `auth` exactly when the
answer refused the credentials, and then the client is as it was. -/
structure SendFailed (ex : Exchange) (r : Request) (e : Error) (ex' : Exchange) : Prop where
  leaves : Leaves ex [ex.departure r] ex'
  noSuccess : ∀ resp, (ex.departure r).reply = .ok resp → resp.isSuccess = false
  clock : ex'.link.clock = ex.link.clock
  token : ex'.client.session.token = ex.client.session.token
  auth : (∃ m, e = .auth m) ↔ (ex.departure r).Refused
  refused : (ex.departure r).Refused → ex'.client = ex.client

/-- A failure that leaves the client as it was. -/
theorem SendFailed.of_depart {r : Request} {e : Error} (hb : (ex.departure r).backoffUntil = 0)
    (hns : ∀ resp, (ex.departure r).reply = .ok resp → resp.isSuccess = false)
    (hauth : (∃ m, e = .auth m) ↔ (ex.departure r).Refused) : SendFailed ex r e (ex.depart r) :=
  ⟨.depart hb, hns, by simp, rfl, hauth, fun _ => rfl⟩

/-- **Sending a REST request** with a token: it leaves once, and a success is returned as it came,
with nothing else changed. -/
theorem sendRest_spec (r : Request) (tok : Option String) (ex : Exchange) :
    WP (sendRest r tok)
      (fun resp ex' => ex' = ex.depart { r with session := tok } ∧
        (ex.departure { r with session := tok }).reply = .ok resp ∧ resp.isSuccess = true)
      (fun e ex' => SendFailed ex { r with session := tok } e ex') ex := by
  unfold sendRest
  simp only [wp_bind, wp_exchange]
  cases hn : ex.link.next.1 with
  | error e =>
    have hq : ¬ (ex.departure { r with session := tok }).Refused := by simp [Departure.Refused, hn]
    refine SendFailed.of_depart (Departure.backoffUntil_eq_zero ?_) (fun resp hr => by simp [hn] at hr)
      (by simp [hq])
    rintro ⟨-, resp, hr, -⟩
    simp [hn] at hr
  | ok resp =>
    have hd : (ex.departure { r with session := tok }).reply = .ok resp := hn
    simp only
    by_cases hs : resp.isSuccess = true
    · rw [if_pos hs, wp_pure]
      exact ⟨rfl, hd, hs⟩
    rw [if_neg hs]
    have hns : ∀ resp', (ex.departure { r with session := tok }).reply = .ok resp' →
        resp'.isSuccess = false := fun resp' hr => by
      rw [hd, Except.ok.injEq] at hr
      subst hr
      simpa using hs
    -- every answer but a `429` leaves the back-off as it was
    have hb : resp.status ≠ 429 → (ex.departure { r with session := tok }).backoffUntil = 0 :=
      fun hne => Departure.backoffUntil_eq_zero fun h => hne ((Departure.limited_iff hd).1 h.2)
    by_cases hu : resp.status = 401 ∨ resp.status = 403
    · rw [if_pos (by simpa using hu), wp_throw]
      exact SendFailed.of_depart (hb (by omega)) hns (iff_of_true ⟨_, rfl⟩ ⟨resp, hd, hu⟩)
    have hq : ¬ (ex.departure { r with session := tok }).Refused :=
      fun h => hu ((Departure.refused_iff hd).1 h)
    rw [if_neg (by simpa using hu)]
    by_cases h404 : resp.status = 404
    · rw [if_pos h404, wp_throw]
      exact SendFailed.of_depart (hb (by omega)) hns (by simp [hq])
    rw [if_neg h404]
    by_cases h429 : resp.status = 429
    · rw [if_pos h429, wp_bind, wp_backOff, wp_throw, Exchange.depart_clock]
      refine ⟨.of_last rfl (Client.keeps_rateLimited _ _ _) (by simp) (by simp) ?_, hns, by simp, by simp,
        ?_, fun h => absurd h hq⟩
      · intro x hx
        rw [List.getLast?_singleton, Option.mem_def, Option.some.injEq] at hx
        rw [← hx, Exchange.depart_client, Session.deadline_rateLimited]
        exact Nat.le_trans (Departure.backoffUntil_le hd) (Nat.le_max_right _ _)
      · simp [Session.rateLimited, hq]
    · rw [if_neg h429, wp_throw]
      exact SendFailed.of_depart (hb h429) hns (by simp [hq])

/-- **Signing in from an open client holding no token**, as a REST call does: the sign-ins are
the `login` of a REST call, and a token they grant is held by a client still open. -/
theorem login_fresh_spec (ex : Exchange) (hopen : ex.Open) (htok : ex.client.session.token = none) :
    WP login
      (fun t ex' => ∃ ins, Leaves ex ins ex' ∧ SignIns ins ∧ (∃ x ∈ ins.getLast?, x.Grants t) ∧
        ex'.client.session.token = some t ∧ ex'.Open)
      (fun _ ex' => ∃ ins, Leaves ex ins ex' ∧ SignIns ins ∧ ∀ x ∈ ins, ∀ t, ¬ x.Grants t) ex := by
  refine (login_spec ex).mono ?_ ?_
  · rintro t ex' ⟨-, ds, hs, hrun, ⟨d, hd, hg, hclk⟩, hcl⟩
    have hkeep : ex.client.Keeps ex'.client := by
      rw [hcl]
      exact ⟨rfl, rfl, rfl, rfl, rfl, Nat.le_refl _⟩
    -- the last sign-in left at or after the start, and just now
    have hlate : ex.link.clock ≤ ex'.link.clock := by
      rw [← hclk]
      exact (hrun.1 d (List.mem_of_getLast? hd)).2.2
    have hdl : ∀ x ∈ ds, x.client.conn = ex.client.conn ∧
        x.client.session.deadline = ex.client.session.deadline :=
      fun x hx => by rw [(hrun.1 x hx).2.1]; exact ⟨rfl, rfl⟩
    refine ⟨ds, .of_zero hs hkeep hdl (hrun.backoffUntil_eq_zero ⟨d, hd, hg⟩),
      hrun.signIns hopen htok, ⟨d, hd, hg⟩, by rw [hcl], ?_⟩
    unfold Exchange.Open
    rw [hcl]
    exact ⟨hopen.1, Nat.le_trans hopen.2 hlate⟩
  · rintro _ ex' (⟨hshut, -⟩ | ⟨-, ds, hl, hrun, hng⟩)
    · exact absurd hopen hshut
    · exact ⟨ds, hl, hrun.signIns hopen htok, hng⟩

/-- The departures of the request `r`, sent from `ex` with the token `tok` and renewed once if
refused. -/
def Renewed (ex : Exchange) (r : Request) (tok : Option String) (ds : List Departure) : Prop :=
  ds = [ex.departure { r with session := tok }] ∧ ¬ (ex.departure { r with session := tok }).Refused ∨
    (ex.departure { r with session := tok }).Refused ∧
      ∃ ins post, ds = ex.departure { r with session := tok } :: (ins ++ post) ∧
        SignIns ins ∧ Resent r ins post

/-- **Sending with a token that is not fresh**: a refusal drops it and renews it once. -/
theorem sendRenewing_spec (r : Request) (tok : Option String) (ex : Exchange) (hopen : ex.Open) :
    WP (sendRenewing r tok false)
      (fun resp ex' => ∃ ds, Leaves ex ds ex' ∧ Renewed ex r tok ds ∧ Answered r resp ds)
      (fun _ ex' => ∃ ds, Leaves ex ds ex' ∧ Renewed ex r tok ds ∧ Unanswered ds) ex := by
  unfold sendRenewing
  rw [wp_bind, wp_attempt]
  refine (sendRest_spec r tok ex).mono ?_ ?_
  · rintro resp ex₁ ⟨rfl, hreply, hs⟩
    exact ⟨_, .depart (Departure.backoffUntil_of_success hreply hs), Or.inl ⟨rfl, Departure.not_refused_of_success hreply hs⟩,
      _, rfl, ⟨tok, rfl⟩, hreply, hs⟩
  · intro e ex₁ hf
    split
    · rename_i heq
      cases heq
    · rename_i reason heq
      cases heq
      have hrefused := hf.auth.1 ⟨reason, rfl⟩
      have hopen₁ : ex₁.client.OpenAt ex₁.link.clock := by
        rw [hf.refused hrefused, hf.clock]
        exact hopen
      simp only [wp_bind, wp_updateSession, Bool.false_eq_true, if_false]
      refine (login_fresh_spec { ex₁ with client := { ex₁.client with
        session := { ex₁.client.session with token := none } } } hopen₁ rfl).mono ?_ ?_
      · rintro t ex₃ ⟨ins, hl₃, hins, hgrant, htok₃, hopen₃⟩
        have hresent : Resent r ins [ex₃.departure { r with session := some t }] :=
          Or.inr ⟨_, t, rfl, hgrant, rfl, htok₃, hopen₃⟩
        refine (sendRest_spec r (some t) ex₃).mono ?_ ?_
        · rintro resp ex₄ ⟨rfl, hreply, hs⟩
          refine ⟨_, ?_, Or.inr ⟨hrefused, ins, _, rfl, hins, hresent⟩,
            ⟨_, by rw [← List.cons_append, List.getLast?_concat]; exact rfl, ⟨some t, rfl⟩, hreply, hs⟩⟩
          simpa using (hf.leaves.dropToken.trans hl₃).trans
            (.depart (Departure.backoffUntil_of_success hreply hs))
        · rintro e' ex₄ hf₂
          refine ⟨_, ?_, Or.inr ⟨hrefused, ins, _, rfl, hins, hresent⟩, ?_⟩
          · simpa using (hf.leaves.dropToken.trans hl₃).trans hf₂.leaves
          · rw [← List.cons_append]
            exact Unanswered.concat _ hf₂.noSuccess
      · rintro _ ex₃ ⟨ins, hl₃, hins, hng⟩
        refine ⟨_, ?_, Or.inr ⟨hrefused, ins, [], rfl, hins, Or.inl ⟨rfl, hng⟩⟩, ?_⟩
        · simpa using hf.leaves.dropToken.trans hl₃
        · -- the refused request, then sign-ins: no success is last
          simpa using (Unanswered.concat [] hf.noSuccess).append_signIns hins
    · rename_i e' hne heq
      cases heq
      exact ⟨_, hf.leaves, Or.inl ⟨rfl, fun h => by
        obtain ⟨m, hm⟩ := hf.auth.2 h
        exact hne m hm⟩, Unanswered.concat [] hf.noSuccess⟩

/-- **Sending with a fresh token**: a refusal drops it and is final. -/
theorem sendRenewing_fresh_spec (r : Request) (tok : Option String) (ex : Exchange) :
    WP (sendRenewing r tok true)
      (fun resp ex' => Leaves ex [ex.departure { r with session := tok }] ex' ∧
        Answered r resp [ex.departure { r with session := tok }])
      (fun _ ex' => Leaves ex [ex.departure { r with session := tok }] ex' ∧
        ∀ resp, (ex.departure { r with session := tok }).reply = .ok resp → resp.isSuccess = false) ex := by
  unfold sendRenewing
  rw [wp_bind, wp_attempt]
  refine (sendRest_spec r tok ex).mono ?_ ?_
  · rintro resp ex₁ ⟨rfl, hreply, hs⟩
    exact ⟨.depart (Departure.backoffUntil_of_success hreply hs), _, rfl, ⟨tok, rfl⟩, hreply, hs⟩
  · intro e ex₁ hf
    split
    · rename_i heq
      cases heq
    · rename_i reason heq
      cases heq
      simp only [wp_bind, wp_updateSession, if_true, wp_throw]
      exact ⟨hf.leaves.dropToken, hf.noSuccess⟩
    · rename_i e' hne heq
      cases heq
      exact ⟨hf.leaves, hf.noSuccess⟩

/-- A request sent with the token the client held, and renewed if refused, is a call that did not
sign in first. -/
theorem Renewed.callRecord {r : Request} {tok : Option String} {ds : List Departure}
    {loginFirst : Bool} (h : Renewed ex r tok ds) (htok : ex.client.session.token = tok)
    (hopen : ex.Open) (hlf : ex.client.session.token.isSome ∨ loginFirst = false) :
    CallRecord ex.client ex.link.clock r loginFirst ds := by
  have hstart : (ex.departure { r with session := tok }).Starts ex.client ex.link.clock r := by
    refine ⟨rfl, rfl, ?_⟩
    rw [htok]
    rfl
  rcases h with ⟨rfl, hq⟩ | ⟨hq, ins, post, rfl, hins, hres⟩
  · exact .once hopen hlf hstart hq
  · exact .renewed hopen hlf hstart hq hins hres

/-- **Sending with the token the session holds**, renewed once when refused: the record of the
call is `once` or `renewed`. -/
theorem sendRenewing_callRecord {r : Request} {tok : Option String} {loginFirst : Bool}
    (htok : ex.client.session.token = tok) (hopen : ex.Open)
    (hlf : ex.client.session.token.isSome ∨ loginFirst = false) :
    WP (sendRenewing r tok false)
      (fun resp ex' => ∃ ds, Leaves ex ds ex' ∧ CallRecord ex.client ex.link.clock r loginFirst ds ∧
        Answered r resp ds)
      (fun _ ex' => ∃ ds, Leaves ex ds ex' ∧ CallRecord ex.client ex.link.clock r loginFirst ds ∧
        Unanswered ds) ex := by
  refine (sendRenewing_spec r tok ex hopen).mono ?_ ?_
  · rintro _ _ ⟨ds, hl, hren, hans⟩
    exact ⟨ds, hl, hren.callRecord htok hopen hlf, hans⟩
  · rintro _ _ ⟨ds, hl, hren, hun⟩
    exact ⟨ds, hl, hren.callRecord htok hopen hlf, hun⟩

/-- **A REST call by its cases.** What holds of every way the call can end follows from what
holds of each of its paths: with REST off or no password it fails and sends nothing; with a token
held, or none and no sign-in asked for, it sends with what it holds; otherwise it signs in and then
sends once with the fresh token. -/
theorem wp_restCall {r : Request} {loginFirst : Bool} {Q : Response → Exchange → Prop}
    {E : Error → Exchange → Prop}
    (hoff : ∀ ms, ¬ ex.Open → E (.transportDisabled ms) ex)
    (hnopw : ¬ ex.Open → E (.device .passwordRequired) ex)
    (hheld : ex.Open → ex.client.session.token.isSome ∨ loginFirst = false →
      WP (sendRenewing r ex.client.session.token false) Q E ex)
    (hfresh : ex.Open → ex.client.session.token = none → loginFirst = true →
      WP login (fun t ex₁ => WP (sendRenewing r (some t) true) Q E ex₁) E ex) :
    WP (restCall r loginFirst) Q E ex := by
  unfold restCall
  simp only [wp_bind, wp_checkAvailable, wp_state]
  cases hr : ex.client.session.retryIn ex.link.clock with
  | some ms =>
    refine hoff ms fun h => ?_
    rw [(Session.retryIn_eq_none_iff _ _).2 h.2] at hr
    cases hr
  | none =>
    simp only
    by_cases hp : ex.client.conn.hasPassword = true
    · have hopen : ex.Open := ⟨hp, (Session.retryIn_eq_none_iff _ _).1 hr⟩
      rw [if_neg (by simp [hp])]
      cases htok : ex.client.session.token with
      | some t =>
        simp only [wp_bind, wp_pure]
        exact htok ▸ hheld hopen (by simp [htok])
      | none =>
        cases loginFirst with
        | false =>
          simp only [Bool.false_eq_true, if_false, wp_bind, wp_pure]
          exact htok ▸ hheld hopen (.inr rfl)
        | true =>
          simp only [if_true, wp_bind]
          exact hfresh hopen htok rfl
    · rw [if_pos (by simp [hp]), wp_bind, wp_throw]
      exact hnopw fun h => hp h.1

/-- **One REST call.** From `ex`, the call leaves a `CallRecord` of the client as it was, keeps the
client but for its session, and backs off for every `429` it met; what it returns is the success
answered to its last request. -/
theorem restCall_spec (r : Request) (loginFirst : Bool) (ex : Exchange) :
    WP (restCall r loginFirst)
      (fun resp ex' => ∃ ds, Leaves ex ds ex' ∧ CallRecord ex.client ex.link.clock r loginFirst ds ∧
        Answered r resp ds)
      (fun _ ex' => ∃ ds, Leaves ex ds ex' ∧ CallRecord ex.client ex.link.clock r loginFirst ds ∧
        Unanswered ds) ex := by
  have hshut : ¬ ex.Open → ∃ ds, Leaves ex ds ex ∧
      CallRecord ex.client ex.link.clock r loginFirst ds ∧ Unanswered ds :=
    fun h => ⟨[], .of_zero (by simp) (.refl _) (by simp) (by simp), .shut h, .nil⟩
  refine wp_restCall (fun _ => hshut) hshut ?_ ?_
  · exact fun hopen hlf => sendRenewing_callRecord rfl hopen hlf
  · intro hopen htok hlf
    subst hlf
    refine (login_fresh_spec ex hopen htok).mono ?_ ?_
    · rintro t ex₁ ⟨ins, hl₁, hins, hgrant, htok₁, hopen₁⟩
      have hresent : Resent r ins [ex₁.departure { r with session := some t }] :=
        Or.inr ⟨_, t, rfl, hgrant, rfl, htok₁, hopen₁⟩
      refine (sendRenewing_fresh_spec r (some t) ex₁).mono ?_ ?_
      · rintro _ _ ⟨hl₂, hans⟩
        exact ⟨_, hl₁.trans hl₂, .signedIn hopen htok rfl hins hresent, hans.append ins⟩
      · rintro _ _ ⟨hl₂, hns⟩
        exact ⟨_, hl₁.trans hl₂, .signedIn hopen htok rfl hins hresent,
          Unanswered.concat ins hns⟩
    · rintro _ ex₁ ⟨ins, hl₁, hins, hng⟩
      refine ⟨ins ++ [], by simpa using hl₁, .signedIn hopen htok rfl hins (Or.inl ⟨rfl, hng⟩), ?_⟩
      simpa using Unanswered.nil.append_signIns hins

end Call

end ReefLink
