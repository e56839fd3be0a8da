import ReefLink.Client.Control
/-!
# Outcomes of calls

A call runs from an exchange and ends in a value or an error, in the exchange it leaves. `WP c Q E`
holds of an exchange when the call, run from it, gives a value satisfying `Q` or fails with an error
satisfying `E`, each read in the exchange the call leaves. Every later statement about the client is
a `WP` of one of its calls.

The laws here compute `WP` through the primitives a call is built from, one law each: binding,
reading the client, changing it, the clock, waiting, and sending, which adds one `Departure` to
the record. With them a call is opened step by step, and a call that another one makes is read
through its own specification, never unfolded again.

The record is read through a few predicates of a departure: whether it went to a REST path or was
a sign-in, whether REST was open when it left (a password set and no back-off running), and what
its reply said: refused credentials, a granted token, or a `429` and the back-off it asks for.
-/

namespace ReefLink

namespace Session

/-- The instant REST is off until, or `0` when it was never switched off. -/
def deadline (s : Session) : Nat := s.disabledUntil.getD 0

/-- REST is on exactly when the deadline has passed. -/
theorem retryIn_eq_none_iff (s : Session) (now : Nat) :
    s.retryIn now = none ↔ s.deadline ≤ now := by
  unfold retryIn deadline
  cases s.disabledUntil with
  | none => simp
  | some u => by_cases h : u > now <;> simp [h] <;> omega

/-- **A back-off reaches at least its delay past now**, and never moves the deadline earlier. -/
theorem deadline_disableFor (s : Session) (now duration : Nat) :
    (s.disableFor now duration).deadline = max s.deadline (now + duration) := by
  rcases s with ⟨token, _ | u, path⟩
  · simp [disableFor, deadline]
  · by_cases h : now + duration > u <;> simp [disableFor, deadline, h] <;> omega

/-- The delay a `429` answer asks for, in milliseconds: its `Retry-After`, or five minutes. -/
def backoffOf (retryAfter : Option String) : Nat := (retryAfter.bind retryAfterMs?).getD defaultBackoff

theorem deadline_rateLimited (s : Session) (now : Nat) (retryAfter : Option String) :
    (s.rateLimited now retryAfter).1.deadline = max s.deadline (now + backoffOf retryAfter) :=
  deadline_disableFor s now _

@[simp] theorem rateLimited_token (s : Session) (now : Nat) (retryAfter : Option String) :
    (s.rateLimited now retryAfter).1.token = s.token := by
  rcases s with ⟨token, _ | u, path⟩ <;> simp only [rateLimited, disableFor] <;> split <;> rfl

@[simp] theorem rateLimited_statusPath (s : Session) (now : Nat) (retryAfter : Option String) :
    (s.rateLimited now retryAfter).1.statusPath? = s.statusPath? := by
  rcases s with ⟨token, _ | u, path⟩ <;> simp only [rateLimited, disableFor] <;> split <;> rfl

end Session

/-- **REST is open** for a client at a time: a password is set and no back-off runs. -/
def Client.OpenAt (c : Client) (now : Nat) : Prop := c.conn.hasPassword = true ∧ c.session.deadline ≤ now

theorem Client.OpenAt.mono {c : Client} {now later : Nat} (h : c.OpenAt now) (hl : now ≤ later) :
    c.OpenAt later :=
  ⟨h.1, Nat.le_trans h.2 hl⟩

/-- A path under `/rest/`. -/
def IsRestPath (path : String) : Prop := path.startsWith "/rest/" = true

/-- The request for a status page at `path`: a `GET` with the connection's basic auth and no
session. -/
def pageRequest (conn : Connection) (path : String) : Request :=
  { Request.make .get path with basicAuth := conn.basicAuth }

/-- Whether a request asks for the status page at `path` over `conn`. -/
def Request.isPage (r : Request) (conn : Connection) (path : String) : Bool :=
  r.method == .get && r.path == normalizePath path && r.basicAuth == conn.basicAuth &&
    r.session.isNone && (match r.body with | .empty => true | _ => false)

theorem Request.isPage_iff {r : Request} {conn : Connection} {path : String} :
    r.isPage conn path = true ↔ r = pageRequest conn path := by
  rcases r with ⟨method, p, auth, session, body⟩
  cases body <;> cases session <;> simp [isPage, pageRequest, Request.make, and_assoc]

namespace Departure

/-- It went to a REST path. -/
def IsRest (d : Departure) : Prop := IsRestPath d.request.path

/-- It was a sign-in: a `POST` of `/rest/login`. -/
def IsSignIn (d : Departure) : Prop := d.request.method = .post ∧ d.request.path = Endpoint.restLogin

/-- REST was open when it left. -/
def Open (d : Departure) : Prop := d.client.OpenAt d.clock

/-- Its reply refused the credentials: `401` or `403`. -/
def Refused (d : Departure) : Prop := ∃ resp, d.reply = .ok resp ∧ (resp.status = 401 ∨ resp.status = 403)

/-- Its reply was a success carrying the session token `t`. -/
def Grants (d : Departure) (t : String) : Prop :=
  ∃ resp, d.reply = .ok resp ∧ resp.isSuccess = true ∧ Call.tokenOf resp = some t

/-- Its reply was a `429`. -/
def Limited (d : Departure) : Prop := ∃ resp, d.reply = .ok resp ∧ resp.status = 429

/-- Its reply granted no token and asked for no back-off. -/
def Quiet (d : Departure) : Prop := (∀ t, ¬ d.Grants t) ∧ ¬ d.Limited

/-- What a departure was answered decides whether it was refused. -/
theorem refused_iff {d : Departure} {resp : Response} (hr : d.reply = .ok resp) :
    d.Refused ↔ resp.status = 401 ∨ resp.status = 403 := by
  constructor
  · rintro ⟨r', hr', h⟩
    rw [hr, Except.ok.injEq] at hr'
    exact hr' ▸ h
  · exact fun h => ⟨resp, hr, h⟩

/-- What a departure was answered decides the token it granted. -/
theorem grants_iff {d : Departure} {resp : Response} (hr : d.reply = .ok resp) (t : String) :
    d.Grants t ↔ resp.isSuccess = true ∧ Call.tokenOf resp = some t := by
  constructor
  · rintro ⟨r', hr', hs, ht⟩
    rw [hr, Except.ok.injEq] at hr'
    subst hr'
    exact ⟨hs, ht⟩
  · rintro ⟨hs, ht⟩
    exact ⟨resp, hr, hs, ht⟩

/-- What a departure was answered decides whether it was limited. -/
theorem limited_iff {d : Departure} {resp : Response} (hr : d.reply = .ok resp) :
    d.Limited ↔ resp.status = 429 := by
  constructor
  · rintro ⟨r', hr', h⟩
    rw [hr, Except.ok.injEq] at hr'
    exact hr' ▸ h
  · exact fun h => ⟨resp, hr, h⟩

/-- It asked for the status page at the configured path, as the status pages are asked for: a
`GET` with the connection's basic auth and no session. -/
def IsStatusPage (d : Departure) : Prop :=
  d.request.isPage d.client.conn d.client.conn.statusPath = true

/-- **Until when REST must stay off after it**: a request to a REST path answered `429` asks for
its delay past the moment it left, unless it was the status page, which is asked for outside the
session; any other departure asks for nothing. -/
def backoffUntil (d : Departure) : Nat :=
  if d.request.path.startsWith "/rest/" && !d.request.isPage d.client.conn d.client.conn.statusPath then
    match d.reply with
    | .ok resp => if resp.status = 429 then d.clock + Session.backoffOf resp.retryAfter else 0
    | .error _ => 0
  else 0

/-- Only a REST `429` asks for a back-off. -/
theorem backoffUntil_eq_zero {d : Departure} (h : ¬ (d.IsRest ∧ d.Limited)) : d.backoffUntil = 0 := by
  unfold backoffUntil
  split
  · rename_i hr
    have hrest : d.IsRest := by
      simp only [Bool.and_eq_true] at hr
      exact hr.1
    split
    · rename_i resp hreply
      split
      · exact absurd ⟨hrest, resp, hreply, ‹_›⟩ h
      · rfl
    · rfl
  · rfl

/-- The status page asks for no back-off. -/
theorem backoffUntil_of_statusPage {d : Departure} (h : d.IsStatusPage) : d.backoffUntil = 0 := by
  unfold IsStatusPage at h
  simp [backoffUntil, h]

theorem backoffUntil_of_limited {d : Departure} {resp : Response} (hd : d.IsRest)
    (hp : ¬ d.IsStatusPage) (hr : d.reply = .ok resp) (h429 : resp.status = 429) :
    d.backoffUntil = d.clock + Session.backoffOf resp.retryAfter := by
  unfold IsRest IsRestPath at hd
  unfold IsStatusPage at hp
  simp [backoffUntil, hd, hp, hr, h429]

/-- A departure answered `resp` asks for no more than the delay `resp` names. -/
theorem backoffUntil_le {d : Departure} {resp : Response} (hr : d.reply = .ok resp) :
    d.backoffUntil ≤ d.clock + Session.backoffOf resp.retryAfter := by
  unfold backoffUntil
  simp only [hr]
  split
  · split <;> omega
  · omega

/-- A success asks for no back-off: its status is no `429`. -/
theorem backoffUntil_of_success {d : Departure} {resp : Response} (hr : d.reply = .ok resp)
    (hs : resp.isSuccess = true) : d.backoffUntil = 0 := by
  apply backoffUntil_eq_zero
  rintro ⟨-, hl⟩
  have h429 := (limited_iff hr).1 hl
  simp only [Response.isSuccess, Bool.and_eq_true, decide_eq_true_eq] at hs
  omega

theorem Grants.backoffUntil_eq_zero {d : Departure} {t : String} (h : d.Grants t) :
    d.backoffUntil = 0 := by
  obtain ⟨resp, hr, hs, -⟩ := h
  exact backoffUntil_of_success hr hs

/-- A success is no refusal. -/
theorem not_refused_of_success {d : Departure} {resp : Response} (hr : d.reply = .ok resp)
    (hs : resp.isSuccess = true) : ¬ d.Refused := by
  intro hq
  have h40x := (refused_iff hr).1 hq
  simp only [Response.isSuccess, Bool.and_eq_true, decide_eq_true_eq] at hs
  omega

/-- A sign-in goes to a REST path. -/
theorem IsSignIn.isRest {d : Departure} (h : d.IsSignIn) : d.IsRest := by
  unfold IsRest IsRestPath
  rw [h.2]
  decide +kernel

/-- A sign-in is no status page: it is a `POST`. -/
theorem IsSignIn.not_statusPage {d : Departure} (h : d.IsSignIn) : ¬ d.IsStatusPage := by
  unfold IsStatusPage Request.isPage
  simp [h.1]

end Departure

/-- REST is open for an exchange now. -/
def Exchange.Open (ex : Exchange) : Prop := ex.client.OpenAt ex.link.clock

@[simp] theorem Link.next_clock (l : Link) : l.next.2.clock = l.clock := by
  unfold Link.next
  split <;> rfl

@[simp] theorem Link.wait_clock (l : Link) (ms : Nat) : (l.wait ms).clock = l.clock + ms := rfl

namespace Exchange

/-- The departure a request sent now makes. -/
def departure (ex : Exchange) (r : Request) : Departure :=
  ⟨ex.client, ex.link.clock, r, ex.link.next.1⟩

/-- **The exchange once a request has left**: the link has given its next reply, and the record
holds one more departure. -/
def depart (ex : Exchange) (r : Request) : Exchange :=
  { ex with link := ex.link.next.2, sent := ex.sent ++ [ex.departure r] }

@[simp] theorem departure_client (ex : Exchange) (r : Request) : (ex.departure r).client = ex.client := rfl
@[simp] theorem departure_clock (ex : Exchange) (r : Request) : (ex.departure r).clock = ex.link.clock := rfl
@[simp] theorem departure_request (ex : Exchange) (r : Request) : (ex.departure r).request = r := rfl
@[simp] theorem departure_reply (ex : Exchange) (r : Request) : (ex.departure r).reply = ex.link.next.1 := rfl

@[simp] theorem depart_client (ex : Exchange) (r : Request) : (ex.depart r).client = ex.client := rfl
@[simp] theorem depart_sent (ex : Exchange) (r : Request) :
    (ex.depart r).sent = ex.sent ++ [ex.departure r] := rfl
@[simp] theorem depart_clock (ex : Exchange) (r : Request) :
    (ex.depart r).link.clock = ex.link.clock := Link.next_clock ex.link

end Exchange

namespace Call

variable {α β : Type}

/-- **What a call ends in**, run from `ex`: a value satisfying `Q`, or an error satisfying `E`, in
the exchange it leaves. -/
def WP (c : Call α) (Q : α → Exchange → Prop) (E : Error → Exchange → Prop) (ex : Exchange) : Prop :=
  match c.run.run ex with
  | (.ok a, ex') => Q a ex'
  | (.error e, ex') => E e ex'

variable {Q : α → Exchange → Prop} {E : Error → Exchange → Prop} {ex : Exchange}

/-- **Consequence**: weaker conditions on the ends follow from stronger ones. -/
theorem WP.mono {Q' : α → Exchange → Prop} {E' : Error → Exchange → Prop} {c : Call α}
    (h : WP c Q E ex) (hq : ∀ a ex', Q a ex' → Q' a ex') (he : ∀ e ex', E e ex' → E' e ex') :
    WP c Q' E' ex := by
  unfold WP at *
  rcases hc : c.run.run ex with ⟨e | a, ex'⟩ <;> rw [hc] at h
  · exact he e ex' h
  · exact hq a ex' h

/-- **Conjunction**: two specifications of one call hold together. -/
theorem WP.and {Q' : α → Exchange → Prop} {E' : Error → Exchange → Prop} {c : Call α}
    (h : WP c Q E ex) (h' : WP c Q' E' ex) :
    WP c (fun a ex' => Q a ex' ∧ Q' a ex') (fun e ex' => E e ex' ∧ E' e ex') ex := by
  unfold WP at *
  rcases hc : c.run.run ex with ⟨e | a, ex'⟩ <;> rw [hc] at h h'
  · exact ⟨h, h'⟩
  · exact ⟨h, h'⟩

/-- **A computed end**: a call whose end from `ex`, computed, passes the checks `q` and `e` ends
in what they check. -/
theorem WP.of_check {c : Call α} (q : α → Exchange → Bool) (e : Error → Exchange → Bool)
    (h : (match c.run.run ex with
      | (.ok a, ex') => q a ex'
      | (.error err, ex') => e err ex') = true) :
    WP c (fun a ex' => q a ex' = true) (fun err ex' => e err ex' = true) ex := by
  unfold WP
  revert h
  rcases c.run.run ex with ⟨_ | _, _⟩ <;> exact id

@[simp] theorem wp_pure (a : α) : WP (pure a) Q E ex ↔ Q a ex := Iff.rfl

@[simp] theorem wp_throw (e : Error) : WP (throw e : Call α) Q E ex ↔ E e ex := Iff.rfl

/-- **Binding**: the first call ends in what makes the rest end well. -/
@[simp] theorem wp_bind (c : Call α) (f : α → Call β) {Q : β → Exchange → Prop} :
    WP (c >>= f) Q E ex ↔ WP c (fun a => WP (f a) Q E) E ex := by
  unfold WP
  rw [ExceptT.run_bind, StateT.run_bind]
  rcases c.run.run ex with ⟨_ | _, ex'⟩ <;> rfl

/-- **Sequencing** through the first call's specification. -/
theorem WP.bind {R : α → Exchange → Prop} {E' : Error → Exchange → Prop} {c : Call α}
    {f : α → Call β} {Q : β → Exchange → Prop} (hc : WP c R E' ex)
    (hf : ∀ a ex', R a ex' → WP (f a) Q E ex') (he : ∀ e ex', E' e ex' → E e ex') :
    WP (c >>= f) Q E ex :=
  (wp_bind c f).2 (hc.mono hf he)

@[simp] theorem wp_map (f : α → β) (c : Call α) {Q : β → Exchange → Prop} :
    WP (f <$> c) Q E ex ↔ WP c (fun a => Q (f a)) E ex := by
  rw [← bind_pure_comp, wp_bind]
  rfl

@[simp] theorem wp_state {Q : Client → Exchange → Prop} : WP state Q E ex ↔ Q ex.client ex := Iff.rfl

@[simp] theorem wp_update (f : Client → Client) {Q : Unit → Exchange → Prop} :
    WP (update f) Q E ex ↔ Q () { ex with client := f ex.client } := Iff.rfl

@[simp] theorem wp_updateSession (f : Session → Session) {Q : Unit → Exchange → Prop} :
    WP (updateSession f) Q E ex ↔
      Q () { ex with client := { ex.client with session := f ex.client.session } } := Iff.rfl

@[simp] theorem wp_clock {Q : Nat → Exchange → Prop} : WP clock Q E ex ↔ Q ex.link.clock ex := Iff.rfl

@[simp] theorem wp_pause (ms : Nat) {Q : Unit → Exchange → Prop} :
    WP (pause ms) Q E ex ↔ Q () { ex with link := ex.link.wait ms } := Iff.rfl

/-- **Sending** takes the link's next reply and records the departure. -/
@[simp] theorem wp_transmit (r : Request) {Q : Reply → Exchange → Prop} :
    WP (transmit r) Q E ex ↔ Q ex.link.next.1 (ex.depart r) := Iff.rfl

@[simp] theorem wp_exchange (r : Request) {Q : Response → Exchange → Prop} :
    WP (exchange r) Q E ex ↔
      match ex.link.next.1 with
      | .ok resp => Q resp (ex.depart r)
      | .error e => E (.transport e) (ex.depart r) := by
  unfold exchange
  rw [wp_bind, wp_transmit]
  cases ex.link.next.1 <;> rfl

/-- **Trying** a call turns both of its ends into values. -/
@[simp] theorem wp_attempt (c : Call α) {Q : Except Error α → Exchange → Prop} :
    WP (attempt c) Q E ex ↔ WP c (fun a => Q (.ok a)) (fun e => Q (.error e)) ex := by
  unfold WP attempt
  rw [ExceptT.run_tryCatch, StateT.run_bind, ExceptT.run_map, StateT.run_map]
  rcases c.run.run ex with ⟨_ | _, ex'⟩ <;> rfl

@[simp] theorem wp_ofRead (x : Except ReadFailure α) :
    WP (ofRead x) Q E ex ↔ match x with | .ok a => Q a ex | .error e => E (.read e) ex := by
  unfold ofRead
  split <;> rfl

@[simp] theorem wp_checkAvailable {Q : Unit → Exchange → Prop} :
    WP checkAvailable Q E ex ↔
      match ex.client.session.retryIn ex.link.clock with
      | some ms => E (.transportDisabled ms) ex
      | none => Q () ex := by
  unfold checkAvailable Session.checkAvailable
  simp only [wp_bind, wp_state, wp_clock]
  cases ex.client.session.retryIn ex.link.clock <;> rfl

@[simp] theorem wp_backOff (retryAfter : Option String) {Q : Error → Exchange → Prop} :
    WP (backOff retryAfter) Q E ex ↔
      Q (ex.client.session.rateLimited ex.link.clock retryAfter).2
        { ex with client := { ex.client with
            session := (ex.client.session.rateLimited ex.link.clock retryAfter).1 } } := Iff.rfl

end Call

end ReefLink
