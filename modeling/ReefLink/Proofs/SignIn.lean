import ReefLink.Proofs.Outcome
/-!
# Signing in

A sign-in tries each user name in turn, and each request up to three times while it fails in a
way worth retrying. This file gives what such a run sends and leaves.

`Spaced` is the back-off invariant of a stretch of sending: the back-off never moves back, and
every departure left after the back-offs asked for before it. `Leaves` adds what a REST call keeps
of the client (`Client.Keeps`): all but the session's token and back-off. Both compose
(`Spaced.trans`, `Leaves.trans`), and a call that backs off only at its end is built by
`Leaves.of_last`.

`loginSend_spec` follows the retries of one request by induction on the tries left, and
`loginWith_spec` the user names by induction on the list. `login_spec` ends in `SignedIn`, a token
granted by the last sign-in and kept, or `SignInFailed`, none granted; with REST closed nothing
leaves.
-/

namespace ReefLink

/-- **What a REST call keeps of the client**: everything but the session's token and back-off,
and a back-off no earlier than before. -/
structure Client.Keeps (c c' : Client) : Prop where
  conn : c'.conn = c.conn
  cache : c'.cache = c.cache
  tridentAbaddr : c'.tridentAbaddr = c.tridentAbaddr
  activeFeed : c'.activeFeed = c.activeFeed
  statusPath : c'.session.statusPath = c.session.statusPath
  later : c.session.deadline ≤ c'.session.deadline

theorem Client.Keeps.refl (c : Client) : c.Keeps c := ⟨rfl, rfl, rfl, rfl, rfl, Nat.le_refl _⟩

theorem Client.Keeps.trans {c₁ c₂ c₃ : Client} (h₁ : c₁.Keeps c₂) (h₂ : c₂.Keeps c₃) : c₁.Keeps c₃ :=
  ⟨h₂.conn.trans h₁.conn, h₂.cache.trans h₁.cache, h₂.tridentAbaddr.trans h₁.tridentAbaddr,
    h₂.activeFeed.trans h₁.activeFeed, h₂.statusPath.trans h₁.statusPath,
    Nat.le_trans h₁.later h₂.later⟩

/-- Backing off after a `429` keeps the client but for its back-off. -/
theorem Client.keeps_rateLimited (c : Client) (now : Nat) (retryAfter : Option String) :
    c.Keeps { c with session := (c.session.rateLimited now retryAfter).1 } := by
  refine ⟨rfl, rfl, rfl, rfl, ?_, ?_⟩
  · unfold Session.statusPath
    rw [Session.rateLimited_statusPath]
  rw [Session.deadline_rateLimited]
  exact Nat.le_max_left _ _

/-- **The back-offs of a stretch of sending**, from `ex` to `ex'` with the departures `ds` added
to the record: the back-off never moved back; every departure left from a client whose back-off
lay between the first and the last, and covered every `429` before it; and the last back-off
covers every `429` of `ds`. -/
structure Spaced (ex : Exchange) (ds : List Departure) (ex' : Exchange) : Prop where
  sent : ex'.sent = ex.sent ++ ds
  later : ex.client.session.deadline ≤ ex'.client.session.deadline
  backoff : ∀ x ∈ ds, x.backoffUntil ≤ ex'.client.session.deadline
  between : ∀ x ∈ ds, ex.client.session.deadline ≤ x.client.session.deadline ∧
    x.client.session.deadline ≤ ex'.client.session.deadline
  spaced : ds.Pairwise fun y x => y.backoffUntil ≤ x.client.session.deadline

/-- Departures that ask for no back-off but the last are spaced by any back-off. -/
theorem Departure.spaced_of_dropLast {ds : List Departure}
    (hz : ∀ y ∈ ds.dropLast, y.backoffUntil = 0) :
    ds.Pairwise fun y x => y.backoffUntil ≤ x.client.session.deadline := by
  induction ds with
  | nil => exact List.Pairwise.nil
  | cons a rest ih =>
    cases rest with
    | nil => exact List.pairwise_singleton _ a
    | cons b rest =>
      -- `a` is not the last, so it asks for nothing
      have ha : a.backoffUntil = 0 := hz a (by simp)
      refine List.pairwise_cons.2 ⟨fun x _ => by rw [ha]; exact Nat.zero_le _, ih fun y hy => hz y ?_⟩
      rw [List.dropLast_cons_cons]
      exact List.mem_cons_of_mem a hy

namespace Spaced

variable {ex ex₁ ex₂ : Exchange} {ds ds₁ ds₂ : List Departure}

/-- **Sending that backs off only at its end**: every departure leaves with the back-off there
was at the start, and only the last may ask for more. -/
theorem of_last (hs : ex₁.sent = ex.sent ++ ds)
    (hl : ex.client.session.deadline ≤ ex₁.client.session.deadline)
    (hc : ∀ x ∈ ds, x.client.session.deadline = ex.client.session.deadline)
    (hz : ∀ y ∈ ds.dropLast, y.backoffUntil = 0)
    (hb : ∀ x ∈ ds.getLast?, x.backoffUntil ≤ ex₁.client.session.deadline) : Spaced ex ds ex₁ where
  sent := hs
  later := hl
  backoff x hx := by
    obtain ⟨ys, y, rfl⟩ := (List.eq_nil_or_concat ds).resolve_left (List.ne_nil_of_mem hx)
    rw [List.concat_eq_append] at hx hz hb
    rcases List.mem_append.1 hx with hx | hx
    · rw [hz x (by rw [List.dropLast_concat]; exact hx)]
      exact Nat.zero_le _
    · rw [List.mem_singleton.1 hx]
      exact hb y (by simp)
  between x hx := by
    rw [hc x hx]
    exact ⟨Nat.le_refl _, hl⟩
  spaced := Departure.spaced_of_dropLast hz

/-- **One stretch after another**: a back-off never moves back, so what the first covered stays
covered while the second sends. -/
theorem trans (h₁ : Spaced ex ds₁ ex₁) (h₂ : Spaced ex₁ ds₂ ex₂) : Spaced ex (ds₁ ++ ds₂) ex₂ where
  sent := by rw [h₂.sent, h₁.sent, List.append_assoc]
  later := Nat.le_trans h₁.later h₂.later
  backoff x hx := by
    rcases List.mem_append.1 hx with hx | hx
    · exact Nat.le_trans (h₁.backoff x hx) h₂.later
    · exact h₂.backoff x hx
  between x hx := by
    rcases List.mem_append.1 hx with hx | hx
    · exact ⟨(h₁.between x hx).1, Nat.le_trans (h₁.between x hx).2 h₂.later⟩
    · exact ⟨Nat.le_trans h₁.later (h₂.between x hx).1, (h₂.between x hx).2⟩
  spaced := by
    refine List.pairwise_append.2 ⟨h₁.spaced, h₂.spaced, fun y hy x hx => ?_⟩
    -- the first stretch's back-offs are covered when it ends, and the second sends later
    exact Nat.le_trans (h₁.backoff y hy) (h₂.between x hx).1

end Spaced

/-- **What a call leaves behind**, from `ex` to `ex'`: its departures `ds`, spaced by the
back-off and sent over the client's connection, and a client kept but for its session. -/
structure Leaves (ex : Exchange) (ds : List Departure) (ex' : Exchange) : Prop
    extends Spaced ex ds ex' where
  keeps : ex.client.Keeps ex'.client
  conns : ∀ x ∈ ds, x.client.conn = ex.client.conn

namespace Leaves

variable {ex ex₁ ex₂ : Exchange} {ds ds₁ ds₂ : List Departure}

/-- **A call that backs off only at its end**: it sends from a client with the back-off it began
with, and only its last departure may ask for more. -/
theorem of_last (hs : ex₁.sent = ex.sent ++ ds) (hk : ex.client.Keeps ex₁.client)
    (hc : ∀ x ∈ ds, x.client.conn = ex.client.conn ∧
      x.client.session.deadline = ex.client.session.deadline)
    (hz : ∀ y ∈ ds.dropLast, y.backoffUntil = 0)
    (hb : ∀ x ∈ ds.getLast?, x.backoffUntil ≤ ex₁.client.session.deadline) : Leaves ex ds ex₁ :=
  ⟨.of_last hs hk.later (fun x hx => (hc x hx).2) hz hb, hk, fun x hx => (hc x hx).1⟩

/-- A call none of whose departures asks for a back-off. -/
theorem of_zero (hs : ex₁.sent = ex.sent ++ ds) (hk : ex.client.Keeps ex₁.client)
    (hc : ∀ x ∈ ds, x.client.conn = ex.client.conn ∧
      x.client.session.deadline = ex.client.session.deadline)
    (hz : ∀ x ∈ ds, x.backoffUntil = 0) : Leaves ex ds ex₁ :=
  of_last hs hk hc (fun y hy => hz y (List.dropLast_subset _ hy))
    (fun x hx => by rw [hz x (List.mem_of_getLast? hx)]; exact Nat.zero_le _)

/-- One call after another leaves what both leave. -/
theorem trans (h₁ : Leaves ex ds₁ ex₁) (h₂ : Leaves ex₁ ds₂ ex₂) : Leaves ex (ds₁ ++ ds₂) ex₂ where
  toSpaced := h₁.toSpaced.trans h₂.toSpaced
  keeps := h₁.keeps.trans h₂.keeps
  conns x hx := by
    rcases List.mem_append.1 hx with hx | hx
    · exact h₁.conns x hx
    · rw [h₂.conns x hx, h₁.keeps.conn]

end Leaves

namespace Call

variable {E : Error → Exchange → Prop} {ex : Exchange}

/-- What one sign-in try makes of its reply: a transient status counts as a failure. -/
def tryOutcome : Reply → Reply
  | .ok resp => if isTransientStatus resp.status then .error (.unexpectedStatus resp.status) else .ok resp
  | .error e => .error e

@[simp] theorem wp_loginTry (r : Request) {Q : Reply → Exchange → Prop} :
    WP (loginTry r) Q E ex ↔ Q (tryOutcome ex.link.next.1) (ex.depart r) := by
  unfold loginTry
  simp only [wp_bind, wp_transmit]
  cases ex.link.next.1 with
  | ok resp => by_cases h : isTransientStatus resp.status <;> simp [tryOutcome, h]
  | error e => rfl

/-- **The tries of one sign-in request.** `r` left one or more times from client `c`, at or after
`now`; every try but the last failed in a way worth retrying, and `ρ` is what the last one made
of its reply, at time `clk`. -/
def Tries (c : Client) (now : Nat) (r : Request) (ρ : Reply) (clk : Nat) (ds : List Departure) : Prop :=
  ∃ fails d, ds = fails ++ [d] ∧
    (∀ x ∈ ds, x.client = c ∧ x.request = r ∧ now ≤ x.clock) ∧
    (∀ x ∈ fails, ∃ e, tryOutcome x.reply = .error e ∧ e.isTransient = true) ∧
    ρ = tryOutcome d.reply ∧ d.clock = clk

/-- A single try. -/
theorem Tries.single {c : Client} {now : Nat} {r : Request} {d : Departure} (hc : d.client = c)
    (hr : d.request = r) (hn : now ≤ d.clock) : Tries c now r (tryOutcome d.reply) d.clock [d] :=
  ⟨[], d, rfl, by simp [hc, hr, hn], by simp, rfl, rfl⟩

/-- A try that failed in a way worth retrying, before the others. -/
theorem Tries.retry {c : Client} {now later : Nat} {r : Request} {ρ : Reply} {clk : Nat}
    {x : Departure} {ds : List Departure} (hx : x.client = c ∧ x.request = r ∧ now ≤ x.clock)
    (hfail : ∃ e, tryOutcome x.reply = .error e ∧ e.isTransient = true)
    (h : Tries c later r ρ clk ds) (hl : now ≤ later) : Tries c now r ρ clk (x :: ds) := by
  obtain ⟨fails, d, rfl, hall, hf, hρ, hclk⟩ := h
  refine ⟨x :: fails, d, rfl, ?_, ?_, hρ, hclk⟩
  · intro y hy
    rcases List.mem_cons.1 hy with rfl | hy
    · exact hx
    · obtain ⟨h1, h2, h3⟩ := hall y hy
      exact ⟨h1, h2, Nat.le_trans hl h3⟩
  · intro y hy
    rcases List.mem_cons.1 hy with rfl | hy
    · exact hfail
    · exact hf y hy

theorem loginSend_spec (r : Request) (attempt left : Nat) (ex : Exchange) :
    WP (loginSend r attempt left)
      (fun ρ ex' => ex'.client = ex.client ∧ ex.link.clock ≤ ex'.link.clock ∧
        ∃ ds, ex'.sent = ex.sent ++ ds ∧ Tries ex.client ex.link.clock r ρ ex'.link.clock ds)
      (fun _ _ => False) ex := by
  induction left generalizing attempt ex with
  | zero =>
    rw [loginSend, wp_loginTry]
    refine ⟨rfl, by simp, [ex.departure r], rfl, ?_⟩
    rw [Exchange.depart_clock]
    exact Tries.single rfl rfl (Nat.le_refl _)
  | succ left ih =>
    rw [loginSend, wp_bind, wp_loginTry]
    have hlast : Tries ex.client ex.link.clock r (tryOutcome ex.link.next.1)
        (ex.depart r).link.clock [ex.departure r] := by
      rw [Exchange.depart_clock]
      exact Tries.single rfl rfl (Nat.le_refl _)
    rcases hρ : tryOutcome ex.link.next.1 with e | resp
    · by_cases ht : e.isTransient = true
      · simp only [ht, if_true, wp_bind, wp_pause]
        refine (ih (attempt + 1) _).mono ?_ (fun _ _ h => h)
        rintro ρ ex' ⟨hc, hclk, ds, hs, htries⟩
        refine ⟨hc, by simp at hclk; omega, ex.departure r :: ds, by simp [hs], ?_⟩
        exact Tries.retry ⟨rfl, rfl, Nat.le_refl _⟩ ⟨e, hρ, ht⟩ htries (by simp)
      · simp only [ht]
        exact ⟨rfl, by simp, [ex.departure r], rfl, hρ ▸ hlast⟩
    · exact ⟨rfl, by simp, [ex.departure r], rfl, hρ ▸ hlast⟩

/-- **The departures of one sign-in**: sign-ins from client `c` at or after `now`, none of which
but the last was answered with a token or a `429`. -/
def SignInRun (c : Client) (now : Nat) (ds : List Departure) : Prop :=
  (∀ x ∈ ds, x.IsSignIn ∧ x.client = c ∧ now ≤ x.clock) ∧ ∀ x ∈ ds.dropLast, x.Quiet

/-- The request each sign-in try sends is a sign-in. -/
theorem loginRequest_isSignIn (user pw : String) (x : Departure)
    (hx : x.request = (Request.make .post Endpoint.restLogin).withJson (loginBody user pw)) :
    x.IsSignIn := by
  have hpath : normalizePath Endpoint.restLogin = Endpoint.restLogin := by decide +kernel
  simp [Departure.IsSignIn, hx, Request.withJson, Request.make, hpath]

/-- A try that failed was answered neither with a token nor with a `429`: a transient status is
neither a success nor `429`. -/
theorem quiet_of_tryOutcome_error {x : Departure} {e : TransportError}
    (h : tryOutcome x.reply = .error e) : x.Quiet := by
  constructor
  · rintro t ⟨resp, hr, hs, -⟩
    rw [hr] at h
    by_cases ht : isTransientStatus resp.status = true
    · simp [isTransientStatus] at ht
      simp only [Response.isSuccess, Bool.and_eq_true, decide_eq_true_eq] at hs
      omega
    · simp [tryOutcome, ht] at h
  · rintro ⟨resp, hr, hs⟩
    rw [hr] at h
    simp [tryOutcome, isTransientStatus, hs] at h

theorem tryOutcome_eq_ok {ρ : Reply} {resp : Response} (h : tryOutcome ρ = .ok resp) : ρ = .ok resp := by
  cases ρ with
  | ok r => by_cases ht : isTransientStatus r.status = true <;> simp_all [tryOutcome]
  | error e => simp [tryOutcome] at h

/-- The tries of a sign-in request are a run of sign-ins. -/
theorem Tries.signInRun {c : Client} {now : Nat} {r : Request} {ρ : Reply} {clk : Nat}
    {ds : List Departure} (h : Tries c now r ρ clk ds) (hr : ∀ x : Departure, x.request = r → x.IsSignIn) :
    SignInRun c now ds := by
  obtain ⟨fails, d, rfl, hall, hf, -, -⟩ := h
  refine ⟨fun x hx => ⟨hr x (hall x hx).2.1, (hall x hx).1, (hall x hx).2.2⟩, ?_⟩
  intro x hx
  rw [List.dropLast_concat] at hx
  obtain ⟨e, he, -⟩ := hf x hx
  exact quiet_of_tryOutcome_error he

/-- Two runs of sign-ins in a row, the first quiet to its end, are one. -/
theorem SignInRun.append {c : Client} {now later : Nat} {ds₁ ds₂ : List Departure}
    (h₁ : SignInRun c now ds₁) (hq : ∀ x ∈ ds₁, x.Quiet)
    (h₂ : SignInRun c later ds₂) (hl : now ≤ later) : SignInRun c now (ds₁ ++ ds₂) := by
  refine ⟨fun x hx => ?_, fun x hx => ?_⟩
  · rcases List.mem_append.1 hx with hx | hx
    · exact h₁.1 x hx
    · obtain ⟨h1, h2, h3⟩ := h₂.1 x hx
      exact ⟨h1, h2, Nat.le_trans hl h3⟩
  · rw [List.dropLast_append] at hx
    split at hx
    · exact h₁.2 x hx
    · rcases List.mem_append.1 hx with hx | hx
      · exact hq x hx
      · exact h₂.2 x hx

/-- **How one sign-in answer is read.** A token ends the search; a refusal, a success without a
token or an unexpected status go on to the next name and change nothing; `404` and `429` stop it,
and only `429` changes the client, by backing off. -/
theorem readLoginAnswer_spec (resp : Response) (ex : Exchange) :
    WP (readLoginAnswer resp)
      (fun a ex' => match a with
        | .token t => ex' = ex ∧ resp.isSuccess = true ∧ tokenOf resp = some t
        | .stop _ => (∀ t, ¬ (resp.isSuccess = true ∧ tokenOf resp = some t)) ∧
            (resp.status ≠ 429 ∧ ex' = ex ∨ resp.status = 429 ∧ ex' = { ex with client := { ex.client with
              session := (ex.client.session.rateLimited ex.link.clock resp.retryAfter).1 } })
        | _ => ex' = ex ∧ (∀ t, ¬ (resp.isSuccess = true ∧ tokenOf resp = some t)) ∧ resp.status ≠ 429)
      (fun _ _ => False) ex := by
  unfold readLoginAnswer
  by_cases hs : resp.isSuccess = true
  · cases ht : tokenOf resp with
    | some t => simp [hs]
    | none =>
      have h429 : resp.status ≠ 429 := by
        simp only [Response.isSuccess, Bool.and_eq_true, decide_eq_true_eq] at hs
        omega
      simp [hs, h429]
  · have hng : ∀ t, ¬ (resp.isSuccess = true ∧ tokenOf resp = some t) := fun t h => hs h.1
    by_cases h40x : (resp.status = 401 || resp.status = 403) = true
    · have h429 : resp.status ≠ 429 := by simp at h40x; omega
      simp [hs, h40x, h429]
    · by_cases h404 : resp.status = 404
      · simp [hs, h404]
      · by_cases h429 : resp.status = 429
        · simp [hs, h429]
        · simp [hs, h40x, h404, h429]

/-- A run of sign-ins that ended in a token asked for no back-off: all but the last were quiet. -/
theorem SignInRun.backoffUntil_eq_zero {c : Client} {now : Nat} {ds : List Departure} {t : String}
    (hrun : SignInRun c now ds) (hlast : ∃ d ∈ ds.getLast?, d.Grants t) :
    ∀ x ∈ ds, x.backoffUntil = 0 := by
  obtain ⟨d, hd, hg⟩ := hlast
  obtain ⟨ys, rfl⟩ := List.getLast?_eq_some_iff.1 hd
  intro x hx
  rcases List.mem_append.1 hx with hx | hx
  · have hq := hrun.2 x (by rw [List.dropLast_concat]; exact hx)
    exact Departure.backoffUntil_eq_zero fun h => hq.2 h.2
  · rw [List.mem_singleton.1 hx]
    exact hg.backoffUntil_eq_zero

/-- **A sign-in that succeeded**, from `ex` to `ex'`, with token `t`: it sent a run of sign-ins
from the client as it was, the last of which granted `t` and left just now, and the client holds
`t` and is otherwise unchanged. -/
def SignedIn (ex : Exchange) (t : String) (ex' : Exchange) : Prop :=
  ∃ ds, ex'.sent = ex.sent ++ ds ∧ SignInRun ex.client ex.link.clock ds ∧
    (∃ d ∈ ds.getLast?, d.Grants t ∧ d.clock = ex'.link.clock) ∧
    ex'.client = { ex.client with session := { ex.client.session with token := some t } }

/-- **A sign-in that failed**, from `ex` to `ex'`: it sent a run of sign-ins from the client as it
was, none granted a token, the client kept all but its sign-in state, and its back-off covers
every `429` of the run. -/
def SignInFailed (ex ex' : Exchange) : Prop :=
  ∃ ds, Leaves ex ds ex' ∧ SignInRun ex.client ex.link.clock ds ∧ ∀ x ∈ ds, ∀ t, ¬ x.Grants t

theorem loginWith_spec (pw : String) (users : List String) (lastStatus : Option Nat)
    (lastError : Option TransportError) (ex : Exchange) :
    WP (loginWith pw users lastStatus lastError) (SignedIn ex) (fun _ => SignInFailed ex) ex := by
  induction users generalizing lastStatus lastError ex with
  | nil =>
    simp only [loginWith, wp_bind, wp_updateSession]
    have hkeep : ex.client.Keeps { ex.client with session := { ex.client.session with token := none } } :=
      ⟨rfl, rfl, rfl, rfl, rfl, Nat.le_refl _⟩
    cases lastError <;> simp only [wp_throw] <;>
      exact ⟨[], .of_zero (by simp) hkeep (by simp) (by simp), ⟨by simp, by simp⟩, by simp⟩
  | cons user rest ih =>
    simp only [loginWith, wp_bind]
    refine (loginSend_spec _ 1 _ ex).mono ?_ (fun _ _ h => h.elim)
    rintro ρ ex₁ ⟨hc, hclk, ds₁, hs₁, htries⟩
    have hrun₁ := htries.signInRun (loginRequest_isSignIn user pw)
    obtain ⟨fails, d, rfl, hall, -, hρ, hdclk⟩ := htries
    have hd : d ∈ fails ++ [d] := by simp
    have hdl : ∀ x ∈ fails ++ [d], x.client.conn = ex.client.conn ∧
        x.client.session.deadline = ex.client.session.deadline :=
      fun x hx => by rw [(hall x hx).1]; exact ⟨rfl, rfl⟩
    have hfails : ∀ x ∈ fails, x.Quiet := fun x hx => hrun₁.2 x (by simpa using hx)
    -- all but the last try were quiet; the last one decides what follows
    have hquiet : d.Quiet → ∀ x ∈ fails ++ [d], x.Quiet := by
      intro hdq x hx
      rcases List.mem_append.1 hx with hx | hx
      · exact hfails x hx
      · rw [List.mem_singleton.1 hx]; exact hdq
    have hzero : d.Quiet → ∀ x ∈ fails ++ [d], x.backoffUntil = 0 :=
      fun hdq x hx => Departure.backoffUntil_eq_zero fun h => (hquiet hdq x hx).2 h.2
    cases ρ with
    | error e =>
      have hdq := quiet_of_tryOutcome_error hρ.symm
      simp only [wp_bind, wp_throw]
      exact ⟨fails ++ [d], .of_zero hs₁ (hc ▸ Client.Keeps.refl _) hdl (hzero hdq), hrun₁,
        fun x hx => (hquiet hdq x hx).1⟩
    | ok resp =>
      have hreply := tryOutcome_eq_ok hρ.symm
      simp only [wp_pure, wp_bind]
      refine (readLoginAnswer_spec resp ex₁).mono (fun a ex₂ ha => ?_) (fun _ _ h => h.elim)
      have hnext : (∀ t, ¬ (resp.isSuccess = true ∧ tokenOf resp = some t)) → resp.status ≠ 429 →
          ∀ le, WP (loginWith pw rest (some resp.status) le) (SignedIn ex) (fun _ => SignInFailed ex) ex₁ := by
        intro hng h429 le
        have hdq : d.Quiet :=
          ⟨fun t h => hng t ((Departure.grants_iff hreply t).1 h),
            fun h => h429 ((Departure.limited_iff hreply).1 h)⟩
        refine (ih _ le ex₁).mono ?_ ?_
        · rintro t ex' ⟨ds₂, hs₂, hrun₂, ⟨d₂, hd₂, hg, hclk₂⟩, hcl⟩
          refine ⟨fails ++ [d] ++ ds₂, by rw [hs₂, hs₁, List.append_assoc], ?_, ?_, ?_⟩
          · exact hrun₁.append (hquiet hdq) (hc ▸ hrun₂) hclk
          · exact ⟨d₂, by rw [List.getLast?_append, Option.mem_def.1 hd₂]; rfl, hg, hclk₂⟩
          · rw [hcl, hc]
        · rintro e ex' ⟨ds₂, hl₂, hrun₂, hng₂⟩
          refine ⟨fails ++ [d] ++ ds₂, ?_, ?_, ?_⟩
          · exact (Leaves.of_zero hs₁ (hc ▸ Client.Keeps.refl _) hdl (hzero hdq)).trans hl₂
          · exact hrun₁.append (hquiet hdq) (hc ▸ hrun₂) hclk
          · intro x hx
            rcases List.mem_append.1 hx with hx | hx
            · exact (hquiet hdq x hx).1
            · exact hng₂ x hx
      cases a with
      | token t =>
        obtain ⟨rfl, hs, ht⟩ := ha
        simp only [wp_bind, wp_updateSession, wp_pure]
        refine ⟨fails ++ [d], hs₁, hrun₁, ⟨d, by simp, ⟨resp, hreply, hs, ht⟩, hdclk⟩, ?_⟩
        rw [hc]
      | next =>
        obtain ⟨rfl, hng, h429⟩ := ha
        exact hnext hng h429 _
      | failed e =>
        obtain ⟨rfl, hng, h429⟩ := ha
        exact hnext hng h429 _
      | stop e =>
        obtain ⟨hng, hex⟩ := ha
        simp only [wp_throw]
        have hdg : ∀ t, ¬ d.Grants t := fun t h => hng t ((Departure.grants_iff hreply t).1 h)
        refine ⟨fails ++ [d], ?_, hrun₁, ?_⟩
        · rcases hex with ⟨h429, rfl⟩ | ⟨h429, rfl⟩
          · have hdq : d.Quiet := ⟨hdg, fun h => h429 ((Departure.limited_iff hreply).1 h)⟩
            exact .of_zero hs₁ (hc ▸ Client.Keeps.refl _) hdl (hzero hdq)
          · refine .of_last hs₁ (hc ▸ Client.keeps_rateLimited _ _ _) hdl ?_ ?_
            · rw [List.dropLast_concat]
              exact fun y hy => Departure.backoffUntil_eq_zero fun h => (hfails y hy).2 h.2
            · intro x hx
              rw [List.getLast?_concat, Option.mem_def, Option.some.injEq] at hx
              have hsi := loginRequest_isSignIn user pw d (hall d hd).2.1
              rw [← hx, Departure.backoffUntil_of_limited hsi.isRest hsi.not_statusPage hreply h429,
                Session.deadline_rateLimited, hdclk]
              exact Nat.le_max_right _ _
        · intro x hx
          rcases List.mem_append.1 hx with hx | hx
          · exact (hfails x hx).1
          · rw [List.mem_singleton.1 hx]; exact hdg

/-- **Signing in.** With REST open, a run of sign-ins from the client as it was either grants a
token, which the client keeps, or fails; with REST off or no password, nothing is sent. -/
theorem login_spec (ex : Exchange) :
    WP login (fun t ex' => ex.Open ∧ SignedIn ex t ex')
      (fun _ ex' => ¬ ex.Open ∧ ex' = ex ∨ ex.Open ∧ SignInFailed ex ex') ex := by
  unfold login
  simp only [wp_bind, wp_checkAvailable, wp_state]
  cases hr : ex.client.session.retryIn ex.link.clock with
  | some ms =>
    have hshut : ¬ ex.Open := fun h => by
      rw [(Session.retryIn_eq_none_iff _ _).2 h.2] at hr
      cases hr
    exact Or.inl ⟨hshut, trivial⟩
  | none =>
    have hdl := (Session.retryIn_eq_none_iff _ _).1 hr
    simp only
    cases hp : ex.client.conn.password with
    | none =>
      have hshut : ¬ ex.Open := fun h => by
        have := h.1
        simp [Connection.hasPassword, hp] at this
      exact Or.inl ⟨hshut, rfl⟩
    | some pw =>
      have hopen : ex.Open := ⟨by simp [Connection.hasPassword, hp], hdl⟩
      exact (loginWith_spec pw _ none none ex).mono (fun t ex' h => ⟨hopen, h⟩)
        (fun _ ex' h => Or.inr ⟨hopen, h⟩)

end Call

end ReefLink
