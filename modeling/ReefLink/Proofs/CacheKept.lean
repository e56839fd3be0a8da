import ReefLink.Proofs.Renewal
/-!
# Calls that leave the configuration cache alone

Only two calls store a configuration: a refresh during a poll and a refresh asked for. Every other
call a poll makes, REST calls and their sign-ins included, leaves the cache as it found it, and so
every request it sends leaves from a client holding that cache. `CacheKept ex ex'` says so of a
stretch of running from `ex` to `ex'`, together with the clock never going back, so that each
request leaves no earlier than the stretch began; `KeepsCache` names a call that keeps it from any
exchange, whatever it ends in.

Sequencing, trying and branching keep `KeepsCache`, so each call is one lemma built from those of
the calls it makes, the two loops of a sign-in by induction over their tries and their user
names. A poll needs two of them: `keepsCache_restCall`, for the status and for the configuration
call before its snapshot is stored, and `keepsCache_fetchLegacyStatus`, for the status pages.
-/

namespace ReefLink

/-- **A stretch of running that keeps the cache**, from `ex` to `ex'`: the cache is as it was,
the clock has not gone back, and every request sent left from a client with that cache, no
earlier than `ex`. -/
structure CacheKept (ex ex' : Exchange) : Prop where
  cache : ex'.client.cache = ex.client.cache
  clock : ex.link.clock ≤ ex'.link.clock
  sent : ∃ ds, ex'.sent = ex.sent ++ ds ∧
    ∀ x ∈ ds, x.client.cache = ex.client.cache ∧ ex.link.clock ≤ x.clock

namespace CacheKept

theorem refl (ex : Exchange) : CacheKept ex ex := ⟨rfl, Nat.le_refl _, [], by simp, by simp⟩

/-- One stretch after another. -/
theorem trans {ex ex₁ ex₂ : Exchange} (h₁ : CacheKept ex ex₁) (h₂ : CacheKept ex₁ ex₂) :
    CacheKept ex ex₂ := by
  obtain ⟨ds₁, hs₁, hx₁⟩ := h₁.sent
  obtain ⟨ds₂, hs₂, hx₂⟩ := h₂.sent
  refine ⟨h₂.cache.trans h₁.cache, Nat.le_trans h₁.clock h₂.clock, ds₁ ++ ds₂,
    by rw [hs₂, hs₁, List.append_assoc], fun x hx => ?_⟩
  rcases List.mem_append.1 hx with hx | hx
  · exact hx₁ x hx
  · obtain ⟨hc, hclk⟩ := hx₂ x hx
    exact ⟨hc.trans h₁.cache, Nat.le_trans h₁.clock hclk⟩

/-- What a stretch that keeps the cache sent left from a client with that cache, no earlier than
the stretch began. -/
theorem departures {ex ex' : Exchange} {ds : List Departure} (h : CacheKept ex ex')
    (hs : ex'.sent = ex.sent ++ ds) : ∀ x ∈ ds, x.client.cache = ex.client.cache ∧ ex.link.clock ≤ x.clock := by
  obtain ⟨ds', hs', hx⟩ := h.sent
  rw [hs, List.append_cancel_left_eq] at hs'
  rw [hs']
  exact hx

/-- A change of the client alone that keeps its cache. -/
theorem of_client {ex : Exchange} {c : Client} (h : c.cache = ex.client.cache) :
    CacheKept ex { ex with client := c } :=
  ⟨h, Nat.le_refl _, [], by simp, by simp⟩

end CacheKept

namespace Call

variable {α β : Type}

/-- **A call that keeps the cache**, from any exchange, whatever it ends in. -/
def KeepsCache (c : Call α) : Prop :=
  ∀ ex, WP c (fun _ => CacheKept ex) (fun _ => CacheKept ex) ex

theorem keepsCache_pure (a : α) : KeepsCache (pure a : Call α) := CacheKept.refl

theorem keepsCache_throw (e : Error) : KeepsCache (throw e : Call α) := CacheKept.refl

theorem keepsCache_state : KeepsCache state := CacheKept.refl

theorem keepsCache_clock : KeepsCache clock := CacheKept.refl

/-- **Sequencing** keeps the cache when both calls do. -/
theorem keepsCache_bind {c : Call α} {f : α → Call β} (hc : KeepsCache c)
    (hf : ∀ a, KeepsCache (f a)) : KeepsCache (c >>= f) := by
  intro ex
  refine (wp_bind c f).2 ((hc ex).mono ?_ (fun _ _ h => h))
  intro a ex₁ h₁
  exact (hf a ex₁).mono (fun _ _ h₂ => h₁.trans h₂) (fun _ _ h₂ => h₁.trans h₂)

/-- What follows a failure never runs. -/
theorem keepsCache_throw_bind (e : Error) (f : α → Call β) : KeepsCache (throw e >>= f) :=
  fun ex => (wp_bind _ f).2 (CacheKept.refl ex)

theorem keepsCache_attempt {c : Call α} (hc : KeepsCache c) : KeepsCache (attempt c) :=
  fun ex => (wp_attempt c).2 (hc ex)

theorem keepsCache_ite {p : Prop} [Decidable p] {c₁ c₂ : Call α} (h₁ : KeepsCache c₁)
    (h₂ : KeepsCache c₂) : KeepsCache (if p then c₁ else c₂) := by
  split
  · exact h₁
  · exact h₂

theorem keepsCache_ofRead (x : Except ReadFailure α) : KeepsCache (ofRead x) := by
  intro ex
  rw [wp_ofRead]
  cases x <;> exact CacheKept.refl ex

/-- A change of the client that keeps its cache. -/
theorem keepsCache_update {f : Client → Client} (hf : ∀ c, (f c).cache = c.cache) :
    KeepsCache (update f) :=
  fun ex => (wp_update f).2 (CacheKept.of_client (hf ex.client))

theorem keepsCache_updateSession (f : Session → Session) : KeepsCache (updateSession f) :=
  keepsCache_update fun _ => rfl

/-- Waiting moves the clock on. -/
theorem keepsCache_pause (ms : Nat) : KeepsCache (pause ms) :=
  fun ex => (wp_pause ms).2 ⟨rfl, Nat.le_add_right _ _, [], by simp, by simp⟩

/-- **Sending** leaves from the client as it is, now. -/
theorem keepsCache_transmit (r : Request) : KeepsCache (transmit r) := by
  intro ex
  rw [wp_transmit]
  refine ⟨rfl, Nat.le_of_eq (Exchange.depart_clock ex r).symm, [ex.departure r], rfl, ?_⟩
  intro x hx
  rw [List.mem_singleton.1 hx]
  exact ⟨rfl, Nat.le_refl _⟩

theorem keepsCache_exchange (r : Request) : KeepsCache (exchange r) := by
  refine keepsCache_bind (keepsCache_transmit r) fun reply => ?_
  cases reply with
  | ok resp => exact keepsCache_pure resp
  | error e => exact keepsCache_throw _

theorem keepsCache_checkAvailable : KeepsCache checkAvailable := by
  refine keepsCache_bind keepsCache_state fun c => keepsCache_bind keepsCache_clock fun now => ?_
  split
  · exact keepsCache_pure ()
  · exact keepsCache_throw _

/-- Backing off changes only the session. -/
theorem keepsCache_backOff (retryAfter : Option String) : KeepsCache (backOff retryAfter) :=
  keepsCache_bind keepsCache_clock fun _ => keepsCache_bind keepsCache_state fun _ =>
    keepsCache_bind (keepsCache_update fun _ => rfl) fun _ => keepsCache_pure _

/-! ### Signing in -/

theorem keepsCache_loginTry (r : Request) : KeepsCache (loginTry r) := by
  refine keepsCache_bind (keepsCache_transmit r) fun reply => ?_
  cases reply with
  | ok resp => exact keepsCache_ite (keepsCache_pure _) (keepsCache_pure _)
  | error e => exact keepsCache_pure _

/-- The tries of one sign-in request, by induction over the tries left. -/
theorem keepsCache_loginSend (r : Request) (attempt left : Nat) :
    KeepsCache (loginSend r attempt left) := by
  induction left generalizing attempt with
  | zero => exact keepsCache_loginTry r
  | succ left ih =>
    refine keepsCache_bind (keepsCache_loginTry r) fun reply => ?_
    cases reply with
    | ok resp => exact keepsCache_pure _
    | error e =>
      exact keepsCache_ite (keepsCache_bind (keepsCache_pause _) fun _ => ih (attempt + 1))
        (keepsCache_pure _)

theorem keepsCache_readLoginAnswer (resp : Response) : KeepsCache (readLoginAnswer resp) := by
  unfold readLoginAnswer
  refine keepsCache_ite ?_ (keepsCache_ite (keepsCache_pure _) (keepsCache_ite (keepsCache_pure _)
    (keepsCache_ite (keepsCache_bind (keepsCache_backOff _) fun _ => keepsCache_pure _)
      (keepsCache_pure _))))
  split
  · exact keepsCache_pure _
  · exact keepsCache_pure _

/-- The user names in turn, by induction over those left. -/
theorem keepsCache_loginWith (password : String) (users : List String) (lastStatus : Option Nat)
    (lastError : Option TransportError) : KeepsCache (loginWith password users lastStatus lastError) := by
  induction users generalizing lastStatus lastError with
  | nil =>
    refine keepsCache_bind (keepsCache_updateSession _) fun _ => ?_
    split
    · exact keepsCache_throw _
    · exact keepsCache_throw _
  | cons user rest ih =>
    refine keepsCache_bind (keepsCache_loginSend _ _ _) fun reply => ?_
    dsimp only
    cases reply with
    | error e =>
      exact keepsCache_throw_bind _ _
    | ok resp =>
      -- the answer decides: a token ends the search, the others go on to the next name or stop
      refine keepsCache_bind (keepsCache_pure resp) fun resp => ?_
      refine keepsCache_bind (keepsCache_readLoginAnswer resp) fun answer => ?_
      cases answer with
      | token t => exact keepsCache_bind (keepsCache_updateSession _) fun _ => keepsCache_pure t
      | next => exact ih _ _
      | failed e => exact ih _ _
      | stop e => exact keepsCache_throw e

theorem keepsCache_login : KeepsCache login := by
  refine keepsCache_bind keepsCache_checkAvailable fun _ => keepsCache_bind keepsCache_state fun c => ?_
  split
  · exact keepsCache_throw _
  · exact keepsCache_loginWith _ _ _ _

/-! ### REST calls -/

theorem keepsCache_sendRest (r : Request) (token : Option String) : KeepsCache (sendRest r token) := by
  refine keepsCache_bind (keepsCache_exchange _) fun resp => ?_
  exact keepsCache_ite (keepsCache_pure _) (keepsCache_ite (keepsCache_throw _)
    (keepsCache_ite (keepsCache_throw _) (keepsCache_ite
      (keepsCache_bind (keepsCache_backOff _) fun _ => keepsCache_throw _) (keepsCache_throw _))))

theorem keepsCache_sendRenewing (r : Request) (token : Option String) (fresh : Bool) :
    KeepsCache (sendRenewing r token fresh) := by
  refine keepsCache_bind (keepsCache_attempt (keepsCache_sendRest r token)) fun o => ?_
  split
  · exact keepsCache_pure _
  · refine keepsCache_bind (keepsCache_updateSession _) fun _ => keepsCache_ite (keepsCache_throw _) ?_
    exact keepsCache_bind keepsCache_login fun t => keepsCache_sendRest r (some t)
  · exact keepsCache_throw _

/-- **A REST call keeps the cache**: it changes the session only. -/
theorem keepsCache_restCall (r : Request) (loginFirst : Bool) : KeepsCache (restCall r loginFirst) := by
  intro ex
  refine wp_restCall (fun _ _ => CacheKept.refl ex) (fun _ => CacheKept.refl ex)
    (fun _ _ => keepsCache_sendRenewing r _ false ex) (fun _ _ _ => ?_)
  refine (keepsCache_login ex).mono (fun t ex₁ h₁ => ?_) (fun _ _ h => h)
  exact (keepsCache_sendRenewing r (some t) true ex₁).mono (fun _ _ h₂ => h₁.trans h₂)
    (fun _ _ h₂ => h₁.trans h₂)

/-! ### Status pages -/

theorem keepsCache_fetchPageStatus (source : Source) (path : String) :
    KeepsCache (fetchPageStatus source path) := by
  unfold fetchPageStatus
  refine keepsCache_bind keepsCache_state fun c => keepsCache_bind (keepsCache_exchange _) fun resp => ?_
  dsimp only
  refine keepsCache_ite (keepsCache_throw_bind _ _) (keepsCache_ite (keepsCache_throw_bind _ _) ?_)
  exact keepsCache_bind (keepsCache_ofRead _) fun _ =>
    keepsCache_bind keepsCache_state fun _ => keepsCache_pure _

/-- Finishing a status changes only the Trident and the feed the client remembers. -/
theorem keepsCache_finish (s : Status) : KeepsCache (finish s) :=
  keepsCache_bind (keepsCache_update fun _ => rfl) fun _ => keepsCache_pure _

/-- **The status pages keep the cache**: they only read it. -/
theorem keepsCache_fetchLegacyStatus : KeepsCache fetchLegacyStatus := by
  refine keepsCache_bind (keepsCache_attempt (keepsCache_fetchPageStatus _ _)) fun o => ?_
  split
  · exact keepsCache_finish _
  · exact keepsCache_throw _
  · exact keepsCache_bind keepsCache_state fun _ =>
      keepsCache_bind (keepsCache_fetchPageStatus _ _) fun s => keepsCache_finish s

end Call

end ReefLink
