import ReefLink.Proofs.Run
/-!
# Failed operations change nothing the client remembers

Between two operations a client remembers three things: its configuration cache, the bus address
of the Trident it last saw and the feed cycle it last saw running (`Client.memory`). An operation
that fails leaves them as they were, because every step of it that can fail comes before every
step that changes them. `Untouched` names a call that never changes them and `Atomic` one that
changes them only when it succeeds; sequencing keeps both, so each operation is one lemma built
from those of the calls it makes (`perform_atomic`).

What a success remembers is read off the two calls that remember: a status fetch remembers the
Trident of the record it returns and the feed cycle that record shows running
(`fetchStatus_remembers`), and a feed control the cycle it started, or none once cancelled
(`feedControl_remembers`), whether REST or the status form carried it.
-/

namespace ReefLink

/-- **What a client remembers** between operations: its configuration cache, the bus address of
the Trident it last saw and the feed cycle it last saw running. -/
def Client.memory (c : Client) : ConfigCache × Option Int × Option FeedCycle :=
  (c.cache, c.tridentAbaddr, c.activeFeed)

/-- What a REST call keeps of a client includes what the client remembers. -/
theorem Client.Keeps.memory {c c' : Client} (h : c.Keeps c') : c'.memory = c.memory := by
  simp only [Client.memory, h.cache, h.tridentAbaddr, h.activeFeed]

/-- **The running cycle a status shows** is the cycle numbered by its feed id; there is none when
the id is absent or not 1 to 4. -/
theorem Call.runningFeed_eq_some_iff (s : Status) (f : FeedCycle) :
    Call.runningFeed s = some f ↔ s.feed.bind (·.id) = some (f.id : Int) := by
  unfold Call.runningFeed
  cases s.feed.bind (·.id) with
  | none => simp
  | some i =>
    simp only [Option.some.injEq]
    by_cases hi : 0 ≤ i ∧ i ≤ 255
    · rw [if_pos (by simpa using hi)]
      have hto : (FeedCycle.ofId i.toNat).toOption = some f ↔ FeedCycle.ofId i.toNat = .ok f := by
        cases FeedCycle.ofId i.toNat <;> simp [Except.toOption]
      rw [hto, FeedCycle.ofId_eq_ok_iff]
      omega
    · rw [if_neg (by simpa using hi)]
      have : 1 ≤ f.id ∧ f.id ≤ 4 := by cases f <;> simp [FeedCycle.id]
      simp only [reduceCtorEq, false_iff]
      omega

namespace Call

variable {α β : Type}

/-- **A call that changes nothing the client remembers**, from any exchange and whatever it ends
in. -/
structure Untouched (c : Call α) : Prop where
  wp : ∀ ex, WP c (fun _ ex' => ex'.client.memory = ex.client.memory)
    (fun _ ex' => ex'.client.memory = ex.client.memory) ex

/-- **A call without partial effects**: when it fails, the client remembers what it remembered
before. -/
structure Atomic (c : Call α) : Prop where
  wp : ∀ ex, WP c (fun _ _ => True) (fun _ ex' => ex'.client.memory = ex.client.memory) ex

theorem Untouched.atomic {c : Call α} (h : Untouched c) : Atomic c :=
  ⟨fun ex => (h.wp ex).mono (fun _ _ _ => trivial) (fun _ _ h => h)⟩

theorem untouched_pure (a : α) : Untouched (pure a : Call α) := ⟨fun _ => rfl⟩

theorem untouched_throw (e : Error) : Untouched (throw e : Call α) := ⟨fun _ => rfl⟩

theorem untouched_state : Untouched state := ⟨fun _ => rfl⟩

theorem untouched_ofRead (x : Except ReadFailure α) : Untouched (ofRead x) := by
  refine ⟨fun ex => ?_⟩
  rw [wp_ofRead]
  cases x <;> rfl

/-- Sending changes only the link and the record. -/
theorem untouched_exchange (r : Request) : Untouched (exchange r) := by
  refine ⟨fun ex => ?_⟩
  rw [wp_exchange]
  cases ex.link.next.1 <;> rfl

theorem untouched_ite {p : Prop} [Decidable p] {c₁ c₂ : Call α} (h₁ : Untouched c₁)
    (h₂ : Untouched c₂) : Untouched (if p then c₁ else c₂) := by
  split
  · exact h₁
  · exact h₂

/-- **Sequencing** two calls that change nothing changes nothing. -/
theorem Untouched.bind {c : Call α} {f : α → Call β} (hc : Untouched c)
    (hf : ∀ a, Untouched (f a)) : Untouched (c >>= f) := by
  refine ⟨fun ex => (wp_bind c f).2 ((hc.wp ex).mono ?_ (fun _ _ h => h))⟩
  intro a ex₁ h₁
  exact ((hf a).wp ex₁).mono (fun _ _ h₂ => h₂.trans h₁) (fun _ _ h₂ => h₂.trans h₁)

/-- **A call that changes nothing, then one without partial effects**, has none. -/
theorem Untouched.bind_atomic {c : Call α} {f : α → Call β} (hc : Untouched c)
    (hf : ∀ a, Atomic (f a)) : Atomic (c >>= f) := by
  refine ⟨fun ex => (wp_bind c f).2 ((hc.wp ex).mono ?_ (fun _ _ h => h))⟩
  intro a ex₁ h₁
  exact ((hf a).wp ex₁).mono (fun _ _ _ => trivial) (fun _ _ h₂ => h₂.trans h₁)

/-- A call without partial effects keeps none when its value is mapped. -/
theorem Atomic.bind_pure {c : Call α} (h : Atomic c) (g : α → β) :
    Atomic (c >>= fun a => pure (g a)) :=
  ⟨fun ex => (wp_bind c _).2 ((h.wp ex).mono (fun _ _ _ => trivial) (fun _ _ h => h))⟩

theorem Untouched.attempt {c : Call α} (h : Untouched c) : Untouched (attempt c) :=
  ⟨fun ex => (wp_attempt c).2 (h.wp ex)⟩

/-- **A REST call changes nothing the client remembers**: it keeps the client but for its session. -/
theorem untouched_restCall (r : Request) (loginFirst : Bool) : Untouched (restCall r loginFirst) := by
  refine ⟨fun ex => (restCall_spec r loginFirst ex).mono ?_ ?_⟩
  · rintro _ _ ⟨_, hl, -⟩
    exact hl.keeps.memory
  · rintro _ _ ⟨_, hl, -⟩
    exact hl.keeps.memory

theorem untouched_fetchConfig : Untouched fetchConfig :=
  (untouched_restCall _ true).bind fun _ => (untouched_ofRead _).bind fun _ => untouched_pure _

theorem untouched_authenticatedPut (path : String) (body : Json) :
    Untouched (authenticatedPut path body) :=
  (untouched_restCall _ true).bind fun _ => untouched_pure _

theorem untouched_formFeedControl (selector : Nat) : Untouched (formFeedControl selector) := by
  unfold formFeedControl
  refine untouched_state.bind fun c => (untouched_exchange _).bind fun resp => ?_
  have hsuccess := untouched_ite (p := (!resp.isSuccess) = true)
    (untouched_throw (α := Unit) (.transport (.unexpectedStatus resp.status))) (untouched_pure ())
  exact untouched_ite ((untouched_throw _).bind fun _ => hsuccess) hsuccess

theorem untouched_setOutletMode (deviceId : String) (mode : OutletMode) :
    Untouched (setOutletMode deviceId mode) := by
  unfold setOutletMode
  dsimp only
  split
  · exact (untouched_throw _).bind fun _ => untouched_authenticatedPut _ _
  · exact untouched_authenticatedPut _ _

theorem untouched_tridentPutExtra (extra : Json) : Untouched (tridentPutExtra extra) := by
  refine untouched_state.bind fun c => ?_
  split
  · refine (untouched_authenticatedPut _ _).attempt.bind fun r => ?_
    split
    · exact untouched_authenticatedPut _ _
    · exact untouched_throw _
    · exact untouched_pure _
  · exact untouched_throw _

/-- **Fetching the configuration now** stores it only once it has come and read. -/
theorem atomic_refreshConfigNow : Atomic refreshConfigNow :=
  untouched_fetchConfig.bind_atomic fun _ => ⟨fun _ => trivial⟩

/-- **A feed control remembers what it did**: the cycle it started, or none once it cancelled,
whether REST or the status form carried it; a failure of both remembers what was there. -/
theorem feedControl_remembers (cycle : FeedCycle) (active : Bool) (ex : Exchange) :
    WP (feedControl cycle active)
      (fun _ ex' => ex'.client.activeFeed = if active then some cycle else none)
      (fun _ ex' => ex'.client.memory = ex.client.memory) ex := by
  unfold feedControl
  simp only [wp_bind, wp_attempt]
  refine ((untouched_authenticatedPut _ _).wp ex).mono ?_ ?_
  · intro _ _ _
    rfl
  · intro _ ex₁ h₁
    rw [wp_bind]
    refine ((untouched_formFeedControl _).wp ex₁).mono ?_ ?_
    · intro _ _ _
      rfl
    · intro _ _ h₂
      exact h₂.trans h₁

/-- **The status pages remember only what they return**: a status returned is finished, with its
Trident and running cycle remembered; a failure leaves the client as it was. -/
theorem fetchLegacyStatus_remembers (ex : Exchange) :
    WP fetchLegacyStatus
      (fun r ex' => ex'.client.tridentAbaddr = r.tridentAbaddr ∧ ex'.client.activeFeed = runningFeed r)
      (fun _ ex' => ex'.client = ex.client) ex := by
  unfold fetchLegacyStatus
  rw [wp_bind, wp_attempt]
  refine (fetchPageStatus_spec .cgiJson _ ex).mono ?_ ?_
  · intro _ _ _
    exact ⟨rfl, rfl⟩
  · rintro e ex₁ ⟨rfl, -⟩
    split
    · rename_i heq
      cases heq
    · rfl
    · simp only [wp_bind, wp_state]
      refine (fetchPageStatus_spec .xml _ _).mono ?_ ?_
      · intro _ _ _
        exact ⟨rfl, rfl⟩
      · rintro _ _ ⟨rfl, -⟩
        rfl

/-- **A status fetch remembers what it returns**: a status returned is finished, with the address
of its Trident and its running cycle remembered; a failure keeps what the client remembered, a
REST attempt before it having kept all but the session. -/
theorem fetchStatus_remembers (ex : Exchange) :
    WP fetchStatus
      (fun r ex' => ex'.client.tridentAbaddr = r.tridentAbaddr ∧ ex'.client.activeFeed = runningFeed r)
      (fun _ ex' => ex'.client.memory = ex.client.memory) ex := by
  have pages : ∀ ex₁, ex₁.client.memory = ex.client.memory →
      WP fetchLegacyStatus
        (fun r ex' => ex'.client.tridentAbaddr = r.tridentAbaddr ∧ ex'.client.activeFeed = runningFeed r)
        (fun _ ex' => ex'.client.memory = ex.client.memory) ex₁ := by
    intro ex₁ h₁
    refine (fetchLegacyStatus_remembers ex₁).mono (fun _ _ h => h) ?_
    intro _ _ h
    rw [h, h₁]
  unfold fetchStatus
  simp only [wp_bind, wp_state]
  by_cases hp : ex.client.conn.hasPassword = true
  · rw [if_pos hp, wp_bind, wp_attempt]
    refine (fetchRestStatus_spec ex).mono ?_ ?_
    · intro _ _ _
      exact ⟨rfl, rfl⟩
    · rintro _ ex₁ ⟨_, hl, -⟩
      exact pages ex₁ hl.keeps.memory
  · rw [if_neg hp]
    exact pages ex rfl

end Call

namespace Operation

open Call

/-- **No operation has partial effects.** -/
theorem perform_atomic (op : Operation) : Atomic op.perform := by
  cases op with
  | fetchStatus =>
    refine Atomic.bind_pure ⟨fun ex => ?_⟩ _
    exact (fetchStatus_remembers ex).mono (fun _ _ _ => trivial) (fun _ _ h => h)
  | refreshConfigNow => exact atomic_refreshConfigNow.bind_pure _
  | authenticatedPut path body => exact (untouched_authenticatedPut path body).atomic
  | setOutletMode deviceId mode => exact (untouched_setOutletMode deviceId mode).atomic
  | setFeedCycle cycle =>
    exact ⟨fun ex => (feedControl_remembers cycle true ex).mono (fun _ _ _ => trivial) (fun _ _ h => h)⟩
  | cancelFeed =>
    refine untouched_state.bind_atomic fun c => ⟨fun ex => ?_⟩
    exact (feedControl_remembers _ false ex).mono (fun _ _ _ => trivial) (fun _ _ h => h)
  | tridentSetWasteSize size =>
    exact (untouched_tridentPutExtra _).bind_atomic fun _ => atomic_refreshConfigNow.bind_pure _
  | tridentResetWaste => exact (untouched_tridentPutExtra _).atomic
  | tridentResetReagent slot => exact (untouched_tridentPutExtra _).atomic
  | tridentPrimeChannel channel => exact (untouched_tridentPutExtra _).atomic
  | advance ms => exact ⟨fun _ => trivial⟩
  | supply replies => exact ⟨fun _ => trivial⟩

/-- **Operations have no partial effects on failure.** Every operation that fails leaves the
configuration cache, the Trident's address and the running feed cycle as they were. A status
fetch that succeeds remembers the address of the Trident of the record it returns and the cycle
that record shows running: the cycle numbered by the record's feed id, none when the id is absent
or not 1 to 4. A feed cycle started is remembered as running and a cancelled one as none, whether
REST or the status form carried the control. -/
theorem perform_fails_without_effect (op : Operation) (cycle : FeedCycle) (ex : Exchange) :
    WP op.perform (fun _ _ => True) (fun _ ex' => ex'.client.memory = ex.client.memory) ex ∧
    WP Call.fetchStatus
      (fun r ex' => ex'.client.tridentAbaddr = r.tridentAbaddr ∧
        ∀ f, ex'.client.activeFeed = some f ↔ r.feed.bind (·.id) = some (f.id : Int))
      (fun _ ex' => ex'.client.memory = ex.client.memory) ex ∧
    WP (Call.setFeedCycle cycle) (fun _ ex' => ex'.client.activeFeed = some cycle)
      (fun _ ex' => ex'.client.memory = ex.client.memory) ex ∧
    WP Call.cancelFeed (fun _ ex' => ex'.client.activeFeed = none)
      (fun _ ex' => ex'.client.memory = ex.client.memory) ex := by
  refine ⟨op.perform_atomic.wp ex, ?_, feedControl_remembers cycle true ex, ?_⟩
  · refine (fetchStatus_remembers ex).mono ?_ (fun _ _ h => h)
    rintro r ex' ⟨haddr, hfeed⟩
    exact ⟨haddr, fun f => by rw [hfeed, runningFeed_eq_some_iff]⟩
  · unfold Call.cancelFeed
    rw [wp_bind, wp_state]
    exact feedControl_remembers _ false ex

end Operation

end ReefLink
