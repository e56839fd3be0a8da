import ReefLink.Proofs.Outcome
/-!
# The back-off deadline over a run of session operations

A session is changed by five operations (`Session.Op`): a token is kept or dropped, a status path
is remembered, and REST is switched off, for a given time or as a `429` asks. Only the last two
ask for a deadline (`Op.until?`): their delay past their time.

The deadline a session holds after any run of operations is the latest any of them asked for,
and none before the first (`runOps_disabledUntil`): a shorter back-off never moves an earlier one
back, and the token and the status path never touch it. Whether REST is available at a time is
read off that latest deadline alone (`runOps_backoff`).
-/

namespace ReefLink

namespace Session

/-- **An operation on a session.** -/
inductive Op where
  | setToken (token : String)
  | clearToken
  | rememberStatusPath (path : String)
  /-- REST is switched off for `duration` from `now`. -/
  | disableFor (now duration : Nat)
  /-- The controller answered `429` at `now`, with this `Retry-After` value. -/
  | rateLimited (now : Nat) (retryAfter : Option String)

namespace Op

/-- **Applies an operation** to a session. -/
def apply (s : Session) : Op → Session
  | setToken t => { s with token := some t }
  | clearToken => { s with token := none }
  | rememberStatusPath p => { s with statusPath? := some p }
  | disableFor now duration => s.disableFor now duration
  | rateLimited now retryAfter => (s.rateLimited now retryAfter).1

/-- **The deadline an operation asks for**: a back-off asks for its delay past its time, where a
`429` takes the delay its `Retry-After` names, or five minutes; the others ask for none. -/
def until? : Op → Option Nat
  | disableFor now duration => some (now + duration)
  | rateLimited now retryAfter => some (now + backoffOf retryAfter)
  | _ => none

/-- **A back-off** moves the deadline to the later of the one held and its own. -/
theorem disableFor_disabledUntil (s : Session) (now duration : Nat) :
    (s.disableFor now duration).disabledUntil = max s.disabledUntil (some (now + duration)) := by
  rcases s with ⟨token, _ | u, path⟩
  · rfl
  · by_cases h : now + duration > u
    · simp [Session.disableFor, h, Nat.max_eq_right (Nat.le_of_lt h)]
    · simp [Session.disableFor, h, Nat.max_eq_left (Nat.le_of_not_lt h)]

/-- **One operation**: the session's deadline becomes the later of the one it had and the one the
operation asks for. -/
theorem apply_disabledUntil (s : Session) (op : Op) :
    (op.apply s).disabledUntil = max s.disabledUntil op.until? := by
  cases op with
  | disableFor now duration => exact disableFor_disabledUntil s now duration
  -- a `429` is a back-off for the delay it asks
  | rateLimited now retryAfter => exact disableFor_disabledUntil s now (backoffOf retryAfter)
  | setToken t => simp [apply, until?]
  | clearToken => simp [apply, until?]
  | rememberStatusPath p => simp [apply, until?]

end Op

/-- Applies operations in turn. -/
def runOps (s : Session) (ops : List Op) : Session := ops.foldl Op.apply s

/-- The latest of the deadlines and a back-off held before them. -/
theorem max?_max_toList (a b : Option Nat) (rest : List Nat) :
    ((max a b).toList ++ rest).max? = (a.toList ++ b.toList ++ rest).max? := by
  rcases a with _ | x <;> rcases b with _ | y
  · rfl
  · rfl
  · rfl
  · cases hr : rest.max? with
    | none => simp [hr]
    | some m => simp [hr, Nat.max_assoc]

/-- **The deadline after a run** is the latest of the one held at the start and all those the
operations asked for. -/
theorem runOps_disabledUntil_of (s : Session) (ops : List Op) :
    (s.runOps ops).disabledUntil = (s.disabledUntil.toList ++ ops.filterMap Op.until?).max? := by
  induction ops generalizing s with
  | nil => cases h : s.disabledUntil <;> simp [runOps, h]
  | cons op ops ih =>
    -- the first operation folds its deadline into the one held
    have hstep := ih (op.apply s)
    rw [Op.apply_disabledUntil, max?_max_toList] at hstep
    rw [runOps, List.foldl_cons, ← runOps, hstep, List.filterMap_cons]
    cases op.until? <;> simp

/-- **A new session's deadline after any run of operations** is the latest deadline they asked
for, and none when none did. -/
theorem runOps_disabledUntil (ops : List Op) :
    (({} : Session).runOps ops).disabledUntil = (ops.filterMap Op.until?).max? := by
  simpa using runOps_disabledUntil_of {} ops

/-- **REST after a run of session operations.** From a new session, the deadline is the latest
one any back-off of the run asked for, and none before the first; REST is then off exactly
before that deadline, for the time left to it, and on from it. -/
theorem runOps_backoff (ops : List Op) (now : Nat) :
    (({} : Session).runOps ops).disabledUntil = (ops.filterMap Op.until?).max? ∧
    (({} : Session).runOps ops).checkAvailable now =
      match (ops.filterMap Op.until?).max? with
      | some m => if now < m then .error (.transportDisabled (m - now)) else .ok ()
      | none => .ok () := by
  have hdl := runOps_disabledUntil ops
  refine ⟨hdl, ?_⟩
  unfold checkAvailable retryIn
  rw [hdl]
  cases (ops.filterMap Op.until?).max? with
  | none => rfl
  | some m => by_cases h : now < m <;> simp [h]

end Session

end ReefLink
