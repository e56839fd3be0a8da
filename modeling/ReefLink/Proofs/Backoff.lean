import ReefLink.Proofs.Outcome
/-!
# Back-offs past the end of the clock

An instant holds its seconds in a signed 64-bit word, while a `Retry-After` value is read as any
whole number of seconds that an unsigned 64-bit word holds. A `429` whose delay, added to the time
it came at, reaches 2^63 seconds asks for a deadline that no instant can hold, and computing that
deadline ends the client (`Session.pastClockEnd`).

`Session.rateLimited_pastClockEnd_iff` says exactly when a `429` does so: when its delay carries
the deadline to the clock's end. The reader accepts delays up to 2^64 - 1 seconds, and
`Session.rateLimited_max_ends_client` shows that the largest of them ends the client from every
session at every time.
-/

namespace ReefLink

/-- The largest `Retry-After` value the reader accepts: 2^64 - 1 seconds. -/
theorem retryAfterMs?_max : retryAfterMs? "18446744073709551615" = some ((Nat.pow 2 64 - 1) * 1000) := by
  decide

namespace Session

/-- A session is past the clock's end exactly when its deadline is. -/
theorem pastClockEnd_iff (s : Session) : s.pastClockEnd = true ↔ instantLimitMs ≤ s.deadline := by
  rcases s with ⟨token, _ | u, path⟩
  · simp [pastClockEnd, deadline, instantLimitMs]
  · simp [pastClockEnd, deadline]

/-- **A `429` ends the client** exactly when the deadline it asks for, its delay past now, is one
no instant can hold, or when the session was past the clock's end already. -/
theorem rateLimited_pastClockEnd_iff (s : Session) (now : Nat) (h : String) :
    (s.rateLimited now (some h)).1.pastClockEnd = true ↔
      s.pastClockEnd = true ∨ instantLimitMs ≤ now + (retryAfterMs? h).getD defaultBackoff := by
  rw [pastClockEnd_iff, pastClockEnd_iff, deadline_rateLimited]
  simp only [backoffOf, Option.bind_some]
  omega

/-- **The largest delay ends the client** from every session at every time: 2^64 - 1 seconds
reach past the clock's end whenever they start. -/
theorem rateLimited_max_ends_client (s : Session) (now : Nat) :
    (s.rateLimited now (some "18446744073709551615")).1.pastClockEnd = true := by
  rw [rateLimited_pastClockEnd_iff, retryAfterMs?_max]
  right
  have hlimit : instantLimitMs = 9223372036854775808 * 1000 := rfl
  have hmax : Nat.pow 2 64 - 1 = 18446744073709551615 := rfl
  rw [Option.getD_some, hlimit, hmax]
  omega

end Session

end ReefLink
