import ReefLink.Control.Invalid
import ReefLink.Text.Blank
import ReefLink.Text.Case
/-!
# Feed cycles

A controller has four feed cycles, A to D, numbered 1 to 4. The legacy control page selects a
cycle by its number less one, and cancels a running feed with selector 5.

A cycle is read from its letter or number, optionally after `Feed ` or `feed `, trimmed and in
any case. When the text names no cycle, the refusal carries the text as a number from 0 to 255
(an optional `+` allowed) or 0 when it is no such number.
-/

namespace ReefLink

/-- One of the four feed cycles. -/
inductive FeedCycle where
  | a
  | b
  | c
  | d
  deriving DecidableEq, Repr

namespace FeedCycle

/-- The selector the legacy control page uses to cancel a feed. -/
def cancelSelector : Nat := 5

/-- The cycle's number, 1 to 4. -/
def id : FeedCycle → Nat
  | .a => 1
  | .b => 2
  | .c => 3
  | .d => 4

/-- The legacy selector of a cycle: its number less one. -/
def selector (f : FeedCycle) : Nat := f.id - 1

/-- The cycle's letter. -/
def letter : FeedCycle → Char
  | .a => 'A'
  | .b => 'B'
  | .c => 'C'
  | .d => 'D'

/-- The cycle's name, `Feed A` to `Feed D`. -/
def name (f : FeedCycle) : String := "Feed " ++ f.letter.toString

/-- **The cycle of a number**, 1 to 4. -/
def ofId (n : Nat) : Except InvalidValue FeedCycle :=
  match n with
  | 1 => .ok .a
  | 2 => .ok .b
  | 3 => .ok .c
  | 4 => .ok .d
  | other => .error (.feedCycle other)

/-- The numbers 1 to 4 name the four cycles, and no other number names one. -/
theorem ofId_eq_ok_iff {n : Nat} {f : FeedCycle} : ofId n = .ok f ↔ n = f.id := by
  unfold ofId
  split <;> cases f <;> simp_all [id]

/-- A text as a byte-sized number: ASCII digits with an optional `+`, at most 255. -/
def byteOfText? (s : String) : Option Nat :=
  let digits := match s.toList with
    | '+' :: rest => rest
    | cs => cs
  if digits.isEmpty || !digits.all Char.isDigit then none
  else
    let n := digits.foldl (fun acc c => acc * 10 + (c.toNat - '0'.toNat)) 0
    if n ≤ 255 then some n else none

/-- **Reads a cycle** from its letter or number, with an optional `Feed ` in front. -/
def parse (s : String) : Except InvalidValue FeedCycle :=
  let t := Text.trim s
  let t := if t.startsWith "Feed " || t.startsWith "feed " then Text.trim (t.drop 5).toString else t
  match Text.toUpper t with
  | "A" | "1" => .ok .a
  | "B" | "2" => .ok .b
  | "C" | "3" => .ok .c
  | "D" | "4" => .ok .d
  | _ => .error (.feedCycle ((byteOfText? t).getD 0))

end FeedCycle

end ReefLink
