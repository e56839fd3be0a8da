import ReefLink.Control.Invalid
/-!
# Trident controls

The Trident analyser has three reagent slots, A to C, a waste container of a set size and four
channels that can be primed. A control addresses a slot or a channel by a list of flags with one
set.
-/

namespace ReefLink

/-- One of the three reagent slots. -/
inductive ReagentSlot where
  | a
  | b
  | c
  deriving DecidableEq, Repr

namespace ReagentSlot

/-- The slot's place, 0 to 2. -/
def index : ReagentSlot → Nat
  | .a => 0
  | .b => 1
  | .c => 2

/-- Flags with only this slot's set, as the reset control takes them. -/
def flags (s : ReagentSlot) : List Bool := (List.range 3).map (· = s.index)

/-- The slot's name, `Reagent A` to `Reagent C`. -/
def name : ReagentSlot → String
  | .a => "Reagent A"
  | .b => "Reagent B"
  | .c => "Reagent C"

end ReagentSlot

/-- A waste container size in millilitres: finite and positive. -/
structure WasteSize where
  ml : Float

/-- **Checks a waste container size.** -/
def WasteSize.ofMl (ml : Float) : Except InvalidValue WasteSize :=
  if !ml.isNaN && !ml.isInf && ml > 0.0 then .ok ⟨ml⟩ else .error (.wasteSize ml)

/-- A prime channel, 0 to 3. -/
structure PrimeChannel where
  value : Nat
  lt_four : value < 4

namespace PrimeChannel

/-- **Checks a prime channel number.** -/
def ofNat (n : Nat) : Except InvalidValue PrimeChannel :=
  if h : n < 4 then .ok ⟨n, h⟩ else .error (.primeChannel n)

/-- Flags with only this channel's set, as the prime control takes them. -/
def flags (p : PrimeChannel) : List Bool := (List.range 4).map (· = p.value)

end PrimeChannel

end ReefLink
