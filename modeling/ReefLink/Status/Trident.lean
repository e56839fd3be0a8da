/-!
# The Trident analyser's readings

A Trident reports the millilitres in its containers as a list of levels. The first is the waste
volume used. With five levels the reagents A, B and C are the fifth, fourth and third; with four
levels they are the fourth, third and second; other lengths give no reagent volumes. A reagent
is empty at 20 ml or less. Given a waste container size, finite and positive, the remaining room
is the size less the used volume, held between 0 and the size; the container is full when 20 ml
or less remain. `Trident.finalize` derives all of these from the levels and the size, and
touches no reported field.
-/

namespace ReefLink

/-- What is known of the Trident: reported fields, then fields derived from the levels. -/
structure Trident where
  present : Bool := false
  abaddr : Option Int := none
  hwtype : Option String := none
  hwrev : Option String := none
  swrev : Option String := none
  serial : Option String := none
  status : Option String := none
  isTesting : Option Bool := none
  levelsMl : Option (List Float) := none
  reagentARemaining : Option Nat := none
  reagentBRemaining : Option Nat := none
  reagentCRemaining : Option Nat := none
  wasteContainerLevel : Option Nat := none
  wasteSizeMl : Option Float := none
  wasteUsedMl : Option Float := none
  wasteRemainingMl : Option Float := none
  wastePercent : Option Float := none
  wasteFull : Option Bool := none
  reagentARemainingMl : Option Float := none
  reagentBRemainingMl : Option Float := none
  reagentCRemainingMl : Option Float := none
  reagentAEmpty : Option Bool := none
  reagentBEmpty : Option Bool := none
  reagentCEmpty : Option Bool := none
  deriving BEq, Inhabited

namespace Trident

/-- Room in the waste container at or below which it counts as full, in ml. -/
def wasteFullMargin : Float := 20.0

/-- Reagent volume at or below which a reagent counts as empty, in ml. -/
def reagentEmptyThreshold : Float := 20.0

/-- Whether a double is neither infinite nor not-a-number. -/
def finite (f : Float) : Bool := !f.isNaN && !f.isInf

/-- The level at a place, when it is finite. -/
def levelAt (levels : List Float) (i : Nat) : Option Float :=
  match levels[i]? with
  | some v => if finite v then some v else none
  | none => none

/-- The places of reagents A, B and C in a list of levels of this length. -/
def reagentPlaces : Nat → Option (Nat × Nat × Nat)
  | 5 => some (4, 3, 2)
  | 4 => some (3, 2, 1)
  | _ => none

/-- A usable waste container size: finite and positive. -/
def usableSize (s : Option Float) : Option Float :=
  match s with
  | some v => if finite v && v > 0.0 then some v else none
  | none => none

/-- The room left in a container of `size` with `used` taken, held between 0 and the size. -/
def wasteRoom (size used : Float) : Float :=
  let r := size - used
  let r := if r < 0.0 then 0.0 else r
  if r > size then size else r

/-- **Derives the volumes** from the levels and the waste container size. -/
def finalize (t : Trident) : Trident :=
  let levels := t.levelsMl.getD []
  let used := levelAt levels 0
  let (a, b, c) := match reagentPlaces levels.length with
    | some (ia, ib, ic) => (levelAt levels ia, levelAt levels ib, levelAt levels ic)
    | none => (none, none, none)
  let empty (v : Option Float) : Option Bool := v.map fun x => decide (x ≤ reagentEmptyThreshold)
  let size := usableSize t.wasteSizeMl
  let (percent, room, full) := match used, size with
    | some u, some s =>
      let r := wasteRoom s u
      (some (u / s * 100.0), some r, some (decide (r ≤ wasteFullMargin)))
    | _, _ => (none, none, none)
  { t with
    wasteUsedMl := used
    reagentARemainingMl := a
    reagentBRemainingMl := b
    reagentCRemainingMl := c
    reagentAEmpty := empty a
    reagentBEmpty := empty b
    reagentCEmpty := empty c
    wasteSizeMl := size
    wastePercent := percent
    wasteRemainingMl := room
    wasteFull := full }

end Trident

end ReefLink
