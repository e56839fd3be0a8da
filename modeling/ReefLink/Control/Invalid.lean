import ReefLink.Decimal.Notation
/-!
# Refused control values

A control value is checked when it is made: an outlet mode must be one of three words, a feed
cycle one of four, a waste container size a positive finite volume, a prime channel one of four,
and a device id must not be empty. `InvalidValue` says which check failed, with the value that
failed it.
-/

namespace ReefLink

/-- A control value that failed its check. -/
inductive InvalidValue where
  /-- An outlet mode other than auto, on and off; the text as given. -/
  | outletMode (text : String)
  /-- A feed cycle number other than 1 to 4. -/
  | feedCycle (id : Nat)
  /-- A waste container size that is not a positive finite volume. -/
  | wasteSize (ml : Float)
  /-- An empty device id. -/
  | emptyDeviceId
  /-- A prime channel number other than 0 to 3. -/
  | primeChannel (channel : Nat)

namespace InvalidValue

/-- The message of a refused value. -/
def message : InvalidValue → String
  | .outletMode s => "invalid outlet mode: " ++ s
  | .feedCycle n => "invalid feed cycle id: " ++ toString n
  | .wasteSize ml =>
    "waste container size must be > 0 (got " ++ Decimal.Notation.plain.render ml ++ ")"
  | .emptyDeviceId => "device id must not be empty"
  | .primeChannel n => "invalid prime channel: " ++ toString n

/-- The name of the check that failed. -/
def kind : InvalidValue → String
  | .outletMode _ => "InvalidOutletMode"
  | .feedCycle _ => "InvalidFeedCycle"
  | .wasteSize _ => "InvalidWasteSize"
  | .emptyDeviceId => "EmptyDeviceId"
  | .primeChannel _ => "InvalidPrimeChannel"

end InvalidValue

end ReefLink
