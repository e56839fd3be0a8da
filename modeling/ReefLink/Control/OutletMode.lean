import ReefLink.Control.Invalid
import ReefLink.Text.Blank
import ReefLink.Text.Case
/-!
# Outlet modes

An outlet runs under its program (`auto`) or is forced `on` or `off`. A controller reports an
outlet's state as a token: `AON` and `AOF` (auto, on or off), `TBL` (auto, following a table),
`ON` and `OFF`. Tokens are read trimmed and in any case. The mode of a state is auto for the three
auto tokens, else on when the outlet is energized, else off; an outlet is energized in `AON`,
`ON` and `TBL`.
-/

namespace ReefLink

/-- How an outlet is driven. -/
inductive OutletMode where
  | auto
  | on
  | off
  deriving DecidableEq, Repr

namespace OutletMode

/-- The word of a mode, as controllers write it. -/
def word : OutletMode → String
  | .auto => "AUTO"
  | .on => "ON"
  | .off => "OFF"

/-- A state token, trimmed and upper-cased. -/
def stateToken (state : String) : String := Text.toUpper (Text.trim state)

/-- Whether a state token means the outlet runs under its program. -/
def isAutoState (state : String) : Bool :=
  stateToken state ∈ ["AON", "AOF", "TBL"]

/-- Whether a state token means the outlet is energized. -/
def isEnergizedState (state : String) : Bool :=
  stateToken state ∈ ["AON", "ON", "TBL"]

/-- **The mode of a state token.** -/
def ofState (state : String) : OutletMode :=
  if isAutoState state then .auto else if isEnergizedState state then .on else .off

/-- **Reads a mode** from one of the words `auto`, `on` and `off`, trimmed and in any case. -/
def parse (s : String) : Except InvalidValue OutletMode :=
  match stateToken s with
  | "AUTO" => .ok .auto
  | "ON" => .ok .on
  | "OFF" => .ok .off
  | _ => .error (.outletMode s)

end OutletMode

end ReefLink
