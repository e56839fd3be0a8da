import ReefLink.Status.Record
import ReefLink.Payload.Module
/-!
# Module candidates

Several places describe the module at a bus address: the status payload's `modules` list, the
cached module configuration, and the detected Trident. `bestCandidates` merges them into one
entry per address, sorted by address. Sources are visited in that order; the first entry of an
address stays unless it has no hardware type and a later one has. Modules marked absent, and
entries without an integer address, are left out.
-/

namespace ReefLink

/-- Where a candidate was found. -/
inductive CandidateSource where
  | status
  | config
  | trident
  deriving DecidableEq, Repr

/-- The name of a candidate source. -/
def CandidateSource.name : CandidateSource → String
  | .status => "status"
  | .config => "config"
  | .trident => "trident"

/-- The best-known description of the module at one bus address. -/
structure Candidate where
  abaddr : Int
  hwtype : Option String
  name : Option String
  source : CandidateSource

namespace Candidate

/-- Whether a new candidate takes the place of the one already known: only when that one has no
hardware type and the new one has. -/
def replaces (known new : Candidate) : Bool := known.hwtype.isNone && new.hwtype.isSome

/-- Adds a candidate to a list sorted by address. -/
def add (c : Candidate) : List Candidate → List Candidate
  | [] => [c]
  | k :: rest =>
    if c.abaddr < k.abaddr then c :: k :: rest
    else if c.abaddr = k.abaddr then (if replaces k c then c :: rest else k :: rest)
    else k :: add c rest

/-- The candidate of a module in the status payload. -/
def ofModule? (m : ModuleFields) : Option Candidate := do
  let abaddr ← (m.lookup "abaddr").bind Json.int64?
  some { abaddr, hwtype := moduleHwType m, name := (m.lookup "name").bind Json.text?
         source := .status }

/-- The candidate of a configured module. -/
def ofConfig? (m : ModuleConfig) : Option Candidate := do
  let abaddr ← m.abaddr
  some { abaddr, hwtype := if m.hwtype.isEmpty then none else some m.hwtype, name := m.name
         source := .config }

/-- The candidate of the detected Trident. -/
def ofTrident? (s : Status) : Option Candidate := do
  let abaddr ← s.tridentAbaddr
  some { abaddr, hwtype := some (s.trident.hwtype.getD "TRI"), name := some "Trident"
         source := .trident }

end Candidate

/-- **The best candidate of each bus address**, sorted by address. -/
def bestCandidates (s : Status) (includeTrident : Bool) : List Candidate :=
  let fromStatus := match s.raw with
    | some raw => (presentModules raw.modules).filterMap Candidate.ofModule?
    | none => []
  let fromConfig := (s.config.mconf.getD []).filterMap Candidate.ofConfig?
  let fromTrident := if includeTrident then (Candidate.ofTrident? s).toList else []
  (fromStatus ++ fromConfig ++ fromTrident).foldl (fun acc c => Candidate.add c acc) []

end ReefLink
