/-!
# Configuration entries

The controller's configuration lists its bus modules (`ModuleConfig`) and its network settings
(`NetworkConfig`). An MXM module also reports the devices on its wireless link, one line each,
read into `MxmDevice`.
-/

namespace ReefLink

/-- The Trident-specific settings of a module, and the status text of an MXM module. -/
structure ModuleExtra where
  wasteSize : Option Float := none
  status : Option String := none
  deriving BEq, Inhabited

/-- A module as configured. -/
structure ModuleConfig where
  hwtype : String
  abaddr : Option Int := none
  name : Option String := none
  update : Option Bool := none
  updateStat : Option Int := none
  extra : Option ModuleExtra := none
  deriving BEq, Inhabited

/-- The network settings that matter here: the latest firmware and whether an update is on. -/
structure NetworkConfig where
  latestFirmware : Option String := none
  updateFirmware : Option Bool := none
  deriving BEq, Inhabited

/-- A device on an MXM link: its revision, serial number and status. -/
structure MxmDevice where
  rev : String
  serial : String
  status : String
  deriving BEq, Inhabited

/-- Hardware types of the Trident analyser. -/
def tridentHwTypes : List String := ["TRI", "TNP"]

/-- Whether a configured module is a Trident. -/
def ModuleConfig.isTrident (m : ModuleConfig) : Bool := m.hwtype ∈ tridentHwTypes

/-- The waste size of a configured module, when it has one. -/
def ModuleConfig.wasteSize (m : ModuleConfig) : Option Float := m.extra.bind ModuleExtra.wasteSize

/-- The configured waste container size of the first Trident module that has one. -/
def tridentWasteSize (mconf : List ModuleConfig) : Option Float :=
  (mconf.filter ModuleConfig.isTrident).findSome? ModuleConfig.wasteSize

end ReefLink
