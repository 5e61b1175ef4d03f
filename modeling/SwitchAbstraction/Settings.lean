import SwitchAbstraction.Configuration

/-!
# Settings of a virtual switch

The typed reading of a profile: which switch to emulate, how it boots, how its
ports are laid out, and whether host interfaces are backed by devices.
-/

namespace SwitchAbstraction

/-- The switch to emulate. -/
inductive SwitchModel
  | bcm56850
  | mlnx2700
  deriving DecidableEq

namespace SwitchModel

/-- The word for a model in a profile. -/
def name : SwitchModel → String
  | .bcm56850 => "SAI_VS_SWITCH_TYPE_BCM56850"
  | .mlnx2700 => "SAI_VS_SWITCH_TYPE_MLNX2700"

instance : Vocabulary SwitchModel where
  label := "switch type"
  words := [.bcm56850, .mlnx2700]
  name := name
  mem_words model := by cases model <;> decide
  nodup_names := by decide

/-- Reads a model. -/
def parse (text : String) : Except SettingsDefect SwitchModel :=
  match Vocabulary.ofName? SwitchModel text with
  | some model => .ok model
  | none => .error (.unknownSwitchType text)

/-- The speed of a port, in megabits a second. -/
def portSpeed : SwitchModel → UInt32
  | .bcm56850 => 40000
  | .mlnx2700 => 100000

/-- The lane that a uniform layout begins with. -/
def firstLane : SwitchModel → Nat
  | .bcm56850 => 1
  | .mlnx2700 => 0

/-- The layout of a switch without a lane map of its own. -/
def laneMap (model : SwitchModel) : LaneMap :=
  .uniform model.firstLane

end SwitchModel

/-- How the switch boots.  No behaviour hangs on it. -/
inductive BootType
  | cold
  | warm
  | fast
  deriving DecidableEq

/-- Reads a boot type, given by number or by word. -/
def BootType.parse (text : String) : Except SettingsDefect BootType :=
  if text = "0" ∨ text = "cold" then .ok .cold
  else if text = "1" ∨ text = "warm" then .ok .warm
  else if text = "2" ∨ text = "fast" then .ok .fast
  else .error (.invalidBootType text)

/-- What a virtual switch is started with. -/
structure Settings where
  model : SwitchModel
  bootType : BootType
  laneMap : LaneMap
  useTapDevice : Bool
  deriving DecidableEq

namespace Settings

/-- A cold boot with the layout of the model. -/
def ofModel (model : SwitchModel) : Settings :=
  ⟨model, .cold, model.laneMap, false⟩

/-- The profile key of the switch model, the only one that has to be there. -/
def modelKey : String :=
  "SAI_VS_SWITCH_TYPE"

/-- The profile key of the boot type. -/
def bootTypeKey : String :=
  "SAI_BOOT_TYPE"

/-- The profile key of the path of a lane map. -/
def laneMapKey : String :=
  "SAI_VS_INTERFACE_LANE_MAP_FILE"

/-- The profile key that backs host interfaces with devices. -/
def tapDeviceKey : String :=
  "SAI_VS_HOSTIF_USE_TAP_DEVICE"

/-- The lane map at a path, or the layout of the model if that gives no entry. -/
def laneMapAt (files : Files) (model : SwitchModel) : Option String → LaneMap
  | none => model.laneMap
  | some path =>
      match LaneMap.load files path with
      | .ok laneMap => if laneMap.entries.isEmpty then model.laneMap else laneMap
      | .error _ => model.laneMap

/-- Reads the settings through the accessors of a profile. -/
def ofServices (files : Files) (services : Services) : Except SettingsDefect Settings := do
  let model ←
    match services.value? modelKey with
    | some text => SwitchModel.parse text
    | none => .error (.missingKey modelKey)
  let bootType ←
    match services.value? bootTypeKey with
    | some text => BootType.parse text
    | none => .ok .cold
  return {
    model
    bootType
    laneMap := laneMapAt files model (services.value? laneMapKey)
    useTapDevice := services.value? tapDeviceKey = some "true" }

end Settings

end SwitchAbstraction
