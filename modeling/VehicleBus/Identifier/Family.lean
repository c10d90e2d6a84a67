/-!
The message families that the primary field of an identifier names. A node
interprets system management alone; every other family passes through untouched.
-/
namespace VehicleBus

inductive Family where
  | systemManagement
  | physicallyAddressed
  | systemConfiguration
  | commandAndControl
  | motionControl
  | surveillance
  | fireControl
  | automotive
  | navigation
  | powerManagement
  | defensiveAids
  | communications
  | climate
  | visionSensors
  | operatorInterface
  | fireDetection
  | lighting
  | bodyElectronics
  | alive
  | diagnostics0
  | diagnostics1
  | diagnostics2
  | diagnostics3
  deriving DecidableEq, Repr

namespace Family

/-- The value of the primary field. -/
def code : Family → UInt8
  | systemManagement => 0x00
  | physicallyAddressed => 0x31
  | systemConfiguration => 0x32
  | commandAndControl => 0x3C
  | motionControl => 0x3E
  | surveillance => 0x40
  | fireControl => 0x42
  | automotive => 0x44
  | navigation => 0x46
  | powerManagement => 0x50
  | defensiveAids => 0x52
  | communications => 0x54
  | climate => 0x56
  | visionSensors => 0x58
  | operatorInterface => 0x5A
  | fireDetection => 0x5C
  | lighting => 0x5E
  | bodyElectronics => 0x60
  | alive => 0x62
  | diagnostics0 => 0x63
  | diagnostics1 => 0x64
  | diagnostics2 => 0x65
  | diagnostics3 => 0x66

/-- All families in the order of their codes. -/
def all : List Family :=
  [systemManagement, physicallyAddressed, systemConfiguration, commandAndControl, motionControl,
    surveillance, fireControl, automotive, navigation, powerManagement, defensiveAids,
    communications, climate, visionSensors, operatorInterface, fireDetection, lighting,
    bodyElectronics, alive, diagnostics0, diagnostics1, diagnostics2, diagnostics3]

theorem mem_all (family : Family) : family ∈ all := by
  cases family <;> decide

/-- The families are listed by ascending code, so no two share one. -/
theorem pairwise_code_all : all.Pairwise fun a b => a.code < b.code := by
  decide

end Family

end VehicleBus
