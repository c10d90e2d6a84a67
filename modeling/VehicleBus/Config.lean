import VehicleBus.Options
import VehicleBus.Timing

/-!
The configuration of a node. It is drafted setting by setting, the latest word on
a setting being the one that counts, and judged as a whole when it is built. A
`Config` is valid by construction.
-/
namespace VehicleBus

/-- The facts about a node that stay fixed while it runs. -/
structure Config where
  address : UInt8
  bitrate : Bitrate
  /-- The sync frequency in hertz. -/
  frequency : Nat
  options : Options
  address_ne_zero : address ≠ 0
  minFrequency_le : minFrequency ≤ frequency
  le_maxFrequency : frequency ≤ bitrate.maxFrequency
  deriving DecidableEq, Repr

namespace Config

/-- Why a draft is no configuration. -/
inductive Error where
  | reservedAddress
  | zeroFrequency
  | frequencyTooLow (hertz least : Nat)
  | frequencyTooHigh (hertz most : Nat)
  deriving DecidableEq, Repr

def Error.message : Error → String
  | .reservedAddress => "Source address 0 is reserved"
  | .zeroFrequency => "Invalid sync frequency: 0 Hz"
  | .frequencyTooLow hertz least =>
    "Sync frequency " ++ toString hertz ++ " Hz is below the " ++ toString least ++ " Hz minimum"
  | .frequencyTooHigh hertz most =>
    "Sync frequency " ++ toString hertz ++ " Hz exceeds the " ++ toString most ++
      " Hz the bus can carry"

/-- A configuration in the making. A missing frequency stands for the default of
whatever bit rate the draft ends with. -/
structure Draft where
  address : UInt8
  bitrate : Bitrate := .default
  frequency : Option Nat := none
  options : Options := .none
  deriving DecidableEq, Repr

/-- One word on one setting. -/
inductive Setting where
  | bitrate (rate : Bitrate)
  | frequency (hertz : Nat)
  /-- All flags at once. -/
  | options (options : Options)
  | flag (flag : Flag) (on : Bool)
  deriving DecidableEq, Repr

namespace Draft

def apply (draft : Draft) : Setting → Draft
  | .bitrate rate => { draft with bitrate := rate }
  | .frequency hertz => { draft with frequency := some hertz }
  | .options options => { draft with options }
  | .flag flag on => { draft with options := draft.options.set flag on }

/-- A draft for an address after a list of words, in order. -/
def ofSettings (address : UInt8) (settings : List Setting) : Draft :=
  settings.foldl apply { address }

/-- The frequency that the draft would run at. -/
def hertz (draft : Draft) : Nat := draft.frequency.getD draft.bitrate.defaultFrequency

/-- The configuration, or the first fault of the draft. -/
def build (draft : Draft) : Except Error Config :=
  if address : draft.address = 0 then .error .reservedAddress
  else if draft.hertz = 0 then .error .zeroFrequency
  else if low : draft.hertz < minFrequency then .error (.frequencyTooLow draft.hertz minFrequency)
  else if high : draft.bitrate.maxFrequency < draft.hertz then
    .error (.frequencyTooHigh draft.hertz draft.bitrate.maxFrequency)
  else
    .ok
      { address := draft.address
        bitrate := draft.bitrate
        frequency := draft.hertz
        options := draft.options
        address_ne_zero := address
        minFrequency_le := Nat.le_of_not_lt low
        le_maxFrequency := Nat.le_of_not_lt high }

end Draft

/-- The spans of time of the node. -/
def timing (config : Config) : Timing := .ofFrequency config.bitrate config.frequency

/-- A candidate for sync master that leaves everything else as it is. -/
def candidate (address : UInt8) (unreserved : address ≠ 0) : Config where
  address
  bitrate := .default
  frequency := Bitrate.default.defaultFrequency
  options := { syncMaster := true }
  address_ne_zero := unreserved
  minFrequency_le := by decide
  le_maxFrequency := by decide

/-- The frequency of a valid configuration keeps one PTU within the gap that a
handshake tolerates. -/
theorem ptu_le (config : Config) : config.timing.ptu ≤ 333334 := by
  have least := config.minFrequency_le
  unfold minFrequency at least
  have nanos : Clock.ceilDiv Clock.nanosPerSecond (max config.frequency 1) ≤ 333333334 := by
    unfold Clock.ceilDiv Clock.nanosPerSecond
    rw [Nat.max_eq_left (by omega)]
    apply Nat.div_le_of_le_mul
    omega
  show Clock.ofNanos _ ≤ _
  rw [Clock.ofNanos_le_iff]
  omega

/-- The longest frame fits between two syncs, so the silence that a node tolerates is at
most three PTUs. -/
theorem slaveTimeout_le (config : Config) :
    config.timing.slaveTimeout ≤ 3 * config.timing.ptu := by
  have least := config.minFrequency_le
  unfold minFrequency at least
  have most : config.frequency ≤ Clock.nanosPerSecond / config.bitrate.maxFrameNanos :=
    Nat.le_trans config.le_maxFrequency (Nat.min_le_right _ _)
  have fits : config.bitrate.maxFrameNanos * config.frequency ≤ Clock.nanosPerSecond :=
    Nat.le_trans (Nat.mul_le_mul_left _ most) (Nat.mul_div_le _ _)
  have frame : config.bitrate.maxFrameNanos ≤
      Clock.ceilDiv Clock.nanosPerSecond (max config.frequency 1) := by
    unfold Clock.ceilDiv
    rw [Nat.max_eq_left (by omega), Nat.le_div_iff_mul_le (by omega)]
    omega
  have period := (Clock.ofNanos_le_iff
    (Clock.ceilDiv Clock.nanosPerSecond (max config.frequency 1)) _).mp (Nat.le_refl _)
  show Clock.ofNanos _ ≤ 3 * Clock.ofNanos _
  rw [Clock.ofNanos_le_iff]
  omega

end Config

end VehicleBus
