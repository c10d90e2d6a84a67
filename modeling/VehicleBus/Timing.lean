import VehicleBus.Clock

/-!
Bus speeds and the spans of time that follow from them. The sync period is the
primary time unit (PTU) of the network; the silence that a node tolerates from
its sync master is counted in it.
-/
namespace VehicleBus

/-- The bit rates of the network. -/
inductive Bitrate where
  | kbps250
  | kbps500
  | mbps1
  deriving DecidableEq, Repr

namespace Bitrate

/-- The rate of a node that asks for none. -/
def default : Bitrate := .kbps500

/-- The longest frame on the wire: 140 bits with stuffing, and three bits of
space before the next one. -/
def maxFrameBits : Nat := 143

/-- The time of one bit in nanoseconds. -/
def bitNanos : Bitrate → Nat
  | kbps250 => 4000
  | kbps500 => 2000
  | mbps1 => 1000

/-- The recommended sync frequency in hertz. -/
def defaultFrequency : Bitrate → Nat
  | kbps250 => 512
  | kbps500 => 128
  | mbps1 => 64

/-- The time of the longest frame in nanoseconds. -/
def maxFrameNanos (rate : Bitrate) : Nat := maxFrameBits * rate.bitNanos

/-- The highest sync frequency, in hertz and in sixteen bits, at which the longest
frame still fits between two syncs. -/
def maxFrequency (rate : Bitrate) : Nat := min 65535 (Clock.nanosPerSecond / rate.maxFrameNanos)

end Bitrate

/-- The lowest sync frequency. Below it one PTU is longer than the gap that a
handshake tolerates between two of its bytes. -/
def minFrequency : Nat := 3

/-- The spans of time, in microseconds, that a sync frequency fixes. -/
structure Timing where
  /-- The primary time unit: the time from one sync to the next. -/
  ptu : Nat
  /-- The silence after which a node that is not master gives its master up. -/
  slaveTimeout : Nat
  deriving DecidableEq, Repr

namespace Timing

/-- The number of PTUs without a sync that Operational survives. -/
def watchdogPtus : Nat := 8

/-- The timing at a frequency in hertz. Frequency zero, which no valid
configuration has, counts as one. -/
def ofFrequency (rate : Bitrate) (hertz : Nat) : Timing :=
  let nanos := Clock.ceilDiv Clock.nanosPerSecond (max hertz 1)
  { ptu := Clock.ofNanos nanos
    slaveTimeout := Clock.ofNanos (nanos + 2 * rate.maxFrameNanos) }

/-- The silence after which Operational is given up. -/
def watchdog (timing : Timing) : Nat := timing.ptu * watchdogPtus

/-- How much earlier than the next sync a stronger candidate speaks up: a fifth
of the PTU. -/
def preemptLead (timing : Timing) : Nat := timing.ptu / 5

theorem ptu_pos (rate : Bitrate) (hertz : Nat) : 0 < (ofFrequency rate hertz).ptu := by
  have most : max hertz 1 ≤ max hertz 1 + Clock.nanosPerSecond - 1 := by
    unfold Clock.nanosPerSecond
    omega
  have whole : 0 < Clock.ceilDiv Clock.nanosPerSecond (max hertz 1) :=
    Nat.div_pos (by unfold Clock.nanosPerSecond; omega) (by omega)
  have bound := (Clock.ofNanos_le_iff (Clock.ceilDiv Clock.nanosPerSecond (max hertz 1)) 0).mp
  show 0 < Clock.ofNanos (Clock.ceilDiv Clock.nanosPerSecond (max hertz 1))
  omega

/-- The lead is shorter than the PTU, so a claim is never due at once. -/
theorem preemptLead_lt_ptu (rate : Bitrate) (hertz : Nat) :
    (ofFrequency rate hertz).preemptLead < (ofFrequency rate hertz).ptu := by
  have positive := ptu_pos rate hertz
  unfold preemptLead
  omega

/-- A master that keeps its period is never given up by a node that hears it. -/
theorem ptu_le_slaveTimeout (rate : Bitrate) (hertz : Nat) :
    (ofFrequency rate hertz).ptu ≤ (ofFrequency rate hertz).slaveTimeout := by
  simp only [ofFrequency, Clock.ofNanos, Clock.ceilDiv]
  omega

end Timing

end VehicleBus
