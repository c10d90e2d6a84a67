import VehicleBus.Reaction
import VehicleBus.Timing

/-!
The time base that the nodes share: who is sync master, the ten-bit counter that
every sync advances, and when the next sync is due. The lowest address among the
candidates wins. A candidate takes over from a weaker master, or from none, by
sending its own sync a fifth of the period early, before the other would send.
-/
namespace VehicleBus

/-- The fixed facts about a node that the time base depends on. -/
structure Station where
  address : UInt8
  /-- Whether the node may be sync master. -/
  candidate : Bool
  timing : Timing
  deriving DecidableEq, Repr

/-- The time base as one node sees it. -/
structure TimeBase where
  counter : Nat
  /-- The sync master, if the election is decided. -/
  master : Option UInt8
  /-- When the period that runs now is over. -/
  due : Nat
  /-- When the latest sync was accepted or sent, or the election was opened. -/
  lastSync : Nat
  deriving DecidableEq, Repr

namespace TimeBase

/-- The time base of a node that starts now: the election is open. -/
def start (station : Station) (now : Nat) : Reaction TimeBase := do
  let due ← Reaction.after now station.timing.ptu
  return { counter := 0, master := none, due, lastSync := now }

/-- Replaces the master, with a notification if that is a change. -/
def setMaster (base : TimeBase) (master : Option UInt8) : Reaction TimeBase where
  value := { base with master }
  events := if base.master = master then [] else [.masterChanged master]

/-- Replaces the counter, with a notification if that is a change. -/
def setCounter (base : TimeBase) (counter : Nat) : Reaction TimeBase where
  value := { base with counter }
  events := if base.counter = counter then [] else [.syncUpdated counter]

/-- Begins a period now. -/
def beginPeriod (base : TimeBase) (station : Station) (now : Nat) : Reaction TimeBase := do
  let due ← Reaction.after now station.timing.ptu
  return { base with due, lastSync := now }

/-- Opens the election: no master, and a fresh period. The counter stays. -/
def reopen (base : TimeBase) (station : Station) (now : Nat) : Reaction TimeBase := do
  let base ← base.setMaster none
  base.beginPeriod station now

/-- Whether the node is sync master itself. -/
def isMaster (base : TimeBase) (station : Station) : Bool :=
  base.master == some station.address

/-- Whether a node has heard no sync for a whole slave timeout. A master hears
itself. -/
def lost (base : TimeBase) (station : Station) (now : Nat) : Reaction Bool :=
  if base.isMaster station then pure false
  else do
    let patience ← Reaction.after base.lastSync station.timing.slaveTimeout
    return decide (patience ≤ now)

/-- Whether a sync of the source counts: it does unless a lower address is master. -/
def accepts (base : TimeBase) (source : UInt8) : Bool :=
  base.master.all fun master => decide (source ≤ master)

/-- Follows the source of a sync as master and takes its counter over. -/
def follow (base : TimeBase) (station : Station) (now : Nat) (source : UInt8) (counter : Nat) :
    Reaction TimeBase := do
  let base ← base.setMaster (some source)
  let base ← base.setCounter (counter % syncCounterModulo)
  base.beginPeriod station now

/-- The time base after a sync of another node. A sync that does not count is
ignored. -/
def hear (base : TimeBase) (station : Station) (now : Nat) (source : UInt8) (counter : Nat) :
    Reaction TimeBase :=
  if base.accepts source then base.follow station now source counter else pure base

/-- Whether the node may take over: it is a candidate and no address as low as its
own is master. -/
def mayClaim (base : TimeBase) (station : Station) : Bool :=
  station.candidate && base.master.all fun master => decide (station.address < master)

/-- Whether the node sends a sync now: a master at the end of its period, a node
that may take over already a lead before it. -/
def isDue (base : TimeBase) (station : Station) (now : Nat) : Reaction Bool :=
  if base.isMaster station then pure (decide (base.due ≤ now))
  else if base.mayClaim station then do
    let ahead ← Reaction.after now station.timing.preemptLead
    return decide (base.due ≤ ahead)
  else pure false

/-- Sends a sync as master: the counter advances and a period begins. -/
def beat (base : TimeBase) (station : Station) (now : Nat) : Reaction TimeBase := do
  let base ← base.setMaster (some station.address)
  let base ← base.setCounter ((base.counter + 1) % syncCounterModulo)
  base.beginPeriod station now

/-- The time base after a beat if one is due, and the sync frame to transmit. -/
def beatIf (base : TimeBase) (station : Station) (now : Nat) (due : Bool) :
    Reaction (Option Frame × TimeBase) :=
  if due then do
    let base ← base.beat station now
    return (some (Frame.sync station.address base.counter), base)
  else pure (none, base)

/-- Sends a sync if one is due. The frame is returned, not transmitted. -/
def poll (base : TimeBase) (station : Station) (now : Nat) :
    Reaction (Option Frame × TimeBase) := do
  let due ← base.isDue station now
  base.beatIf station now due

section Effects

variable (base : TimeBase) (station : Station) (now : Nat)

@[simp] theorem value_setMaster (master : Option UInt8) :
    (base.setMaster master).value = { base with master } := rfl

@[simp] theorem transmit_setMaster (master : Option UInt8) :
    (base.setMaster master).transmit = [] := rfl

@[simp] theorem value_setCounter (counter : Nat) :
    (base.setCounter counter).value = { base with counter } := rfl

@[simp] theorem transmit_setCounter (counter : Nat) :
    (base.setCounter counter).transmit = [] := rfl

@[simp] theorem value_beginPeriod :
    (base.beginPeriod station now).value =
      { base with due := now + station.timing.ptu, lastSync := now } := rfl

@[simp] theorem transmit_beginPeriod : (base.beginPeriod station now).transmit = [] := rfl

@[simp] theorem events_beginPeriod : (base.beginPeriod station now).events = [] := rfl

@[simp] theorem value_reopen :
    (base.reopen station now).value =
      { base with master := none, due := now + station.timing.ptu, lastSync := now } := rfl

@[simp] theorem transmit_reopen : (base.reopen station now).transmit = [] := rfl

@[simp] theorem events_reopen :
    (base.reopen station now).events = (base.setMaster none).events := List.append_nil _

@[simp] theorem value_follow (source : UInt8) (counter : Nat) :
    (base.follow station now source counter).value =
      { counter := counter % syncCounterModulo
        master := some source
        due := now + station.timing.ptu
        lastSync := now } := rfl

@[simp] theorem transmit_follow (source : UInt8) (counter : Nat) :
    (base.follow station now source counter).transmit = [] := rfl

@[simp] theorem value_beat :
    (base.beat station now).value =
      { counter := (base.counter + 1) % syncCounterModulo
        master := some station.address
        due := now + station.timing.ptu
        lastSync := now } := rfl

@[simp] theorem transmit_beat : (base.beat station now).transmit = [] := rfl

end Effects

/-- No sync is due in the instant in which a period begins. -/
theorem not_isDue_of_fresh (base : TimeBase) (station : Station) (now : Nat)
    (lead : station.timing.preemptLead < station.timing.ptu)
    (fresh : base.due = now + station.timing.ptu) :
    (base.isDue station now).value = false := by
  unfold isDue
  split
  · refine decide_eq_false ?_
    omega
  · split
    · refine decide_eq_false ?_
      rw [Reaction.value_after]
      omega
    · rfl

end TimeBase

end VehicleBus
