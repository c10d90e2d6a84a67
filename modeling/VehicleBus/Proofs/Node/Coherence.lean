import VehicleBus.Proofs.Node.Exits
import VehicleBus.Proofs.Node.Handshakes
import VehicleBus.Proofs.Node.Provenance

/-!
How the parts of a node fit together at every step of every run. The mode decides whether there
is a master and a deadline, the counter fits its ten bits, only a candidate is master, the exit
handshake is under way in System Configuration alone, and nobody looks beyond the bytes of a
sequence. Each part is kept by every step for itself.
-/
namespace VehicleBus

open Handshake

namespace Node

/-- The mode decides whether there is a master and whether it ends by itself: nothing is set in
PowerOff, in PreOperational the wait for promotion runs exactly while there is a master, and the
modes with traffic always end. -/
structure Timed (node : Node) : Prop where
  off : node.mode = .powerOff → node.timeBase.master = none ∧ node.deadline = none
  waiting : node.mode = .preOperational →
    (node.deadline.isSome = true ↔ node.timeBase.master.isSome = true)
  watching : node.mode = .operational →
    node.timeBase.master.isSome = true ∧ node.deadline.isSome = true
  configuring : node.mode = .systemConfiguration → node.deadline.isSome = true

namespace Timed

variable {node after : Node} {step : Step}

theorem congr (timed : node.Timed) (mode : after.mode = node.mode)
    (timeBase : after.timeBase = node.timeBase) (deadline : after.deadline = node.deadline) :
    after.Timed := by
  constructor
  all_goals
    rw [mode, deadline]
    try rw [timeBase]
  · exact timed.off
  · exact timed.waiting
  · exact timed.watching
  · exact timed.configuring

theorem of_fed {now : Nat} (fed : node.Fed now after) : after.Timed := by
  constructor
  · intro off
    exact absurd (fed.mode.symm.trans off) fed.synchronizes.on
  · intro waiting
    simp [fed.waiting (fed.mode.symm.trans waiting), fed.held]
  · intro watching
    simp [fed.watched (fed.mode.symm.trans watching), fed.held]
  · intro configuring
    exact absurd (fed.mode.symm.trans configuring) fed.synchronizes.not_configuring

theorem perform (timed : node.Timed) (fits : node.Fits step) :
    (node.perform step).value.Timed := by
  cases moves_perform node step fits with
  | rests _ _ mode timeBase deadline => exact timed.congr mode timeBase deadline
  | syncs _ _ fed => exact of_fed fed
  | opens _ _ _ mode vacant unset => constructor <;> simp [mode, vacant, unset]
  | promotes _ _ _ held mode timeBase deadline =>
    constructor <;> simp [mode, timeBase, held, deadline]
  | configures _ _ mode _ deadline => constructor <;> simp [mode, deadline]

end Timed

/-- Both handshakes are somewhere within their sequences, and none is under way for the exit
sequence outside System Configuration. -/
structure Poised (node : Node) : Prop where
  enterHeard : node.enterListener.position < Sequence.size
  exitHeard : node.exitListener.position < Sequence.size
  enterSent : node.enterRequest.position ≤ Sequence.size
  exitSent : node.exitRequest.position ≤ Sequence.size
  attentive : node.mode ≠ .systemConfiguration → node.exitListener.position = 0

namespace Poised

variable {node after : Node} {step : Step}

theorem of_upholds (poised : node.Poised) (upholds : node.Upholds after) : after.Poised where
  enterHeard := upholds.enterPlace poised.enterHeard
  exitHeard := upholds.exitPlace poised.exitHeard
  enterSent := upholds.entering.within poised.enterSent
  exitSent := upholds.leaving.within poised.exitSent
  attentive := upholds.attentive poised.attentive

theorem perform (poised : node.Poised) (fits : node.Fits step) :
    (node.perform step).value.Poised := by
  by_cases asked : step.duty = .requestEnter ∨ step.duty = .requestExit
  · obtain ⟨now, duty⟩ := step
    rcases asked with rfl | rfl
    · exact { poised with enterSent := Nat.zero_le _ }
    · unfold Node.perform requestExit
      dsimp only
      split
      · exact { poised with exitSent := Nat.zero_le _ }
      · exact poised
  · exact poised.of_upholds (upholds_perform node step fits (not_or.mp asked))

end Poised

/-- Every place that a node looks up in the bytes of a sequence is one of them: a listener expects
a byte, and a request has one to send until it is through. -/
structure Indexed (node : Node) : Prop where
  enterExpected : (Sequence.enter.byte? node.enterListener.position).isSome = true
  exitExpected : (Sequence.exit.byte? node.exitListener.position).isSome = true
  enterNext : node.enterRequest.position ≠ Sequence.size →
    (Sequence.enter.byte? node.enterRequest.position).isSome = true
  exitNext : node.exitRequest.position ≠ Sequence.size →
    (Sequence.exit.byte? node.exitRequest.position).isSome = true

theorem Poised.indexed {node : Node} (poised : node.Poised) : node.Indexed := by
  have found {sequence : Sequence} {position : Nat} (inside : position < Sequence.size) :
      (sequence.byte? position).isSome = true := by
    rw [Option.isSome_iff_ne_none, Ne, Sequence.byte?_eq_none_iff]
    omega
  constructor
  · exact found poised.enterHeard
  · exact found poised.exitHeard
  · intro more
    exact found (Nat.lt_of_le_of_ne poised.enterSent more)
  · intro more
    exact found (Nat.lt_of_le_of_ne poised.exitSent more)

/-- A counter that fits its ten bits. -/
def Counted (node : Node) : Prop := node.timeBase.counter < syncCounterModulo

theorem Counted.perform {node : Node} {step : Step} (counted : node.Counted)
    (fits : node.Fits step) : (node.perform step).value.Counted := by
  unfold Counted
  cases derives_perform node step fits with
  | coasts _ coasting =>
    rw [coasting.2]
    exact counted
  | follows frame _ _ _ counter => exact frame.syncCounter?_lt _ counter
  | claims _ _ _ _ counter =>
    rw [counter]
    exact Nat.mod_lt _ (by decide)

/-- A node whose parts fit together. -/
structure Coherent (node : Node) : Prop where
  timed : node.Timed
  counted : node.Counted
  /-- The node is its own master only as a candidate. -/
  entitled : node.Entitled
  poised : node.Poised
  /-- The request to leave waits in System Configuration only. -/
  withdrawn : node.Withdrawn
  indexed : node.Indexed

namespace Coherent

theorem start (config : Config) (origin : Nat) : (Node.start config origin).value.Coherent := by
  have poised : (Node.start config origin).value.Poised := by
    constructor <;> simp [Node.start, Sequence.size]
  constructor
  · constructor <;> simp [Node.start, TimeBase.start, Mode.initial]
  · exact (by decide : 0 < syncCounterModulo)
  · rintro ⟨⟩
  · exact poised
  · exact fun _ => rfl
  · exact poised.indexed

theorem perform (node : Node) (step : Step) (fits : node.Fits step) (coherent : node.Coherent) :
    (node.perform step).value.Coherent := by
  have poised := coherent.poised.perform fits
  constructor
  · exact coherent.timed.perform fits
  · exact coherent.counted.perform fits
  · exact coherent.entitled.perform fits
  · exact poised
  · exact coherent.withdrawn.perform fits
  · exact poised.indexed

end Coherent

end Node

/-- The parts of a node fit together after every run, and before and after each of the steps that
the run is made of, whatever the frames, the requests and the instants. -/
theorem node_stays_coherent (config : Config) (origin : Nat) (inputs : List Node.Input) :
    let node := (Node.start config origin).value
    (node.run inputs).value.Coherent ∧
      ∀ earlier later, node.steps inputs = earlier ++ later →
        (node.follow earlier).value.Coherent := by
  intro node
  have start : node.Coherent := .start config origin
  have throughout (earlier later : List Node.Step) (split : node.steps inputs = earlier ++ later) :
      (node.follow earlier).value.Coherent := by
    have fitting := Node.fitting_steps node inputs
    rw [split, Node.fitting_append] at fitting
    exact Node.follow_induction Node.Coherent.perform start fitting.1
  constructor
  · rw [← Node.follow_steps]
    exact throughout _ [] (List.append_nil _).symm
  · exact throughout

end VehicleBus
