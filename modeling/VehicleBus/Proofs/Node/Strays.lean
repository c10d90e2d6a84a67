import VehicleBus.Proofs.Node.Deference
import VehicleBus.Proofs.Node.Provenance

/-!
The reserved address as a master. No node carries it and no identifier is built with it, but a
frame from the bus may bear any source, and a sync is judged by its rank alone. A sync of the
reserved address counts wherever syncs are exchanged, and whoever follows it follows nobody else
until the master is given up.
-/
namespace VehicleBus

namespace Node

/-- A sync of the reserved address counts in a step. -/
def Astray (node : Node) (step : Step) : Prop :=
  ∃ frame ∈ node.taken step, node.Accepts frame ∧ frame.id.source = 0

instance (node : Node) (step : Step) : Decidable (node.Astray step) :=
  inferInstanceAs (Decidable (∃ frame ∈ _, _))

/-- The instants at which a sync of the reserved address counted, since there has been a master
without a break. -/
def strays (node : Node) (steps : List Step) : List Nat :=
  node.memory (fun after => after.timeBase.master.isSome)
    (fun before step => if before.Astray step then [step.now] else []) [] steps

/-- The reserved address is master after a stray sync, and not otherwise. -/
def Misled (node : Node) (strays : List Nat) : Prop :=
  node.timeBase.master = some 0 ↔ strays ≠ []

namespace Misled

variable {node : Node} {strays : List Nat} {step : Step}

theorem not_of_none (vacant : node.timeBase.master = none) : node.Misled [] := by
  simp [Misled, vacant]

/-- Another sync counts, of another node or its own, only where the reserved address is not
master. -/
theorem blameless (misled : node.Misled strays) (other : node.timeBase.master ≠ some 0) :
    strays = [] := by
  by_contra some
  exact other (misled.mpr some)

theorem perform (misled : node.Misled strays) (fits : node.Fits step) :
    (node.perform step).value.Misled
      (if (node.perform step).value.timeBase.master.isSome then
        strays ++ if node.Astray step then [step.now] else []
      else []) := by
  cases derives_perform node step fits with
  | coasts unheard coasting =>
    have astray : ¬ node.Astray step := by
      rintro ⟨frame, taken, accepted, -⟩
      exact unheard frame taken accepted
    rw [if_neg astray, List.append_nil]
    cases held : (node.perform step).value.timeBase.master with
    | none => simp [Misled, held]
    | some master =>
      have kept := coasting.1.resolve_right (by simp [held])
      rw [held] at kept
      simpa [Misled, held, ← kept] using misled
  | follows frame taken accepted master =>
    rw [master, Option.isSome_some, if_pos rfl]
    by_cases reserved : frame.id.source = 0
    · have astray : node.Astray step := by
        refine ⟨frame, ?_, accepted, reserved⟩
        rw [taken]
        exact List.mem_singleton_self frame
      simp [Misled, master, reserved, astray]
    · have astray : ¬ node.Astray step := by
        rintro ⟨other, member, -, zero⟩
        rw [taken, List.mem_singleton] at member
        rw [member] at zero
        exact reserved zero
      have ranked : node.timeBase.master ≠ some 0 := by
        intro lowest
        have low := accepted.2.2.2
        rw [TimeBase.accepts, lowest] at low
        exact reserved (UInt8.le_zero_iff.mp (of_decide_eq_true low))
      simp [Misled, master, reserved, astray, misled.blameless ranked]
  | claims taken due _ master =>
    have astray : ¬ node.Astray step := by
      simp [Astray, taken]
    have unreserved : node.address ≠ 0 := node.config.address_ne_zero
    have ranked : node.timeBase.master ≠ some 0 := by
      intro lowest
      have low := node.timeBase.le_of_isDue node.station step.now 0 lowest due
      exact unreserved (UInt8.le_zero_iff.mp low)
    simp [Misled, master, unreserved, astray, misled.blameless ranked]

end Misled

end Node

/-- In every run of a node the reserved address is master exactly if a sync of it counted since
there has been a master without a break: nothing but the loss of every master ends it. -/
theorem reserved_address_is_followed (config : Config) (origin : Nat)
    (inputs : List Node.Input) :
    let node := (Node.start config origin).value
    (node.run inputs).value.timeBase.master = some 0 ↔ node.strays (node.steps inputs) ≠ [] := by
  intro node
  have start : node.Misled [] := .not_of_none rfl
  have misled :
      (node.follow (node.steps inputs)).value.Misled (node.strays (node.steps inputs)) :=
    Node.memory_induction _ _ (fun _ _ _ fits misled => misled.perform fits) start
      (Node.fitting_steps node inputs)
  rwa [Node.follow_steps] at misled

/-- A sync of the reserved address deposes a master that holds the network. -/
theorem stray_sync_deposes_ten :
    let node := (Node.start (Config.candidate 10 (by decide)) 0).value
    let claim := [Node.Input.tick 0 none, .tick 7813 none]
    (node.run claim).value.timeBase.master = some 10 ∧
      (node.run (claim ++ [.tick 7814 (some (Frame.sync 0 900))])).value.timeBase.master = some 0 :=
  by decide +kernel

end VehicleBus
