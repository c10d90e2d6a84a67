import VehicleBus.Proofs.Node.Mastery
import VehicleBus.Proofs.Node.Moves
import VehicleBus.Proofs.Node.Stance

/-!
Where the master and the counter of a node come from. A step takes both from a sync frame of
another node, or from the sync that the node sends itself as a candidate; any other step keeps
the counter, and keeps the master or gives it up. And what a node sends is a sync of its own, or
a byte of a handshake that it was asked for, under its own address.
-/
namespace VehicleBus

/-- A time base that nobody advances: its counter stays, and its master stays or is given up. -/
def TimeBase.Coasts (base after : TimeBase) : Prop :=
  (after.master = base.master ∨ after.master = none) ∧ after.counter = base.counter

namespace TimeBase.Coasts

theorem of_eq {base after : TimeBase} (same : after = base) : base.Coasts after := by
  rw [same]
  exact ⟨.inl rfl, rfl⟩

theorem refl (base : TimeBase) : base.Coasts base := .of_eq rfl

theorem trans {base between after : TimeBase} (first : base.Coasts between)
    (second : between.Coasts after) : base.Coasts after := by
  refine ⟨?_, second.2.trans first.2⟩
  rcases second.1 with kept | lost
  · rw [kept]
    exact first.1
  · exact .inr lost

end TimeBase.Coasts

/-- A sync is due at the master and at candidates alone. -/
theorem TimeBase.candidate_of_isDue (base : TimeBase) (station : Station) (now : Nat)
    (due : (base.isDue station now).value = true) :
    base.master = some station.address ∨ station.candidate = true := by
  by_cases own : base.isMaster station = true
  · left
    simpa [isMaster] using own
  · by_cases claim : base.mayClaim station = true
    · right
      rw [mayClaim, Bool.and_eq_true] at claim
      exact claim.1
    · simp [isDue, own, claim] at due

namespace Node

section Coasts

variable (node : Node) (now : Nat)

theorem coasts_enterPreOperational :
    node.timeBase.Coasts (node.enterPreOperational now).value.timeBase :=
  ⟨.inr rfl, rfl⟩

theorem coasts_wake : node.timeBase.Coasts (node.wake now).value.timeBase := by
  unfold wake
  split
  · exact coasts_enterPreOperational node now
  · exact .refl _

theorem coasts_hearExitByte (source byte : UInt8) :
    node.timeBase.Coasts (node.hearExitByte now source byte).value.timeBase := by
  unfold hearExitByte
  split
  · rw [followExitByte, Reaction.value_bind, afterExitByte]
    split
    · exact coasts_enterPreOperational _ now
    · exact .refl _
  · exact .refl _

theorem coasts_concludeExit : node.timeBase.Coasts (node.concludeExit now).value.timeBase := by
  unfold concludeExit
  split
  · dsimp only
    split
    · exact coasts_enterPreOperational _ now
    · exact .refl _
  · exact .refl _

theorem coasts_runExitRequest :
    node.timeBase.Coasts (node.runExitRequest now).value.timeBase := by
  rcases runExitRequest_cases node now with ⟨_, -, -, value⟩ | ⟨byte, requester, -, -, value⟩
  · rw [value]
    exact .refl _
  · rw [value]
    exact (coasts_hearExitByte { node with exitRequest := requester } now node.address byte).trans
      (coasts_concludeExit _ now)

theorem coasts_judgeMaster : node.timeBase.Coasts (node.judgeMaster now).value.timeBase := by
  unfold judgeMaster
  split
  · rw [Reaction.value_bind, promoteUnless]
    split
    · exact ⟨.inr rfl, rfl⟩
    · split
      · exact .refl _
      · exact .refl _
  · exact .refl _

theorem coasts_requestExit : node.timeBase.Coasts (node.requestExit now).value.timeBase := by
  unfold requestExit
  split
  · exact .refl _
  · exact .refl _

end Coasts

/-- Where the master and the counter come from in a step. -/
inductive Derives (node : Node) (step : Step) (after : Node) : Prop
  | coasts (unheard : ∀ frame ∈ node.taken step, ¬ node.Accepts frame)
      (coasting : node.timeBase.Coasts after.timeBase)
  | follows (frame : Frame) (taken : node.taken step = [frame]) (accepted : node.Accepts frame)
      (master : after.timeBase.master = some frame.id.source)
      (counter : frame.syncCounter? = some after.timeBase.counter)
  | claims (taken : node.taken step = [])
      (due : (node.timeBase.isDue node.station step.now).value = true)
      (sent : Frame.sync node.address after.timeBase.counter ∈ (node.perform step).transmit)
      (master : after.timeBase.master = some node.address)
      (counter : after.timeBase.counter = (node.timeBase.counter + 1) % syncCounterModulo)

section Duties

variable {node : Node} {now : Nat}

/-- A step that takes no frame in and lets the time base coast. -/
theorem derives_of_mute {step : Step} {after : Node} (taken : node.taken step = [])
    (coasting : node.timeBase.Coasts after.timeBase) : node.Derives step after := by
  apply Derives.coasts _ coasting
  simp [taken]

theorem derives_hearSync {frame : Frame} (foreign : frame.id.source ≠ node.address)
    (on : node.mode ≠ .powerOff) (sync : frame.IsSync) :
    node.Derives ⟨now, .receive (some frame)⟩ (node.hearSync now frame).value := by
  by_cases accepted : node.Accepts frame
  · obtain ⟨mode, -, carries, lower⟩ := accepted
    obtain ⟨counter, counted⟩ := Option.isSome_iff_exists.mp carries
    have heard : (node.hearSync now frame).value =
        (node.followSync now frame.id.source counter).value := by
      rw [hearSync, if_neg mode.not_configuring, counted]
    obtain ⟨deadline, followed⟩ :=
      value_followSync_of_counts node now frame.id.source counter lower
    rw [heard, followed]
    apply Derives.follows frame (taken_receive foreign) ⟨mode, sync, carries, lower⟩
    · rfl
    · -- A counter read from a frame is below its modulus already.
      rw [counted, TimeBase.value_follow]
      exact congrArg some (Nat.mod_eq_of_lt (frame.syncCounter?_lt counter counted)).symm
  · have same : (node.hearSync now frame).value = node := by
      unfold hearSync
      split
      · rfl
      · rename_i outside
        split
        · rfl
        · rename_i counter counted
          apply value_followSync_of_ignores
          intro lower
          apply accepted
          exact ⟨synchronizes_of_on node on outside, sync, by rw [counted]; rfl, lower⟩
    rw [same]
    apply Derives.coasts _ (.refl _)
    rw [taken_receive foreign]
    simpa using accepted

theorem derives_receive (frame : Frame) (on : node.mode ≠ .powerOff) :
    node.Derives ⟨now, .receive (some frame)⟩ (node.receive now frame).value := by
  by_cases foreign : frame.id.source = node.address
  · rw [receive, if_pos foreign]
    exact derives_of_mute (if_pos foreign) (.refl _)
  · have coasts {after : Node} (other : ¬ frame.IsSync)
        (coasting : node.timeBase.Coasts after.timeBase) :
        node.Derives ⟨now, .receive (some frame)⟩ after := by
      apply Derives.coasts _ coasting
      rw [taken_receive foreign]
      simpa using fun accepted : node.Accepts frame => other accepted.2.1
    cases control : frame.id.control? with
    | none =>
      rw [receive, if_neg foreign, Reaction.value_bind, control]
      exact coasts (by simp [Frame.IsSync, control]) (.refl _)
    | some kind =>
      rw [value_receive foreign control]
      unfold obey
      split
      · exact derives_hearSync foreign on control
      · apply coasts (by simp [Frame.IsSync, control])
        exact .of_eq (timeBase_hearEnterByte node now _ _)
      · apply coasts (by simp [Frame.IsSync, control])
        exact coasts_hearExitByte node now _ _
      · exact coasts (by simp [Frame.IsSync, control]) (.refl _)
      · exact coasts (by simp [Frame.IsSync, control]) (.refl _)

theorem derives_beat : node.Derives ⟨now, .beat⟩ (node.runSync now).value := by
  cases due : (node.timeBase.isDue node.station now).value with
  | false =>
    rw [(runSync_of_not_due node now due).2]
    exact derives_of_mute rfl (.refl _)
  | true =>
    obtain ⟨deadline, beaten⟩ := value_runSync_of_due node now due
    rw [beaten]
    apply Derives.claims rfl due
    · rw [perform, (runSync_of_due node now due).1]
      exact List.mem_singleton_self _
    · rfl
    · rfl

end Duties

/-- Every step that fits its node accounts for the master and the counter after it. -/
theorem derives_perform (node : Node) (step : Step) (fits : node.Fits step) :
    node.Derives step (node.perform step).value := by
  obtain ⟨now, duty⟩ := step
  cases duty with
  | wake => exact derives_of_mute rfl (coasts_wake node now)
  | receive frame =>
    cases frame with
    | none => exact derives_of_mute rfl (.refl _)
    | some frame => exact derives_receive frame fits
  | beat => exact derives_beat
  | judge => exact derives_of_mute rfl (coasts_judgeMaster node now)
  | abandon => exact derives_of_mute rfl (coasts_enterPreOperational node now)
  | sendEnterByte => exact derives_of_mute rfl (.of_eq (timeBase_runEnterRequest node now))
  | sendExitByte => exact derives_of_mute rfl (coasts_runExitRequest node now)
  | requestEnter => exact derives_of_mute rfl (.refl _)
  | requestExit => exact derives_of_mute rfl (coasts_requestExit node now)

/-- What a node sends in a step, and why. -/
inductive Sends (node : Node) (step : Step) : Frame → Prop
  | sync (counter : Nat) (due : (node.timeBase.isDue node.station step.now).value = true) :
      node.Sends step (Frame.sync node.address counter)
  | enterByte (byte : UInt8) (pending : node.enterRequest.pending = true) :
      node.Sends step (Frame.enterConfig node.address byte)
  | exitByte (byte : UInt8) (pending : node.exitRequest.pending = true) :
      node.Sends step (Frame.exitConfig node.address byte)

theorem sends_beat (node : Node) (now : Nat) {frame : Frame}
    (sent : frame ∈ (node.runSync now).transmit) : node.Sends ⟨now, .beat⟩ frame := by
  cases due : (node.timeBase.isDue node.station now).value with
  | false =>
    rw [(runSync_of_not_due node now due).1.unsent] at sent
    cases sent
  | true =>
    rw [(runSync_of_due node now due).1, List.mem_singleton] at sent
    rw [sent]
    exact .sync _ due

theorem sends_sendEnterByte (node : Node) (now : Nat) {frame : Frame}
    (sent : frame ∈ (node.runEnterRequest now).transmit) :
    node.Sends ⟨now, .sendEnterByte⟩ frame := by
  cases pending : node.enterRequest.pending with
  | false =>
    rw [runEnterRequest_of_idle node now pending] at sent
    cases sent
  | true =>
    rcases runEnterRequest_cases node now with ⟨_, none, -⟩ | ⟨byte, _, one, -⟩
    · rw [none] at sent
      cases sent
    · rw [one, List.mem_singleton] at sent
      rw [sent]
      exact .enterByte byte pending

theorem sends_sendExitByte (node : Node) (now : Nat) {frame : Frame}
    (sent : frame ∈ (node.runExitRequest now).transmit) :
    node.Sends ⟨now, .sendExitByte⟩ frame := by
  cases pending : node.exitRequest.pending with
  | false =>
    rw [Guarded.runExitRequest_of_unasked node now pending] at sent
    cases sent
  | true =>
    rcases runExitRequest_cases node now with ⟨_, -, none, -⟩ | ⟨byte, _, -, one, -⟩
    · rw [none] at sent
      cases sent
    · rw [one, List.mem_singleton] at sent
      rw [sent]
      exact .exitByte byte pending

/-- Every frame of a step is accounted for. -/
theorem sends_perform (node : Node) (step : Step) {frame : Frame}
    (sent : frame ∈ (node.perform step).transmit) : node.Sends step frame := by
  obtain ⟨now, duty⟩ := step
  cases duty with
  | beat => exact sends_beat node now sent
  | sendEnterByte => exact sends_sendEnterByte node now sent
  | sendExitByte => exact sends_sendExitByte node now sent
  | requestExit =>
    unfold perform requestExit at sent
    dsimp only at sent
    split at sent
    · cases sent
    · cases sent
  | wake => simp [perform] at sent
  | receive frame => simp [perform] at sent
  | judge => simp [perform] at sent
  | abandon => cases sent
  | requestEnter => cases sent

/-- A node sends under its own address. -/
theorem Sends.source {node : Node} {step : Step} {frame : Frame} (sends : node.Sends step frame) :
    frame.id.source = node.address := by
  cases sends with
  | sync => simp
  | enterByte => simp [Frame.enterConfig]
  | exitByte => simp [Frame.exitConfig]

theorem foreign_of_taken {node : Node} {step : Step} {frame : Frame}
    (member : frame ∈ node.taken step) : frame.id.source ≠ node.address := by
  unfold taken at member
  split at member
  · split at member
    · cases member
    · rename_i foreign
      rw [List.mem_singleton] at member
      rwa [member]
  · cases member

/-- A node is its own master only where it may be one. -/
def Entitled (node : Node) : Prop :=
  node.timeBase.master = some node.address → node.config.options.syncMaster = true

namespace Entitled

variable {node : Node} {step : Step}

theorem of_due (entitled : node.Entitled) {now : Nat}
    (due : (node.timeBase.isDue node.station now).value = true) :
    node.config.options.syncMaster = true := by
  rcases node.timeBase.candidate_of_isDue node.station now due with own | candidate
  · exact entitled own
  · exact candidate

theorem perform (entitled : node.Entitled) (fits : node.Fits step) :
    (node.perform step).value.Entitled := by
  intro own
  have config := config_perform node step fits
  rw [address, config] at own
  rw [config]
  cases derives_perform node step fits with
  | coasts _ coasting =>
    rcases coasting.1 with kept | lost
    · exact entitled (kept.symm.trans own)
    · rw [lost] at own
      cases own
  | follows frame taken _ master =>
    have foreign : frame.id.source ≠ node.address := by
      apply foreign_of_taken
      rw [taken]
      exact List.mem_singleton_self frame
    exact absurd (Option.some.inj (master.symm.trans own)) foreign
  | claims _ due => exact entitled.of_due due

end Entitled

end Node

end VehicleBus
