import VehicleBus.Proofs.Node.Handshakes
import VehicleBus.Proofs.Node.Provenance

/-!
What a node knows of the others it knows from frames. Given the frames that it may be handed,
its master and its counter are rooted in a sync among them or among those that it sent itself;
what it sends bears its address, and is a sync only if it may be master; and as long as neither
the application nor a frame calls for System Configuration, it neither goes there nor calls for it.
-/
namespace VehicleBus

/-- A frame that calls for System Configuration. -/
def Frame.Calls (frame : Frame) : Prop := frame.id.control? = some .enterConfig

namespace Node

/-- The frame that comes with an input. -/
def Input.frame? : Input → Option Frame
  | .tick _ frame => frame
  | .requestEnter _ | .requestExit _ => none

/-- The timers neither receive nor make requests. -/
theorem subset_timerDuties (node : Node) (now : Nat) :
    node.timerDuties now ⊆ [.beat, .judge, .abandon, .sendEnterByte, .sendExitByte] := by
  unfold timerDuties
  split
  · simp
  · simp
  · split <;> simp
  · split <;> simp

/-- A step makes a request only where the input does. -/
theorem request_of_inputStep {node : Node} {input : Input} {step : Step}
    (member : step ∈ node.inputSteps input) :
    (step.duty = .requestEnter → input = .requestEnter step.now) ∧
      (step.duty = .requestExit → input = .requestExit step.now) := by
  cases input with
  | tick now frame =>
    obtain ⟨duty, among, rfl⟩ := List.mem_map.mp member
    constructor
    · intro asked
      have other : Duty.requestEnter ∉ (node.ready now frame).timerDuties now := fun timed => by
        simpa using subset_timerDuties _ now timed
      rw [show duty = .requestEnter from asked] at among
      simp [other] at among
    · intro asked
      have other : Duty.requestExit ∉ (node.ready now frame).timerDuties now := fun timed => by
        simpa using subset_timerDuties _ now timed
      rw [show duty = .requestExit from asked] at among
      simp [other] at among
  | requestEnter now =>
    rw [List.mem_singleton.mp member]
    exact ⟨fun _ => rfl, nofun⟩
  | requestExit now =>
    rw [List.mem_singleton.mp member]
    exact ⟨nofun, fun _ => rfl⟩

/-- A step is handed no frame but one that is allowed. -/
def Step.Draws (step : Step) (allowed : Frame → Prop) : Prop :=
  ∀ frame, step.duty = .receive (some frame) → allowed frame

/-- Of the steps of an input only the one that receives is handed a frame, which is the one that
comes with it. -/
theorem draws_inputSteps (node : Node) {input : Input} {allowed : Frame → Prop}
    (genuine : ∀ frame ∈ input.frame?, allowed frame) :
    ∀ step ∈ node.inputSteps input, step.Draws allowed := by
  intro step member frame received
  cases input with
  | tick now given =>
    obtain ⟨duty, among, rfl⟩ := List.mem_map.mp member
    rw [show duty = .receive (some frame) from received] at among
    have unheard : Duty.receive (some frame) ∉ (node.ready now given).timerDuties now := by
      intro timed
      simpa using subset_timerDuties _ now timed
    simp only [List.mem_cons, reduceCtorEq, false_or, unheard, or_false,
      Duty.receive.injEq] at among
    exact genuine frame among.symm
  | requestEnter now =>
    rw [List.mem_singleton.mp member] at received
    cases received
  | requestExit now =>
    rw [List.mem_singleton.mp member] at received
    cases received

theorem received_of_taken {node : Node} {step : Step} {frame : Frame}
    (member : frame ∈ node.taken step) : step.duty = .receive (some frame) := by
  unfold taken at member
  split at member
  · rename_i received
    split at member
    · cases member
    · rw [List.mem_singleton.mp member]
      exact received
  · cases member

/-- The master and the counter of a node are rooted in the syncs of a pool of frames, its own
mastery in its candidacy. -/
structure Rooted (node : Node) (pool : List Frame) : Prop where
  entitled : node.Entitled
  master : ∀ address ∈ node.timeBase.master, address ≠ node.address →
    ∃ frame ∈ pool, frame.IsSync ∧ frame.id.source = address
  counter : node.timeBase.counter ≠ 0 →
    ∃ frame ∈ pool, frame.IsSync ∧ frame.syncCounter? = some node.timeBase.counter

namespace Rooted

variable {node : Node} {pool : List Frame} {step : Step} {steps : List Step}

theorem start (config : Config) (origin : Nat) (pool : List Frame) :
    (Node.start config origin).value.Rooted pool where
  entitled := by rintro ⟨⟩
  master := by rintro _ ⟨⟩
  counter := by
    intro counted
    exact absurd rfl counted

theorem mono {more : List Frame} (rooted : node.Rooted pool)
    (grown : ∀ frame ∈ pool, frame ∈ more) : node.Rooted more where
  entitled := rooted.entitled
  master := by
    intro address held other
    obtain ⟨frame, member, root⟩ := rooted.master address held other
    exact ⟨frame, grown frame member, root⟩
  counter := by
    intro counted
    obtain ⟨frame, member, root⟩ := rooted.counter counted
    exact ⟨frame, grown frame member, root⟩

theorem perform (rooted : node.Rooted pool) (fits : node.Fits step)
    (draws : step.Draws (· ∈ pool)) :
    (node.perform step).value.Rooted (pool ++ (node.perform step).transmit) := by
  have entitled := rooted.entitled.perform fits
  have same : (node.perform step).value.address = node.address :=
    congrArg Config.address (config_perform node step fits)
  have before := rooted.mono fun frame => List.mem_append_left (node.perform step).transmit
  cases derives_perform node step fits with
  | coasts _ coasting =>
    refine ⟨entitled, ?_, ?_⟩
    · intro address held other
      rw [same] at other
      rcases coasting.1 with kept | lost
      · rw [kept] at held
        exact before.master address held other
      · rw [lost] at held
        cases held
    · rw [coasting.2]
      exact before.counter
  | follows frame taken accepted master counter =>
    have heard : frame ∈ node.taken step := by
      rw [taken]
      exact List.mem_singleton_self frame
    have given : frame ∈ pool ++ (node.perform step).transmit :=
      List.mem_append_left _ (draws frame (received_of_taken heard))
    refine ⟨entitled, ?_, ?_⟩
    · intro address held _
      rw [master] at held
      exact ⟨frame, given, accepted.2.1, Option.some.inj held⟩
    · intro _
      exact ⟨frame, given, accepted.2.1, counter⟩
  | claims _ _ sent master counter =>
    refine ⟨entitled, ?_, ?_⟩
    · intro address held other
      rw [master] at held
      rw [same] at other
      exact absurd (Option.some.inj held).symm other
    · intro _
      refine ⟨_, List.mem_append_right pool sent, Frame.isSync_sync node.address _, ?_⟩
      rw [Frame.syncCounter?_sync, counter, Nat.mod_mod]

theorem follow (rooted : node.Rooted pool) (fitting : node.Fitting steps)
    (draws : ∀ step ∈ steps, step.Draws (· ∈ pool)) :
    (node.follow steps).value.Rooted (pool ++ (node.follow steps).transmit) := by
  induction steps generalizing node pool with
  | nil => simpa [Node.follow] using rooted
  | cons step rest ih =>
    have first := rooted.perform fitting.1 (draws step List.mem_cons_self)
    have later := ih first fitting.2 fun step member frame received =>
      List.mem_append_left _ (draws step (List.mem_cons_of_mem _ member) frame received)
    rw [List.append_assoc] at later
    exact later

/-- What a node takes from an input it takes from the frame that comes with it. -/
theorem react (rooted : node.Rooted pool) {input : Input}
    (genuine : ∀ frame ∈ input.frame?, frame ∈ pool) :
    (node.react input).value.Rooted (pool ++ (node.react input).transmit) := by
  have after := rooted.follow (fitting_inputSteps node input) (draws_inputSteps node genuine)
  rwa [follow_inputSteps] at after

end Rooted

/-- A frame is sent under the address of a node, and is a sync only if the node may be master. -/
def Signs (node : Node) (frame : Frame) : Prop :=
  frame.id.source = node.address ∧ (frame.IsSync → node.config.options.syncMaster = true)

section Signs

variable {node : Node} {frame : Frame}

theorem Signs.congr {after : Node} (config : after.config = node.config)
    (signs : after.Signs frame) : node.Signs frame := by
  unfold Signs address at *
  rwa [config] at signs

theorem signs_perform {step : Step} (entitled : node.Entitled)
    (sent : frame ∈ (node.perform step).transmit) : node.Signs frame := by
  have sends := sends_perform node step sent
  refine ⟨sends.source, ?_⟩
  intro sync
  cases sends with
  | sync _ due => exact entitled.of_due due
  | enterByte byte =>
    exact absurd sync (Frame.not_isSync_single .enterConfig node.address byte (by decide))
  | exitByte byte =>
    exact absurd sync (Frame.not_isSync_single .exitConfig node.address byte (by decide))

/-- What is transmitted is transmitted in one of the steps. -/
theorem sender_of_follow {steps : List Step} (fitting : node.Fitting steps)
    (sent : frame ∈ (node.follow steps).transmit) :
    ∃ earlier step, node.Fitting earlier ∧
      frame ∈ ((node.follow earlier).value.perform step).transmit := by
  induction steps generalizing node with
  | nil => cases sent
  | cons step rest ih =>
    rw [follow, Reaction.transmit_bind, List.mem_append] at sent
    rcases sent with first | later
    · exact ⟨[], step, trivial, first⟩
    · obtain ⟨earlier, sending, fits, member⟩ := ih fitting.2 later
      exact ⟨step :: earlier, sending, ⟨fitting.1, fits⟩, member⟩

theorem signs_follow {steps : List Step} (entitled : node.Entitled) (fitting : node.Fitting steps)
    (sent : frame ∈ (node.follow steps).transmit) : node.Signs frame := by
  obtain ⟨earlier, step, fits, member⟩ := sender_of_follow fitting sent
  have still : (node.follow earlier).value.Entitled :=
    follow_induction (fun _ _ fits entitled => entitled.perform fits) entitled fits
  exact Signs.congr (config_follow node earlier fits) (signs_perform still member)

theorem signs_react {input : Input} (entitled : node.Entitled)
    (sent : frame ∈ (node.react input).transmit) : node.Signs frame := by
  rw [← follow_inputSteps] at sent
  exact signs_follow entitled (fitting_inputSteps node input) sent

end Signs

/-- Neither in System Configuration nor asked to go there. -/
structure Uncalled (node : Node) : Prop where
  idle : node.enterRequest.pending = false
  outside : node.mode ≠ .systemConfiguration

/-- A reaction that neither leads to System Configuration nor calls for it. -/
structure Uncalling (reaction : Reaction Node) : Prop where
  uncalled : reaction.value.Uncalled
  unsent : ∀ frame ∈ reaction.transmit, ¬ frame.Calls
  untold : .systemConfiguration ∉ modes reaction.events

namespace Uncalled

variable {node : Node} {step : Step} {steps : List Step}

theorem start (config : Config) (origin : Nat) : (Node.start config origin).value.Uncalled :=
  ⟨rfl, by rintro ⟨⟩⟩

theorem unsent (uncalled : node.Uncalled) (step : Step) :
    ∀ frame ∈ (node.perform step).transmit, ¬ frame.Calls := by
  intro frame sent
  unfold Frame.Calls
  cases sends_perform node step sent with
  | sync => simp
  | enterByte _ pending => simp [uncalled.idle] at pending
  | exitByte => simp [Frame.exitConfig]

/-- Without a byte of the enter sequence nothing leads to System Configuration. -/
theorem handled_eq_nil (uncalled : node.Uncalled)
    (draws : step.Draws fun frame => ¬ frame.Calls) : node.handled step = [] := by
  refine List.filterMap_eq_nil_iff.mpr fun frame member => ?_
  apply Frame.enterByte?_of_other
  rcases List.mem_append.mp member with taken | sent
  · exact draws frame (received_of_taken taken)
  · exact uncalled.unsent step frame sent

theorem perform (uncalled : node.Uncalled) (fits : node.Fits step)
    (draws : step.Draws fun frame => ¬ frame.Calls) (unasked : step.duty ≠ .requestEnter) :
    Uncalling (node.perform step) := by
  have none := uncalled.handled_eq_nil draws
  have untold : .systemConfiguration ∉ modes (node.perform step).events := by
    rcases attends_perform node step fits.sound with ⟨-, unheard⟩ | ⟨byte, one, -⟩
    · exact unheard.unasked
    · rw [none] at one
      cases one
  refine ⟨⟨?_, ?_⟩, uncalled.unsent step, untold⟩
  · exact enterRequest_idle_perform node step fits uncalled.idle unasked
  · intro entered
    exact untold (announced_of_entered fits uncalled.outside entered)

theorem follow (uncalled : node.Uncalled) (fitting : node.Fitting steps)
    (draws : ∀ step ∈ steps, step.Draws fun frame => ¬ frame.Calls)
    (unasked : ∀ step ∈ steps, step.duty ≠ .requestEnter) : Uncalling (node.follow steps) := by
  induction steps generalizing node with
  | nil => exact ⟨uncalled, nofun, nofun⟩
  | cons step rest ih =>
    rw [List.forall_mem_cons] at draws unasked
    have first := uncalled.perform fitting.1 draws.1 unasked.1
    have later := ih first.uncalled fitting.2 draws.2 unasked.2
    constructor
    · exact later.uncalled
    · intro frame sent
      rcases List.mem_append.mp sent with early | late
      · exact first.unsent frame early
      · exact later.unsent frame late
    · rw [Node.follow, Reaction.events_bind, modes_append, List.mem_append, not_or]
      exact ⟨first.untold, later.untold⟩

/-- A node that is not called stays away, unless the application asks now. -/
theorem react (uncalled : node.Uncalled) {input : Input}
    (genuine : ∀ frame ∈ input.frame?, ¬ frame.Calls)
    (unasked : ∀ now, input ≠ .requestEnter now) : Uncalling (node.react input) := by
  rw [← follow_inputSteps]
  apply uncalled.follow (fitting_inputSteps node input) (draws_inputSteps node genuine)
  intro step member asked
  exact unasked step.now ((request_of_inputStep member).1 asked)

end Uncalled

end Node

end VehicleBus
