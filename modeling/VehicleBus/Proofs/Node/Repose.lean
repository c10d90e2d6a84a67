import VehicleBus.Proofs.Node.Exits
import VehicleBus.Proofs.Node.Mastery

/-!
A node that is ticked again and again at one instant. Whatever is due there is done by the first
tick, and what is done sets its next instant later: a beat begins a period, a byte sent waits for
the next turn, an election opened or a mode entered has its deadline ahead. One thing may be left.
A node that gives its mode up sends nothing in that tick, so a byte of the enter sequence can be
due still; the second tick sends it. From then on a tick without a frame does nothing at all, and
a frame does not change that.
-/
namespace VehicleBus

namespace Handshake.Requester

/-- A poll at an instant sends nothing and leaves the request as it is. -/
def Rests (requester : Requester) (sequence : Sequence) (now : Nat) : Prop :=
  ∀ ptu, (requester.poll sequence now ptu).value = (none, requester)

variable {requester : Requester} {sequence : Sequence} {now ptu : Nat}

theorem rests_of_idle (idle : requester.pending = false) : requester.Rests sequence now := by
  simp [Rests, poll, idle]

/-- A sequence that is not to start over rests between two of its bytes, and after the last. -/
theorem rests_of_waiting (current : ¬ (sequence = .enter ∧ requester.restart ≤ now))
    (waits : sequence.byte? requester.position = none ∨ now < requester.nextByte) :
    requester.Rests sequence now := by
  intro ptu
  unfold poll
  split
  · rw [startOver, if_neg current, pure_bind, emitDue]
    split
    · rfl
    · rename_i byte next
      have early : ¬ requester.nextByte ≤ now := by
        obtain sent | ahead := waits
        · rw [next] at sent
          cases sent
        · omega
      rw [if_neg early]
      rfl
  · rfl

/-- A sequence that starts over does not do so again at once. -/
theorem current_startOver (requester : Requester) (sequence : Sequence) (now : Nat) :
    ¬ (sequence = .enter ∧ (requester.startOver sequence now).value.restart ≤ now) := by
  unfold startOver
  split
  · rintro ⟨-, again⟩
    have ahead : now < now + resendInterval := Nat.lt_add_of_pos_right (by decide)
    exact Nat.not_le_of_lt ahead again
  · assumption

theorem rests_emitDue (positive : 0 < ptu)
    (current : ¬ (sequence = .enter ∧ requester.restart ≤ now)) :
    (requester.emitDue sequence now ptu).value.2.Rests sequence now := by
  unfold emitDue
  split
  · rename_i sent
    exact rests_of_waiting current (.inl sent)
  · split
    · exact rests_of_waiting current (.inr (Nat.lt_add_of_pos_right positive))
    · rename_i early
      exact rests_of_waiting current (.inr (Nat.lt_of_not_le early))

/-- After a poll a request rests. -/
theorem rests_poll (requester : Requester) (sequence : Sequence) (now : Nat) (positive : 0 < ptu) :
    (requester.poll sequence now ptu).value.2.Rests sequence now := by
  by_cases pending : requester.pending = true
  · rw [poll, if_pos pending, Reaction.value_bind]
    exact rests_emitDue positive (current_startOver requester sequence now)
  · have idle : requester.pending = false := by simpa using pending
    rw [rests_of_idle idle]
    exact rests_of_idle idle

end Handshake.Requester

namespace Node

/-- The mode does not end by its deadline at an instant. PreOperational has a deadline of another
kind, at which the node is promoted. -/
def Lasting (node : Node) (now : Nat) : Prop :=
  node.mode ≠ .preOperational → node.expired now = false

/-- Nothing is due at an instant that the mode or the time base has to do. -/
structure Reposed (node : Node) (now : Nat) : Prop where
  on : node.mode ≠ .powerOff
  lasting : node.Lasting now
  silent : node.Synchronizes → (node.timeBase.isDue node.station now).value = false
  /-- A master that is held is not lost, nor has it been held long enough. -/
  decided : node.mode = .preOperational → node.timeBase.master.isSome = true →
    (node.timeBase.lost node.station now).value = false ∧ node.expired now = false

/-- Nothing at all is due at an instant. -/
structure AtRest (node : Node) (now : Nat) : Prop extends Reposed node now where
  entering : node.enterRequest.Rests .enter now
  leaving : node.mode = .systemConfiguration → node.exitRequest.Rests .exit now

section Repose

variable {node after : Node} {now : Nat}

theorem lasting_of_deadline {span : Nat} (set : node.deadline = some (now + span))
    (positive : 0 < span) : node.Lasting now :=
  fun _ => node.not_expired_of_lt now set (Nat.lt_add_of_pos_right positive)

theorem ptu_pos (node : Node) : 0 < node.timing.ptu := Timing.ptu_pos _ _

theorem watchdog_pos (node : Node) : 0 < node.timing.watchdog :=
  Nat.mul_pos node.ptu_pos (by decide)

/-- What moves none of the mode, the time base and the deadline keeps the repose. -/
theorem Reposed.congr (reposed : node.Reposed now) (config : after.config = node.config)
    (mode : after.mode = node.mode) (timeBase : after.timeBase = node.timeBase)
    (deadline : after.deadline = node.deadline) : after.Reposed now := by
  have station : after.station = node.station := congrArg Config.station config
  have expired : after.expired now = node.expired now := by rw [expired, expired, deadline]
  constructor
  · rw [mode]
    exact reposed.on
  · rw [Lasting, mode, expired]
    exact reposed.lasting
  · rw [Synchronizes, mode, timeBase, station]
    exact reposed.silent
  · rw [mode, timeBase, station, expired]
    exact reposed.decided

/-- A node that has just opened the election waits for a period. -/
theorem reposed_enterPreOperational (node : Node) (now : Nat) :
    (node.enterPreOperational now).value.Reposed now where
  on := nofun
  lasting := fun other => absurd rfl other
  silent := fun _ => not_due_of_fresh _ now rfl
  decided := nofun

/-- A node that was led to System Configuration has its stay ahead. -/
theorem reposed_of_configured (mode : node.mode = .systemConfiguration)
    (deadline : node.deadline = some (now + configurationTimeout)) : node.Reposed now where
  on := on_of_configuring mode
  lasting := lasting_of_deadline deadline (by decide)
  silent := fun synchronizes => absurd mode synchronizes.not_configuring
  decided := fun waiting => nomatch mode.symm.trans waiting

/-- After the turn of the time base no sync is due. -/
theorem silent_runSync (node : Node) (now : Nat) :
    ((node.runSync now).value.timeBase.isDue (node.runSync now).value.station now).value =
      false := by
  cases due : (node.timeBase.isDue node.station now).value with
  | false =>
    rw [(runSync_of_not_due node now due).2]
    exact due
  | true =>
    obtain ⟨deadline, beaten⟩ := value_runSync_of_due node now due
    rw [beaten]
    exact not_due_of_fresh _ now rfl

/-- A beat in Operational feeds the watchdog, and without one the deadline stays. -/
theorem lasting_runSync (lasting : node.Lasting now) (mode : node.mode = .operational) :
    (node.runSync now).value.Lasting now := by
  cases due : (node.timeBase.isDue node.station now).value with
  | false =>
    rw [(runSync_of_not_due node now due).2]
    exact lasting
  | true =>
    rw [(runSync_of_due node now due).2.2]
    exact lasting_of_deadline ((fed_syncSeen node now _ (.inr mode) rfl rfl).watched mode)
      node.watchdog_pos

/-- A master is given up or the node promoted by one judgement, and neither again. -/
theorem reposed_judgeMaster (mode : node.mode = .preOperational)
    (silent : (node.timeBase.isDue node.station now).value = false) :
    (node.judgeMaster now).value.Reposed now := by
  have on : node.mode ≠ .powerOff := by
    rw [mode]
    decide
  have waiting : node.Lasting now := fun other => absurd mode other
  unfold judgeMaster
  split
  · rw [Reaction.value_bind, promoteUnless]
    split
    · exact ⟨on, fun other => absurd mode other, fun _ => not_due_of_fresh _ now rfl,
        fun _ held => absurd held Bool.false_ne_true⟩
    · rename_i kept
      split
      · have promoted : Mode.operational ≠ .powerOff := by decide
        have decided : Mode.operational ≠ .preOperational := by decide
        exact ⟨promoted, lasting_of_deadline rfl node.watchdog_pos, fun _ => silent,
          fun waiting => absurd waiting decided⟩
      · rename_i early
        exact ⟨on, waiting, fun _ => silent, fun _ _ => by simpa using And.intro kept early⟩
  · rename_i vacant
    exact ⟨on, waiting, fun _ => silent, fun _ held => absurd held vacant⟩

end Repose

section Requests

variable {node : Node} {now : Nat}

/-- A byte of the node's own that completes the enter sequence serves the request. -/
theorem enterRequest_hearEnterByte_own (node : Node) (now : Nat) (byte : UInt8) :
    (node.hearEnterByte now node.address byte).value.enterRequest = node.enterRequest ∨
      (node.hearEnterByte now node.address byte).value.enterRequest =
        node.enterRequest.cancel := by
  rw [hearEnterByte, Reaction.value_bind, afterEnterByte]
  split
  · right
    simp only [enterCompleted, address, if_true]
    split <;> rfl
  · exact .inl rfl

theorem exitRequest_hearEnterByte (node : Node) (now : Nat) (source byte : UInt8) :
    (node.hearEnterByte now source byte).value.exitRequest = node.exitRequest := by
  by_cases complete : (node.enterListener.hear .enter now source byte).value.1 = .complete
  · obtain ⟨_, _, completed, -⟩ := value_hearEnterByte_of_complete node now source byte complete
    rw [completed]
  · rw [value_hearEnterByte_of_incomplete node now source byte complete]

theorem Reposed.hearEnterByte (reposed : node.Reposed now) (source byte : UInt8) :
    (node.hearEnterByte now source byte).value.Reposed now := by
  by_cases complete : (node.enterListener.hear .enter now source byte).value.1 = .complete
  · obtain ⟨_, _, completed, -⟩ := value_hearEnterByte_of_complete node now source byte complete
    rw [completed]
    exact reposed_of_configured rfl rfl
  · rw [value_hearEnterByte_of_incomplete node now source byte complete]
    exact reposed.congr rfl rfl rfl rfl

/-- The turn of the enter request: its repose is kept, the request rests, and the request to leave
is not touched. -/
theorem reposed_runEnterRequest (reposed : node.Reposed now) :
    (node.runEnterRequest now).value.Reposed now ∧
      (node.runEnterRequest now).value.enterRequest.Rests .enter now ∧
      (node.runEnterRequest now).value.exitRequest = node.exitRequest := by
  have rests := node.enterRequest.rests_poll .enter now node.ptu_pos
  rw [runEnterRequest, Reaction.value_bind]
  generalize (node.enterRequest.poll .enter now node.timing.ptu).value = polled at rests ⊢
  have kept : Reposed { node with enterRequest := polled.2 } now := reposed.congr rfl rfl rfl rfl
  cases polled.1 with
  | none => exact ⟨kept, rests, rfl⟩
  | some byte =>
    refine ⟨kept.hearEnterByte _ byte, ?_, exitRequest_hearEnterByte _ now _ byte⟩
    obtain same | served :=
      enterRequest_hearEnterByte_own { node with enterRequest := polled.2 } now byte
    · exact (congrArg (Handshake.Requester.Rests · .enter now) same).mpr rests
    · exact (congrArg (Handshake.Requester.Rests · .enter now) served).mpr
        (Handshake.Requester.rests_of_idle rfl)

/-- A byte of the node's own exit sequence leads out of System Configuration, or nothing but the
listener takes note of it. -/
theorem value_sendExitByte (node : Node) (now : Nat) (byte : UInt8)
    (mode : node.mode = .systemConfiguration) :
    (∃ parting : Node, (node.sendExitByte now (some byte)).value =
        (parting.enterPreOperational now).value ∧ parting.enterRequest = node.enterRequest) ∨
      ∃ exitListener, (node.sendExitByte now (some byte)).value = { node with exitListener } := by
  rw [sendExitByte, Reaction.value_bind, Reaction.value_bind]
  by_cases complete : (node.exitListener.hear .exit now node.address byte).value.1 = .complete
  · rw [value_hearExitByte_of_complete node now _ byte mode complete, value_concludeExit_of_vacated]
    exact .inl ⟨_, rfl, rfl⟩
  · rw [value_hearExitByte_of_incomplete node now _ byte mode complete]
    generalize (node.exitListener.hear .exit now node.address byte).value.2 = exitListener
    by_cases finished : node.exitRequest.finished = true
    · rw [value_concludeExit_of_finished { node with exitListener } now mode finished]
      exact .inl ⟨_, rfl, rfl⟩
    · rw [value_concludeExit_of_unfinished { node with exitListener } now finished]
      exact .inr ⟨exitListener, rfl⟩

/-- The turn of the exit request in System Configuration: the node leaves, or its request rests.
The other request is not touched. -/
theorem reposed_runExitRequest (reposed : node.Reposed now)
    (mode : node.mode = .systemConfiguration) :
    (node.runExitRequest now).value.Reposed now ∧
      (node.runExitRequest now).value.enterRequest = node.enterRequest ∧
      ((node.runExitRequest now).value.mode = .systemConfiguration →
        (node.runExitRequest now).value.exitRequest.Rests .exit now) := by
  have rests := node.exitRequest.rests_poll .exit now node.ptu_pos
  rw [runExitRequest, Reaction.value_bind]
  generalize (node.exitRequest.poll .exit now node.timing.ptu).value = polled at rests ⊢
  cases polled.1 with
  | none => exact ⟨reposed.congr rfl rfl rfl rfl, rfl, fun _ => rests⟩
  | some byte =>
    obtain ⟨parting, left, same⟩ | ⟨listener, stays⟩ :=
      value_sendExitByte { node with exitRequest := polled.2 } now byte mode
    · have outside : Mode.preOperational ≠ .systemConfiguration := by decide
      rw [left]
      exact ⟨reposed_enterPreOperational _ now, same, fun stays => absurd stays outside⟩
    · rw [stays]
      exact ⟨reposed.congr rfl rfl rfl rfl, rfl, fun _ => rests⟩

/-- Outside System Configuration nobody asked to leave it, so both requests rest after the turn of
the first. -/
theorem atRest_runEnterRequest (reposed : node.Reposed now) (withdrawn : node.Withdrawn)
    (outside : node.mode ≠ .systemConfiguration) : (node.runEnterRequest now).value.AtRest now := by
  obtain ⟨kept, rests, same⟩ := reposed_runEnterRequest reposed
  refine ⟨kept, rests, fun _ => ?_⟩
  rw [same]
  exact Handshake.Requester.rests_of_idle (withdrawn outside)

theorem atRest_runRequests (reposed : node.Reposed now) (mode : node.mode = .systemConfiguration) :
    (node.runRequests now).value.AtRest now := by
  obtain ⟨kept, rests, -⟩ := reposed_runEnterRequest reposed
  obtain ⟨still, same, leaving⟩ :=
    reposed_runExitRequest kept (mode_runEnterRequest_of_configuring node now mode)
  refine ⟨still, ?_, leaving⟩
  show ((node.runEnterRequest now).value.runExitRequest now).value.enterRequest.Rests .enter now
  rw [same]
  exact rests

end Requests

section Ticks

variable {node : Node} {now : Nat} {frame : Option Frame}

theorem outside_judgeMaster (mode : node.mode = .preOperational) (now : Nat) :
    (node.judgeMaster now).value.mode ≠ .systemConfiguration := by
  obtain same | promoted := node.mode_judgeMaster now
  · simp [same, mode]
  · simp [promoted]

/-- After their turn nothing is left to the duties of a mode, unless they gave it up. -/
theorem atRest_runTimers (on : node.mode ≠ .powerOff) (withdrawn : node.Withdrawn) :
    (node.runTimers now).value.AtRest now ∨
      ¬ node.Lasting now ∧ (node.runTimers now).value.Reposed now := by
  have silent := silent_runSync node now
  have kept := mode_runSync node now
  unfold runTimers
  cases mode : node.mode with
  | powerOff => exact absurd mode on
  | preOperational =>
    left
    rw [mode] at kept
    have beats : node.Fits ⟨now, .beat⟩ := .inl mode
    have judges : (node.runSync now).value.Fits ⟨now, .judge⟩ := kept
    exact atRest_runEnterRequest (reposed_judgeMaster kept silent)
      ((withdrawn.perform beats).perform judges) (outside_judgeMaster kept now)
  | operational =>
    rw [mode] at kept
    have beats : node.Fits ⟨now, .beat⟩ := .inr mode
    have unasked := withdrawn.perform beats
    dsimp only
    rw [runOperational, Reaction.value_bind, watchSyncs]
    split
    · rename_i expired
      refine .inr ⟨fun lasting => ?_, reposed_enterPreOperational _ now⟩
      have fed := lasting_runSync lasting mode (by simp [kept])
      rw [expired] at fed
      cases fed
    · rename_i running
      left
      refine atRest_runEnterRequest ⟨?_, fun _ => ?_, fun _ => silent, fun waiting => ?_⟩ unasked ?_
      · simp [kept]
      · simpa using running
      · rw [kept] at waiting
        cases waiting
      · simp [kept]
  | systemConfiguration =>
    dsimp only
    unfold runSystemConfiguration
    split
    · rename_i expired
      refine .inr ⟨fun lasting => ?_, reposed_enterPreOperational _ now⟩
      have stays := lasting (by simp [mode])
      rw [expired] at stays
      cases stays
    · rename_i running
      refine .inl (atRest_runRequests ⟨on, fun _ => by simpa using running, fun other => ?_,
        fun waiting => ?_⟩ mode)
      · exact absurd mode other.not_configuring
      · rw [mode] at waiting
        cases waiting

/-- A frame feeds the mode or leaves its deadline alone. -/
theorem lasting_receive? (on : node.mode ≠ .powerOff) (lasting : node.Lasting now)
    (frame : Option Frame) : (node.receive? now frame).value.Lasting now := by
  have moves := moves_perform node ⟨now, .receive frame⟩ on
  rw [perform] at moves
  intro other
  cases moves with
  | rests _ _ mode _ deadline =>
    rw [expired, deadline]
    exact lasting (mode ▸ other)
  | syncs _ _ fed =>
    have watching : node.mode = .operational :=
      fed.synchronizes.resolve_left fun waiting => other (fed.mode.trans waiting)
    exact lasting_of_deadline (fed.watched watching) node.watchdog_pos other
  | opens _ _ _ mode => exact absurd mode other
  | promotes _ _ _ _ _ _ deadline => exact lasting_of_deadline deadline node.watchdog_pos other
  | configures _ _ _ _ deadline => exact lasting_of_deadline deadline (by decide) other

/-- No step switches a node off. -/
theorem on_perform (on : node.mode ≠ .powerOff) {step : Step} (fits : node.Fits step) :
    (node.perform step).value.mode ≠ .powerOff := by
  cases moves_perform node step fits with
  | rests _ _ mode => exact mode ▸ on
  | syncs _ _ fed => exact fed.mode ▸ on
  | opens _ _ _ mode => simp [mode]
  | promotes _ _ _ _ mode => simp [mode]
  | configures _ _ mode => simp [mode]

/-- The timers of a tick find the node on, and a request to leave System Configuration in that mode
only. -/
theorem ready_of_withdrawn (withdrawn : node.Withdrawn) (now : Nat) (frame : Option Frame) :
    (node.ready now frame).mode ≠ .powerOff ∧ (node.ready now frame).Withdrawn := by
  have wakes : node.Fits ⟨now, .wake⟩ := trivial
  have receives : (node.wake now).value.Fits ⟨now, .receive frame⟩ := on_wake node now
  exact ⟨on_perform receives receives, (withdrawn.perform wakes).perform receives⟩

/-- A tick leaves nothing due at its instant but perhaps a byte of the enter sequence. -/
theorem reposed_tick (withdrawn : node.Withdrawn) : (node.tick now frame).value.Reposed now := by
  obtain ⟨on, unasked⟩ := ready_of_withdrawn withdrawn now frame
  show ((node.ready now frame).runTimers now).value.Reposed now
  obtain atRest | ⟨-, reposed⟩ := atRest_runTimers on unasked
  · exact atRest.toReposed
  · exact reposed

/-- The next tick at the instant leaves nothing due. -/
theorem Reposed.atRest_tick (reposed : node.Reposed now) (withdrawn : node.Withdrawn)
    (frame : Option Frame) : (node.tick now frame).value.AtRest now := by
  obtain ⟨on, unasked⟩ := ready_of_withdrawn withdrawn now frame
  have lasting : (node.ready now frame).Lasting now := by
    rw [(node.tick_of_on now frame reposed.on).1]
    exact lasting_receive? reposed.on reposed.lasting frame
  exact (atRest_runTimers on unasked).resolve_right fun left => left.1 lasting

end Ticks

/-- A reaction in which nothing happens to a node. -/
def Idles (node : Node) (reaction : Reaction Node) : Prop :=
  reaction.Quiet ∧ reaction.value = node

section Idle

variable {node : Node} {now : Nat}

theorem Idles.pure (node : Node) : node.Idles (pure node) := ⟨.pure node, rfl⟩

theorem Idles.bind {first : Reaction Node} {second : Node → Reaction Node}
    (start : node.Idles first) (rest : node.Idles (second node)) :
    node.Idles (first >>= second) := by
  obtain ⟨quiet, same⟩ := start
  rw [← same] at rest
  exact ⟨.bind quiet rest.1, rest.2.trans same⟩

theorem idles_judgeMaster (kept : node.timeBase.master.isSome = true →
    (node.timeBase.lost node.station now).value = false ∧ node.expired now = false) :
    node.Idles (node.judgeMaster now) := by
  have quiet := node.timeBase.lost_quiet node.station now
  unfold judgeMaster
  split
  · rename_i held
    obtain ⟨found, early⟩ := kept held
    have stays : node.Idles (node.promoteUnless now false) := by
      rw [promoteUnless, if_neg Bool.false_ne_true, if_neg (by simp [early])]
      exact .pure node
    rw [← found] at stays
    exact ⟨.bind quiet stays.1, stays.2⟩
  · exact .pure node

theorem idles_runEnterRequest (rests : node.enterRequest.Rests .enter now) :
    node.Idles (node.runEnterRequest now) := by
  have quiet := node.enterRequest.poll_quiet .enter now node.timing.ptu
  constructor
  · refine .bind quiet ?_
    rw [rests]
    exact .pure node
  · rw [runEnterRequest, Reaction.value_bind, rests]
    rfl

theorem idles_runExitRequest (rests : node.exitRequest.Rests .exit now) :
    node.Idles (node.runExitRequest now) := by
  have quiet := node.exitRequest.poll_quiet .exit now node.timing.ptu
  constructor
  · refine .bind quiet ?_
    rw [rests]
    exact .pure node
  · rw [runExitRequest, Reaction.value_bind, rests]
    rfl

/-- Where nothing is due a tick does nothing. -/
theorem AtRest.idles (atRest : node.AtRest now) : node.Idles (node.tick now none) := by
  have entering := idles_runEnterRequest atRest.entering
  rw [(node.tick_of_on now none atRest.on).2]
  refine .bind (.pure node) ?_
  unfold runTimers
  split
  · exact .pure node
  · rename_i mode
    exact .bind (runSync_of_not_due node now (atRest.silent (.inl mode)))
      (.bind (idles_judgeMaster (atRest.decided mode)) entering)
  · rename_i mode
    have lasting := atRest.lasting (by simp [mode])
    refine .bind (runSync_of_not_due node now (atRest.silent (.inr mode))) ?_
    rw [watchSyncs, if_neg (by simp [lasting])]
    exact entering
  · rename_i mode
    have lasting := atRest.lasting (by simp [mode])
    rw [runSystemConfiguration, if_neg (by simp [lasting])]
    exact .bind entering (idles_runExitRequest (atRest.leaving mode))

end Idle

end Node

end VehicleBus
