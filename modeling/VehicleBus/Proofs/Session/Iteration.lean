import VehicleBus.Proofs.Session.Inputs

/-!
What one iteration of the runner does with the waiting frames. Serving requests, asking
the bus, ticking, showing the status, handing over control frames and publishing leave
them alone; only the end of an iteration, reached when everything before it went well,
takes frames out of the queue. It drops what has expired and hands over one live frame at
most.

The work of an iteration is a list of occurrences appended to the journal, part by part.
-/
namespace VehicleBus

namespace Occurrence

/-- The waiting frame that was dropped. -/
def dropped? : Occurrence → Option Entry
  | expired entry => some entry
  | _ => none

/-- The waiting frame that was handed to the bus. -/
def queued? : Occurrence → Option Entry
  | queuedSent entry _ => some entry
  | _ => none

/-- The control frame that was handed to the bus. -/
def control? : Occurrence → Option Frame
  | controlSent frame _ => some frame
  | _ => none

end Occurrence

namespace Journal

/-- The waiting frames that were dropped, in order. -/
def dropped (journal : List Occurrence) : List Entry := journal.filterMap Occurrence.dropped?

/-- The waiting frames that were handed to the bus, in order. -/
def handed (journal : List Occurrence) : List Entry := journal.filterMap Occurrence.queued?

/-- The control frames that were handed to the bus, in order. -/
def controls (journal : List Occurrence) : List Frame := journal.filterMap Occurrence.control?

section Append

variable (first second : List Occurrence)

@[simp] theorem dropped_append : dropped (first ++ second) = dropped first ++ dropped second :=
  List.filterMap_append

@[simp] theorem handed_append : handed (first ++ second) = handed first ++ handed second :=
  List.filterMap_append

@[simp] theorem controls_append :
    controls (first ++ second) = controls first ++ controls second :=
  List.filterMap_append

end Append

theorem dropped_map_expired (entries : List Entry) : dropped (entries.map .expired) = entries := by
  induction entries with
  | nil => rfl
  | cons entry rest ih => exact congrArg (entry :: ·) ih

theorem handed_map_expired (entries : List Entry) : handed (entries.map .expired) = [] := by
  induction entries with
  | nil => rfl
  | cons entry rest ih => exact ih

theorem controls_map_expired (entries : List Entry) : controls (entries.map .expired) = [] := by
  induction entries with
  | nil => rfl
  | cons entry rest ih => exact ih

/-- Preparing an iteration moves no frame. -/
theorem unmoved_of_plain {turn : List Occurrence}
    (plain : ∀ occurrence ∈ turn, occurrence.Plain) :
    dropped turn = [] ∧ handed turn = [] ∧ controls turn = [] := by
  refine ⟨?_, ?_, ?_⟩ <;>
    exact filterMap_of_plain _ plain (fun _ => rfl) (fun _ => rfl) rfl

end Journal

namespace Session

/-- Work that leaves the waiting frames, the node, the clock and the status alone, told by
what it adds to the journal. -/
structure Spares (session after : Session) (turn : List Occurrence) : Prop where
  journal : after.journal = session.journal ++ turn
  queue : after.queue = session.queue
  node : after.node = session.node
  clock : after.clock = session.clock
  status : after.status = session.status
  dropped : Journal.dropped turn = []
  handed : Journal.handed turn = []

theorem Spares.refl (session : Session) : session.Spares session [] :=
  ⟨(List.append_nil _).symm, rfl, rfl, rfl, rfl, rfl, rfl⟩

theorem Spares.trans {first second third : Session} {early late : List Occurrence}
    (before : first.Spares second early) (after : second.Spares third late) :
    first.Spares third (early ++ late) where
  journal := by rw [after.journal, before.journal, List.append_assoc]
  queue := after.queue.trans before.queue
  node := after.node.trans before.node
  clock := after.clock.trans before.clock
  status := after.status.trans before.status
  dropped := by rw [Journal.dropped_append, before.dropped, after.dropped, List.nil_append]
  handed := by rw [Journal.handed_append, before.handed, after.handed, List.nil_append]

section Parts

variable (session : Session)

/-- What ends a runner hands no control frame over. -/
theorem spares_afterAnswer (answer : Bus.Answer) :
    ∃ turn, session.Spares (session.afterAnswer answer) turn ∧ Journal.controls turn = [] := by
  match answer with
  | .accepted => exact ⟨[], .refl session, rfl⟩
  | .failure (.recoverable _) => exact ⟨[], .refl session, rfl⟩
  | .failure (.fatal _) => exact ⟨[.closed], ⟨rfl, rfl, rfl, rfl, rfl, rfl, rfl⟩, rfl⟩
  | .crash =>
    exact ⟨[], ⟨(List.append_nil _).symm, rfl, rfl, rfl, rfl, rfl, rfl⟩, rfl⟩

theorem spares_publish (event : Notification) :
    ∃ turn, session.Spares (session.publish event) turn ∧ Journal.controls turn = [] := by
  unfold publish
  split
  · exact ⟨[.published event true], ⟨rfl, rfl, rfl, rfl, rfl, rfl, rfl⟩, rfl⟩
  · exact ⟨[.published event false], ⟨rfl, rfl, rfl, rfl, rfl, rfl, rfl⟩, rfl⟩

theorem spares_publishAll (events : List Notification) :
    ∃ turn, session.Spares (session.publishAll events) turn ∧ Journal.controls turn = [] := by
  induction events generalizing session with
  | nil => exact ⟨[], .refl session, rfl⟩
  | cons event rest ih =>
    obtain ⟨early, first, none⟩ := session.spares_publish event
    obtain ⟨late, second, noneLater⟩ := ih (session.publish event)
    exact ⟨early ++ late, first.trans second, by rw [Journal.controls_append, none, noneLater]; rfl⟩

theorem spares_echo (frame : Frame) (answer : Bus.Answer) :
    ∃ turn, session.Spares (session.echo frame answer) turn ∧ Journal.controls turn = [] := by
  unfold echo
  split
  · exact session.spares_publish (.message frame)
  · exact ⟨[], .refl session, rfl⟩

theorem spares_transmitControl (frame : Frame) :
    ∃ turn, session.Spares (session.transmitControl frame) turn ∧
      Journal.controls turn = [frame] := by
  let sent := record { session with script := session.script.afterAnswer }
    (.controlSent frame session.script.nextAnswer)
  have first : session.Spares sent [.controlSent frame session.script.nextAnswer] :=
    ⟨rfl, rfl, rfl, rfl, rfl, rfl, rfl⟩
  obtain ⟨late, rest, none⟩ := sent.spares_afterAnswer session.script.nextAnswer
  exact ⟨_, first.trans rest, congrArg (frame :: ·) none⟩

/-- A runner that goes on after its control frames has handed all of them over. -/
theorem spares_transmitControls (frames : List Frame) :
    ∃ turn, session.Spares (session.transmitControls frames) turn ∧
      ((session.transmitControls frames).ending.isSome = false →
        Journal.controls turn = frames) := by
  induction frames generalizing session with
  | nil => exact ⟨[], .refl session, fun _ => rfl⟩
  | cons frame rest ih =>
    obtain ⟨early, first, one⟩ := session.spares_transmitControl frame
    unfold transmitControls
    dsimp only
    split
    · rename_i ended
      exact ⟨early, first, fun running => by simp [running] at ended⟩
    · obtain ⟨late, second, others⟩ := ih (session.transmitControl frame)
      refine ⟨early ++ late, first.trans second, fun running => ?_⟩
      rw [Journal.controls_append, one, others running]
      rfl

end Parts

/-- The end of an iteration, told by what it adds to the journal: what had expired is
dropped, and then one live frame is handed over if there is one. -/
structure Drains (session after : Session) (turn : List Occurrence) : Prop where
  journal : after.journal = session.journal ++ turn
  queue : after.queue = session.queue.afterPull session.clock
  node : after.node = session.node
  status : after.status = session.status
  lapsed : Journal.dropped turn = (session.queue.pull session.clock).expired
  handed : Journal.handed turn = (session.queue.pull session.clock).found.toList
  controls : Journal.controls turn = []

section Queue

variable (session : Session)

theorem drains_pullQueue (nothing : (session.queue.pull session.clock).found = none) :
    session.Drains session.pullQueue
      ((session.queue.pull session.clock).expired.map .expired) where
  journal := rfl
  queue := rfl
  node := rfl
  status := rfl
  lapsed := Journal.dropped_map_expired _
  handed := by rw [Journal.handed_map_expired, nothing]; rfl
  controls := Journal.controls_map_expired _

theorem drains_transmitQueued (entry : Entry)
    (found : (session.queue.pull session.clock).found = some entry) :
    ∃ turn, session.Drains (session.pullQueue.transmitQueued entry) turn := by
  let answer := session.script.nextAnswer
  let sent := record { session.pullQueue with script := session.script.afterAnswer }
    (.queuedSent entry answer)
  obtain ⟨early, judged, none⟩ := sent.spares_afterAnswer answer
  obtain ⟨late, echoed, noneLater⟩ := (sent.afterAnswer answer).spares_echo entry.frame answer
  have rest := judged.trans echoed
  refine ⟨(session.queue.pull session.clock).expired.map .expired ++
    .queuedSent entry answer :: (early ++ late), ?_, rest.queue, rest.node, rest.status, ?_, ?_, ?_⟩
  · refine rest.journal.trans ?_
    simp [sent, record, pullQueue]
  · rw [Journal.dropped_append, Journal.dropped_map_expired]
    show _ ++ Journal.dropped (early ++ late) = _
    rw [rest.dropped, List.append_nil]
  · rw [Journal.handed_append, Journal.handed_map_expired, found]
    exact congrArg (entry :: ·) rest.handed
  · rw [Journal.controls_append, Journal.controls_map_expired]
    show Journal.controls (early ++ late) = _
    rw [Journal.controls_append, none, noneLater, List.append_nil]

theorem drainQueue_cases :
    session.drainQueue = session ∨
      session.node.drains = true ∧ ∃ turn, session.Drains session.drainQueue turn := by
  unfold drainQueue
  split
  · rename_i traffic
    refine .inr ⟨traffic, ?_⟩
    cases found : (session.queue.pull session.clock).found with
    | none => exact ⟨_, session.drains_pullQueue found⟩
    | some entry => exact session.drains_transmitQueued entry found
  · exact .inl rfl

end Queue

/-- What an iteration does with a queue at an instant: nothing, or it gets as far as the
queue, in a mode that carries traffic and with all control frames of its tick handed over. -/
inductive Works (queue : TransmitQueue) (now : Nat) (node : Node) (after : Session)
    (turn : List Occurrence) : Prop where
  | idle (same : after.queue = queue) (dropped : Journal.dropped turn = [])
      (handed : Journal.handed turn = [])
  | drained (early late : List Occurrence) (parts : turn = early ++ late)
      (pulled : after.queue = queue.afterPull now)
      (traffic : after.status.mode.carriesTraffic = true) (shown : .shown after.status ∈ early)
      (ticked : ∃ frame, after.node = (node.tick now frame).value ∧
        Journal.controls early = (node.tick now frame).transmit)
      (unlapsed : Journal.dropped early = []) (unhanded : Journal.handed early = [])
      (lapsed : Journal.dropped late = (queue.pull now).expired)
      (handed : Journal.handed late = (queue.pull now).found.toList)
      (controls : Journal.controls late = [])

/-- The preparation of an iteration may come before. -/
theorem Works.after_plain {queue : TransmitQueue} {now : Nat} {node : Node} {after : Session}
    {turn early : List Occurrence} (plain : ∀ occurrence ∈ early, occurrence.Plain)
    (works : Works queue now node after turn) : Works queue now node after (early ++ turn) := by
  obtain ⟨undropped, unhanded, uncontrolled⟩ := Journal.unmoved_of_plain plain
  cases works with
  | idle same dropped handed =>
    refine .idle same ?_ ?_
    · rw [Journal.dropped_append, undropped, dropped, List.nil_append]
    · rw [Journal.handed_append, unhanded, handed, List.nil_append]
  | drained first late parts pulled traffic shown ticked unlapsed none lapsed handed controls =>
    refine .drained (early ++ first) late ?_ pulled traffic (List.mem_append_right _ shown) ?_
      ?_ ?_ lapsed handed controls
    · rw [parts, List.append_assoc]
    · rw [Journal.controls_append, uncontrolled, List.nil_append]
      exact ticked
    · rw [Journal.dropped_append, undropped, unlapsed, List.nil_append]
    · rw [Journal.handed_append, unhanded, none, List.nil_append]

section Work

variable (session : Session)

/-- The end of an iteration that got as far as the queue, after all that was shown, handed
over and published. -/
theorem works_drainQueue {ready : Session} {turn : List Occurrence} {node : Node}
    {frame : Option Frame} (spares : session.showStatus.Spares ready turn)
    (ticked : session.node = (node.tick session.clock frame).value)
    (controls : Journal.controls turn = (node.tick session.clock frame).transmit) :
    ∃ turn, ready.drainQueue.journal = session.journal ++ turn ∧
      Works session.queue session.clock node ready.drainQueue turn := by
  have queue : ready.queue = session.queue := spares.queue
  have clock : ready.clock = session.clock := spares.clock
  have status : ready.status = session.node.status := spares.status
  have shown : ready.journal = session.journal ++ .shown session.node.status :: turn := by
    refine spares.journal.trans ?_
    simp [showStatus, record]
  obtain same | ⟨traffic, late, drains⟩ := ready.drainQueue_cases
  · rw [same]
    exact ⟨_, shown, .idle queue spares.dropped spares.handed⟩
  · have pulled := drains.queue
    have lapsed := drains.lapsed
    have handed := drains.handed
    rw [queue, clock] at pulled lapsed handed
    refine ⟨.shown session.node.status :: turn ++ late, ?_, .drained _ late rfl pulled ?_ ?_ ?_
      spares.dropped spares.handed lapsed handed drains.controls⟩
    · rw [drains.journal, shown, List.append_assoc]
    · rw [drains.status, status]
      exact (congrArg Node.drains spares.node).symm.trans traffic
    · rw [drains.status, status]
      exact List.mem_cons_self
    · exact ⟨frame, (drains.node.trans spares.node).trans ticked, controls⟩

/-- The runner's work after a tick. -/
theorem works_carryOut (node : Node) (frame : Option Frame)
    (ticked : session.node = (node.tick session.clock frame).value) :
    ∃ turn, (session.carryOut (node.tick session.clock frame).outbox).journal =
        session.journal ++ turn ∧
      Works session.queue session.clock node
        (session.carryOut (node.tick session.clock frame).outbox) turn := by
  let outbox := (node.tick session.clock frame).outbox
  obtain ⟨sent, controls, all⟩ := session.showStatus.spares_transmitControls outbox.transmit
  unfold carryOut
  dsimp only
  split
  · refine ⟨.shown session.node.status :: sent, ?_, .idle controls.queue controls.dropped
      controls.handed⟩
    refine controls.journal.trans ?_
    simp [showStatus, record]
  · rename_i running
    obtain ⟨told, published, none⟩ :=
      (session.showStatus.transmitControls outbox.transmit).spares_publishAll outbox.events
    refine session.works_drainQueue (controls.trans published) ticked ?_
    rw [Journal.controls_append, none, List.append_nil]
    exact all (by simpa using running)

/-- What an iteration adds to the journal, and what becomes of the waiting frames in it. -/
theorem works_iterate :
    ∃ turn, session.iterate.journal = session.journal ++ turn ∧
      Works session.queue session.clock session.served.value session.iterate turn := by
  cases session.comes_iterate with
  | rests turn prepares =>
    obtain ⟨undropped, unhanded, -⟩ := Journal.unmoved_of_plain prepares.plain
    exact ⟨turn, prepares.journal, .idle prepares.queue undropped unhanded⟩
  | ticks early ready frame prepares _ ticked carried =>
    rw [← prepares.clock] at ticked carried
    obtain ⟨turn, journal, works⟩ := ready.works_carryOut session.served.value frame ticked
    rw [← carried, prepares.journal, List.append_assoc] at journal
    rw [← carried, prepares.queue, prepares.clock] at works
    exact ⟨early ++ turn, journal, works.after_plain prepares.plain⟩

end Work

end Session

end VehicleBus
