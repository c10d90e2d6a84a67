import VehicleBus.Proofs.Node.Echoes
import VehicleBus.Proofs.Session.Iteration

/-!
The copies of its own frames that a session publishes, against what the bus accepted. A
waiting frame is copied after the bus has accepted it, and only then. The copies of control
frames are told by the tick, before any of the frames is handed over: they are published
together, whatever became of the frames, unless the runner ended over one of them.

So an application hears of its waiting frames only what is true, and of its control frames
what is true as long as the bus loses none.
-/
namespace VehicleBus

/-- Whether the runner goes on after an answer. The frame may have been lost. -/
def Bus.Answer.goesOn : Bus.Answer → Bool
  | .accepted | .failure (.recoverable _) => true
  | .failure (.fatal _) | .crash => false

namespace Occurrence

/-- The frame of an address that was published as a copy. -/
@[simp] def copy? (address : UInt8) : Occurrence → Option Frame
  | published event _ => event.copy? address
  | _ => none

/-- The waiting frame that the bus accepted. -/
@[simp] def carried? : Occurrence → Option Frame
  | queuedSent entry answer => if answer = .accepted then some entry.frame else none
  | _ => none

/-- The control frame that the bus did not accept. -/
@[simp] def lost? : Occurrence → Option Frame
  | controlSent frame answer => if answer = .accepted then none else some frame
  | _ => none

/-- The control frame over which the runner ended. -/
@[simp] def broken? : Occurrence → Option Frame
  | controlSent frame answer => if answer.goesOn then none else some frame
  | _ => none

end Occurrence

/-- What there is to say about a part of a journal, as far as copies go. -/
structure Tally where
  copies : List Frame := []
  controls : List Frame := []
  carried : List Frame := []
  broken : List Frame := []

/-- Two parts of a journal, one after the other. -/
def Tally.append (first second : Tally) : Tally where
  copies := first.copies ++ second.copies
  controls := first.controls ++ second.controls
  carried := first.carried ++ second.carried
  broken := first.broken ++ second.broken

theorem Tally.nothing_append (tally : Tally) : Tally.append {} tally = tally := rfl

namespace Journal

/-- The frames of an address that were published as copies, in order. -/
def copies (address : UInt8) (journal : List Occurrence) : List Frame :=
  journal.filterMap (·.copy? address)

/-- The waiting frames that the bus accepted, in order. -/
def carried (journal : List Occurrence) : List Frame := journal.filterMap Occurrence.carried?

/-- The control frames that the bus did not accept, in order. -/
def lost (journal : List Occurrence) : List Frame := journal.filterMap Occurrence.lost?

/-- The control frames over which the runner ended: one at most. -/
def broken (journal : List Occurrence) : List Frame := journal.filterMap Occurrence.broken?

def tally (address : UInt8) (journal : List Occurrence) : Tally where
  copies := copies address journal
  controls := controls journal
  carried := carried journal
  broken := broken journal

theorem tally_append (address : UInt8) (first second : List Occurrence) :
    tally address (first ++ second) = (tally address first).append (tally address second) := by
  simp [tally, Tally.append, copies, controls, carried, broken]

theorem tally_singleton (address : UInt8) (occurrence : Occurrence) :
    tally address [occurrence] =
      { copies := (occurrence.copy? address).toList
        controls := occurrence.control?.toList
        carried := occurrence.carried?.toList
        broken := occurrence.broken?.toList } := by
  have one (read : Occurrence → Option Frame) : [occurrence].filterMap read =
      (read occurrence).toList := by
    cases told : read occurrence <;> simp [told]
  simp only [tally, copies, controls, carried, broken, one]

/-- The copies of an address show frames of that address. -/
theorem own_of_mem_copies {address : UInt8} {journal : List Occurrence} {frame : Frame}
    (copied : frame ∈ copies address journal) : frame.id.source = address := by
  obtain ⟨occurrence, -, copy⟩ := List.mem_filterMap.mp copied
  match occurrence with
  | .published (.message shown) _ =>
    simp only [Occurrence.copy?, Notification.copy?, Option.ite_none_right_eq_some,
      Option.some.injEq] at copy
    obtain ⟨own, rfl⟩ := copy
    exact own

/-- The bus accepted the control frames that were not lost, and the waiting frames that were
carried. -/
theorem count_accepted (journal : List Occurrence) (frame : Frame) :
    (lost journal).count frame ≤ (controls journal).count frame ∧
      (accepted journal).count frame + (lost journal).count frame =
        (controls journal).count frame + (carried journal).count frame := by
  induction journal with
  | nil => exact ⟨Nat.le_refl _, rfl⟩
  | cons occurrence rest ih =>
    have parts (read : Occurrence → Option Frame) :
        ((occurrence :: rest).filterMap read).count frame = (read occurrence).toList.count frame +
          (rest.filterMap read).count frame := by
      rw [List.filterMap_cons]
      cases read occurrence with
      | none => simp
      | some one => simp [List.count_cons, Nat.add_comm]
    have head : occurrence.lost?.toList.count frame ≤ occurrence.control?.toList.count frame ∧
        occurrence.accepted?.toList.count frame + occurrence.lost?.toList.count frame =
          occurrence.control?.toList.count frame + occurrence.carried?.toList.count frame := by
      cases occurrence with
      | controlSent sent answer => by_cases accepted : answer = .accepted <;>
          simp [Occurrence.accepted?, Occurrence.handed?, Occurrence.control?, accepted]
      | queuedSent entry answer => by_cases accepted : answer = .accepted <;>
          simp [Occurrence.accepted?, Occurrence.handed?, Occurrence.control?, accepted]
      | _ => exact ⟨Nat.le_refl _, rfl⟩
    unfold accepted lost controls carried at ih ⊢
    rw [parts, parts, parts, parts]
    omega

end Journal

namespace Session

/-- A part of an iteration that leaves the node alone, told by what it adds to the journal. -/
def Adds (address : UInt8) (session after : Session) (tally : Tally) : Prop :=
  after.node = session.node ∧
    ∃ turn, after.journal = session.journal ++ turn ∧ Journal.tally address turn = tally

section Parts

variable {address : UInt8} {session : Session}

theorem Adds.nothing {after : Session} (node : after.node = session.node)
    (journal : after.journal = session.journal) : Adds address session after {} :=
  ⟨node, [], journal.trans (List.append_nil _).symm, rfl⟩

theorem Adds.one {after : Session} (occurrence : Occurrence) (node : after.node = session.node)
    (journal : after.journal = session.journal ++ [occurrence]) :
    Adds address session after (Journal.tally address [occurrence]) :=
  ⟨node, [occurrence], journal, rfl⟩

theorem Adds.trans {first second third : Session} {early late : Tally}
    (before : Adds address first second early) (after : Adds address second third late) :
    Adds address first third (early.append late) := by
  obtain ⟨kept, turn, journal, rfl⟩ := before
  obtain ⟨still, rest, more, rfl⟩ := after
  refine ⟨still.trans kept, turn ++ rest, ?_, Journal.tally_append address turn rest⟩
  rw [more, journal, List.append_assoc]

end Parts

section Runner

variable (address : UInt8) (session : Session)

/-- The end of the runner, where an answer ends it, tells nothing of frames. -/
theorem adds_afterAnswer (answer : Bus.Answer) :
    Adds address session (session.afterAnswer answer) {} := by
  match answer with
  | .accepted => exact .nothing rfl rfl
  | .failure (.recoverable _) => exact .nothing rfl rfl
  | .failure (.fatal _) => exact .one .closed rfl rfl
  | .crash => exact .nothing rfl rfl

theorem ending_afterAnswer (answer : Bus.Answer) (running : session.ending = none) :
    (session.afterAnswer answer).ending.isSome = !answer.goesOn := by
  match answer with
  | .accepted => simp [afterAnswer, running, Bus.Answer.goesOn]
  | .failure (.recoverable _) => simp [afterAnswer, running, Bus.Answer.goesOn]
  | .failure (.fatal _) => rfl
  | .crash => rfl

theorem adds_transmitControl (frame : Frame) (running : session.ending = none) :
    ∃ broken,
      Adds address session (session.transmitControl frame) { controls := [frame], broken } ∧
      ((session.transmitControl frame).ending.isSome = true ↔ broken ≠ []) := by
  let answer := session.script.nextAnswer
  let sent := record { session with script := session.script.afterAnswer }
    (.controlSent frame answer)
  have first : Adds address session sent (Journal.tally address [.controlSent frame answer]) :=
    .one _ rfl rfl
  have both := first.trans (sent.adds_afterAnswer address answer)
  have ended : (session.transmitControl frame).ending.isSome = !answer.goesOn :=
    sent.ending_afterAnswer answer running
  refine ⟨if answer.goesOn then [] else [frame], ?_, ?_⟩
  · refine Eq.mp (congrArg (Adds address session _) ?_) both
    cases goes : answer.goesOn <;>
      simp [Tally.append, Journal.tally_singleton, Occurrence.control?, goes]
  · rw [ended]
    cases answer.goesOn <;> simp

/-- A runner that goes on after its control frames has handed all of them over, and has ended
over none. -/
theorem adds_transmitControls (frames : List Frame) (running : session.ending = none) :
    ∃ controls broken,
      Adds address session (session.transmitControls frames) { controls, broken } ∧
        ((session.transmitControls frames).ending.isSome = true ↔ broken ≠ []) ∧
        (broken = [] → controls = frames) := by
  induction frames generalizing session with
  | nil => exact ⟨[], [], .nothing rfl rfl, by simp [transmitControls, running], fun _ => rfl⟩
  | cons frame rest ih =>
    obtain ⟨broken, first, ended⟩ := session.adds_transmitControl address frame running
    unfold transmitControls
    dsimp only
    split
    · rename_i stopped
      have some_broken := ended.mp stopped
      exact ⟨[frame], broken, first, ended, fun none => absurd none some_broken⟩
    · rename_i on
      obtain ⟨controls, later, second, endedLater, all⟩ :=
        ih (session.transmitControl frame) (by simpa using on)
      have unbroken : broken = [] := by simpa using mt ended.mpr on
      refine ⟨frame :: controls, later, ?_, endedLater, fun none => by rw [all none]⟩
      simpa [Tally.append, unbroken] using first.trans second

theorem adds_publish (event : Notification) :
    Adds address session (session.publish event) { copies := (event.copy? address).toList } := by
  have told (kept : Bool) : Journal.tally address [.published event kept] =
      { copies := (event.copy? address).toList } :=
    Journal.tally_singleton address _
  unfold publish
  split
  · exact told true ▸ .one (.published event true) rfl rfl
  · exact told false ▸ .one (.published event false) rfl rfl

theorem adds_publishAll (events : List Notification) :
    Adds address session (session.publishAll events) { copies := ownCopies address events } := by
  induction events generalizing session with
  | nil => exact .nothing rfl rfl
  | cons event rest ih =>
    have both := (session.adds_publish address event).trans (ih (session.publish event))
    refine Eq.mp (congrArg (Adds address session _) ?_) both
    cases copy : event.copy? address <;> simp [Tally.append, ownCopies, copy]

/-- What is told of waiting frames that the bus accepted: their copies, if copies are wanted. -/
def passing (address : UInt8) (node : Node) (carried : List Frame) : Tally where
  copies :=
    if node.config.options.echoOwn = true then
      carried.filter fun frame => decide (frame.id.source = address)
    else []
  carried := carried

/-- A waiting frame is copied after the bus has accepted it, and only then. -/
theorem adds_transmitQueued (entry : Entry) :
    ∃ carried, Adds address session (session.transmitQueued entry)
      (passing address session.node carried) := by
  let answer := session.script.nextAnswer
  let sent := record { session with script := session.script.afterAnswer }
    (.queuedSent entry answer)
  have first : Adds address session sent (Journal.tally address [.queuedSent entry answer]) :=
    .one _ rfl rfl
  have judged := first.trans (sent.adds_afterAnswer address answer)
  have value : session.transmitQueued entry = (sent.afterAnswer answer).echo entry.frame answer :=
    rfl
  have node : (sent.afterAnswer answer).node = session.node := judged.1
  rw [value, echo, node]
  by_cases accepted : answer = .accepted
  · refine ⟨[entry.frame], ?_⟩
    by_cases wanted : session.node.config.options.echoOwn = true
    · rw [if_pos ⟨accepted, wanted⟩]
      refine Eq.mp (congrArg (Adds address session _) ?_)
        (judged.trans ((sent.afterAnswer answer).adds_publish address (.message entry.frame)))
      by_cases own : entry.frame.id.source = address <;>
        simp [Tally.append, passing, wanted, Journal.tally_singleton, Occurrence.control?,
          Notification.copy?, accepted, own]
    · rw [if_neg fun both => wanted both.2]
      refine Eq.mp (congrArg (Adds address session _) ?_) judged
      simp [Tally.append, passing, wanted, Journal.tally_singleton, Occurrence.control?, accepted]
  · refine ⟨[], ?_⟩
    rw [if_neg fun both => accepted both.1]
    refine Eq.mp (congrArg (Adds address session _) ?_) judged
    simp [Tally.append, passing, Journal.tally_singleton, Occurrence.control?, accepted]

theorem passing_of_config {node after : Node} (same : after.config = node.config)
    (carried : List Frame) : passing address after carried = passing address node carried := by
  unfold passing
  rw [same]

theorem adds_pullQueue : Adds address session session.pullQueue {} := by
  refine ⟨rfl, (session.queue.pull session.clock).expired.map .expired, rfl, ?_⟩
  generalize (session.queue.pull session.clock).expired = entries
  induction entries with
  | nil => rfl
  | cons entry rest ih => exact ih

theorem adds_drainQueue :
    ∃ carried, Adds address session session.drainQueue (passing address session.node carried) := by
  have none_passing : passing address session.node [] = {} := by
    unfold passing
    split <;> rfl
  unfold drainQueue
  split
  · split
    · exact ⟨[], none_passing ▸ session.adds_pullQueue address⟩
    · rename_i entry _
      obtain ⟨carried, sent⟩ := session.pullQueue.adds_transmitQueued address entry
      refine ⟨carried, ?_⟩
      rw [← Tally.nothing_append (passing _ _ _)]
      exact (session.adds_pullQueue address).trans sent
  · exact ⟨[], none_passing ▸ .nothing rfl rfl⟩

end Runner

/-- What the copies in a part of a journal say of a node's own frames: all control frames of the
part where they are wanted and none of them ended the runner, and then the waiting frames that
the bus accepted. -/
def Recounts (node : Node) (turn : List Occurrence) : Prop :=
  Journal.copies node.address turn =
    (if node.echoes = true ∧ Journal.broken turn = [] then Journal.controls turn else []) ++
      (passing node.address node (Journal.carried turn)).copies

section Work

variable (session : Session) {node : Node} {turn : List Occurrence}

theorem Recounts.of_config {after : Node} (same : after.config = node.config)
    (recounts : Recounts after turn) : Recounts node turn := by
  unfold Recounts passing Node.echoes Node.address at recounts ⊢
  rwa [same] at recounts

/-- The tally of a part says all that the copies are compared with. -/
theorem recounts_iff {tally : Tally} (told : Journal.tally node.address turn = tally) :
    Recounts node turn ↔ tally.copies =
      (if node.echoes = true ∧ tally.broken = [] then tally.controls else []) ++
        (passing node.address node tally.carried).copies := by
  subst told
  exact Iff.rfl

/-- No frame has more copies than the bus accepted as long as the control frames that were told
of were not lost. -/
theorem Recounts.covered (recounts : Recounts node turn)
    (spared : node.echoes = true → Journal.broken turn = [] → Journal.lost turn = [])
    (frame : Frame) :
    (Journal.copies node.address turn).count frame ≤ (Journal.accepted turn).count frame := by
  obtain ⟨fewer, books⟩ := Journal.count_accepted turn frame
  have passed : (passing node.address node (Journal.carried turn)).copies.count frame ≤
      (Journal.carried turn).count frame := by
    unfold passing
    dsimp only
    split
    · exact List.filter_sublist.count_le frame
    · exact Nat.zero_le _
  unfold Recounts at recounts
  rw [recounts, List.count_append]
  split
  · rename_i told
    rw [spared told.1 told.2, List.count_nil, Nat.add_zero] at books
    omega
  · rw [List.count_nil]
    omega

/-- A lost frame that was told of has its copy all the same, besides those of the frames that
were accepted. -/
theorem Recounts.spared (recounts : Recounts node turn)
    (covered : ∀ frame,
      (Journal.copies node.address turn).count frame ≤ (Journal.accepted turn).count frame)
    (echoes : node.echoes = true) (unbroken : Journal.broken turn = []) :
    Journal.lost turn = [] := by
  have wanted : node.config.options.echoOwn = true := by
    rw [Node.echoes, Bool.and_eq_true] at echoes
    exact echoes.1
  unfold Recounts passing at recounts
  rw [if_pos ⟨echoes, unbroken⟩, if_pos wanted] at recounts
  refine List.eq_nil_iff_forall_not_mem.mpr fun frame lost => ?_
  have missing := List.count_pos_iff.mpr lost
  have counted := covered frame
  obtain ⟨fewer, books⟩ := Journal.count_accepted turn frame
  have told : frame ∈ Journal.copies node.address turn := by
    rw [recounts]
    exact List.mem_append_left _ (List.count_pos_iff.mp (by omega))
  have kept : ((Journal.carried turn).filter fun frame =>
      decide (frame.id.source = node.address)).count frame = (Journal.carried turn).count frame :=
    List.count_filter (by simp [Journal.own_of_mem_copies told])
  rw [recounts, List.count_append, kept] at counted
  omega

/-- The preparation of an iteration says nothing of copies. -/
theorem tally_of_plain (address : UInt8) (plain : ∀ occurrence ∈ turn, occurrence.Plain) :
    Journal.tally address turn = {} := by
  simp only [Journal.tally, Journal.copies, Journal.controls, Journal.carried, Journal.broken]
  congr <;> exact Journal.filterMap_of_plain _ plain (fun _ => rfl) (fun _ => rfl) rfl

/-- So it may come before. -/
theorem Recounts.after_plain {early : List Occurrence}
    (plain : ∀ occurrence ∈ early, occurrence.Plain) (recounts : Recounts node turn) :
    Recounts node (early ++ turn) := by
  have same : Journal.tally node.address (early ++ turn) = Journal.tally node.address turn := by
    rw [Journal.tally_append, tally_of_plain node.address plain, Tally.nothing_append]
  rw [recounts_iff same]
  exact recounts

/-- The runner's work after a tick. The copies of the control frames wait in the outbox while
the frames themselves are handed over. -/
theorem recounts_carryOut (frame : Option Frame) (running : session.ending = none)
    (ticked : session.node = (node.tick session.clock frame).value) :
    ∃ turn, (session.carryOut (node.tick session.clock frame).outbox).journal =
        session.journal ++ turn ∧ Recounts node turn := by
  have mirrors := node.mirrors_tick session.clock frame
  have shown : Adds node.address session session.showStatus {} := .one (.shown _) rfl rfl
  obtain ⟨controls, broken, sent, ended, all⟩ := session.showStatus.adds_transmitControls
    node.address (node.tick session.clock frame).outbox.transmit running
  have handed := shown.trans sent
  unfold carryOut
  dsimp only
  split
  · rename_i stopped
    obtain ⟨-, turn, journal, tally⟩ := handed
    refine ⟨turn, journal, (recounts_iff tally).mpr ?_⟩
    simp [Tally.append, passing, ended.mp stopped]
  · rename_i on
    have unbroken : broken = [] := by simpa using mt ended.mpr on
    have all := all unbroken
    have told := adds_publishAll node.address
      (session.showStatus.transmitControls (node.tick session.clock frame).outbox.transmit)
      (node.tick session.clock frame).outbox.events
    generalize publishAll _ _ = ready at told ⊢
    obtain ⟨carried, drained⟩ := ready.adds_drainQueue node.address
    have config : ready.node.config = node.config := by
      rw [told.1, handed.1, ticked, mirrors.config]
    rw [passing_of_config node.address config] at drained
    obtain ⟨-, turn, journal, tally⟩ := (handed.trans told).trans drained
    refine ⟨turn, journal, (recounts_iff tally).mpr ?_⟩
    simp [Tally.append, passing, unbroken, all, Reaction.outbox, mirrors.copies]

theorem recounts_nil (node : Node) : Recounts node [] := by
  simp [Recounts, passing, Journal.copies, Journal.controls, Journal.carried]

/-- What an iteration adds to the journal, and what the copies in it say. -/
theorem recounts_iterate :
    ∃ turn, session.iterate.journal = session.journal ++ turn ∧ Recounts session.node turn := by
  cases session.comes_iterate with
  | rests turn prepares =>
    have recounts := (recounts_nil session.node).after_plain prepares.plain
    rw [List.append_nil] at recounts
    exact ⟨turn, prepares.journal, recounts⟩
  | ticks early ready frame prepares running ticked carried =>
    rw [← prepares.clock] at ticked carried
    obtain ⟨turn, journal, recounts⟩ := ready.recounts_carryOut frame running ticked
    rw [← carried, prepares.journal, List.append_assoc] at journal
    have served : Recounts session.node turn := recounts.of_config session.config_served
    exact ⟨early ++ turn, journal, served.after_plain prepares.plain⟩

/-- Nothing is published but by an iteration. -/
theorem uncopied_react_of_other (address : UInt8) (input : Input) (other : input ≠ .iterate) :
    ∃ turn, (session.react input).journal = session.journal ++ turn ∧
      Journal.copies address turn = [] := by
  cases session.aside_react input other with
  | unmoved journal => exact ⟨[], journal.trans (List.append_nil _).symm, rfl⟩
  | enqueued outgoing _ _ journal => exact ⟨_, journal, rfl⟩
  | taken event _ journal => exact ⟨_, journal, rfl⟩

end Work

end Session

/-- An iteration of any session publishes the copies of all control frames that it handed over,
if they are wanted and none of them ended the runner, and then the copies of the waiting frames
that the bus accepted; no other input publishes a copy. So no frame has more copies than the bus
accepted in the iteration exactly if the bus lost no control frame whose copy was published. -/
theorem copies_follow_the_bus (session : Session) :
    let turn := session.iterate.since session
    let copies := Journal.copies session.address turn
    let options := session.node.config.options
    let told := options.echoOwn = true ∧ options.deliverControl = true ∧ Journal.broken turn = []
    copies =
        (if told then Journal.controls turn else []) ++
        (if options.echoOwn = true then
          (Journal.carried turn).filter fun frame => decide (frame.id.source = session.address)
        else []) ∧
      ((∀ frame, copies.count frame ≤ (Journal.accepted turn).count frame) ↔
        (told → Journal.lost turn = [])) ∧
      ∀ input, input ≠ .iterate →
        Journal.copies session.address ((session.react input).since session) = [] := by
  intro turn copies options told
  obtain ⟨journal, append, recounts⟩ := session.recounts_iterate
  have since : turn = journal := by
    show session.iterate.since session = journal
    rw [Session.since, append, List.drop_left]
  rw [← since] at recounts
  have wanted : told ↔ session.node.echoes = true ∧ Journal.broken turn = [] := by
    rw [Node.echoes, Bool.and_eq_true, and_assoc]
  refine ⟨?_, ⟨fun covered wants => ?_, fun spared => ?_⟩, fun input other => ?_⟩
  · simp only [wanted]
    exact recounts
  · obtain ⟨echoes, unbroken⟩ := wanted.mp wants
    exact recounts.spared covered echoes unbroken
  · exact recounts.covered fun echoes unbroken => spared (wanted.mpr ⟨echoes, unbroken⟩)
  · obtain ⟨rest, append, none⟩ := session.uncopied_react_of_other session.address input other
    rw [Session.since, append, List.drop_left, none]

/-- A master that wants all copies gets that of its first sync, which the bus accepted. -/
theorem ten_gets_a_copy_of_its_sync :
    let options : Options := { syncMaster := true, echoOwn := true, deliverControl := true }
    let config : Config := { Config.candidate 10 (by decide) with options }
    let session := (Session.ofNode (Node.start config 0).value 0).run [.iterate, .advance 7813]
    let turn := session.iterate.since session
    Journal.copies session.address turn = [Frame.sync 10 1] ∧
      ∀ frame, (Journal.copies session.address turn).count frame ≤
        (Journal.accepted turn).count frame := by
  have ran :
      let options : Options := { syncMaster := true, echoOwn := true, deliverControl := true }
      let config : Config := { Config.candidate 10 (by decide) with options }
      let session := (Session.ofNode (Node.start config 0).value 0).run [.iterate, .advance 7813]
      let turn := session.iterate.since session
      Journal.copies session.address turn = [Frame.sync 10 1] ∧ Journal.lost turn = [] := by
    decide +kernel
  exact ⟨ran.1, (copies_follow_the_bus _).2.1.mpr fun _ => ran.2⟩

/-- If the bus loses that sync, the application gets the copy all the same. -/
theorem ten_gets_a_copy_of_its_lost_sync :
    let options : Options := { syncMaster := true, echoOwn := true, deliverControl := true }
    let config : Config := { Config.candidate 10 (by decide) with options }
    let session := (Session.ofNode (Node.start config 0).value 0).run
      [.iterate, .advance 7813, .expectAnswers [.failure (.recoverable "no buffer")]]
    let turn := session.iterate.since session
    .published (.message (Frame.sync 10 1)) true ∈ turn ∧ Journal.accepted turn = [] := by
  decide +kernel

end VehicleBus
