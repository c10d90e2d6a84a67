import VehicleBus.Proofs.Session.Inbox

/-!
What an application gets back of the frames that its session sends. Without the option nothing of
the session's own address reaches the inbound queue, from the bus or from the runner, so nothing
of it is ever taken. With the option each waiting frame that the bus accepted is published once,
right then, and what was kept of it is taken in its turn.
-/
namespace VehicleBus

namespace Journal

theorem mem_published_of_kept {journal : List Occurrence} {event : Notification}
    (member : event ∈ kept journal) : event ∈ published journal := by
  obtain ⟨occurrence, among, same⟩ := List.mem_filterMap.mp member
  cases occurrence with
  | published told kept =>
    simp only [Occurrence.kept?, Option.ite_none_right_eq_some, Option.some.injEq] at same
    exact List.mem_filterMap.mpr ⟨_, among, congrArg some same.2⟩
  | _ => cases same

/-- What was kept and not taken waits. -/
theorem waiting_eq {journal : List Occurrence} {inbound : List Notification}
    (fifo : kept journal = taken journal ++ inbound) : waiting journal = inbound := by
  rw [waiting, fifo, List.drop_left]

end Journal

namespace Session

/-- An input takes a notification, or adds to the journal as a part of an iteration does. Only an
iteration publishes. -/
theorem fills_react_of_other (session : Session) (input : Input) (other : input ≠ .iterate) :
    (∃ turn, session.Fills (session.react input) turn [] []) ∨
      input = .receive ∧ ∃ event, session.inbound = event :: (session.react input).inbound ∧
        (session.react input).journal = session.journal ++ [.taken event] ∧
        (session.react input).node = session.node := by
  cases session.aside_react input other with
  | unmoved journal _ inbound node =>
    exact .inl ⟨[], .nothing (congrArg Node.config node) journal inbound⟩
  | enqueued outgoing _ _ journal _ inbound node =>
    exact .inl ⟨_, fills_of_mute _ (by simp) (congrArg Node.config node) journal inbound⟩
  | taken event given journal _ oldest node => exact .inr ⟨given, event, oldest, journal, node⟩

/-- A session that was opened with a configuration. What was kept was taken, in order, or waits; a
notification was kept exactly if there was room for it; and of the session's own frames those that
the bus accepted were published where copies are wanted, and none where they are not. -/
structure Keeps (config : Config) (session : Session) : Prop where
  opened : session.node.config = config
  fifo : Journal.kept session.journal = Journal.taken session.journal ++ session.inbound
  room : ∀ before event kept after, session.journal = before ++ .published event kept :: after →
    (kept = true ↔ (Journal.waiting before).length < maxInbound)
  echoed : config.options.echoOwn = true → Journal.Echoed session.journal
  uncopied : config.options.echoOwn = false →
    ownCopies config.address (Journal.published session.journal) = []

namespace Keeps

variable {config : Config} {session after : Session}

theorem start (config : Config) (origin : Nat) :
    (ofNode (Node.start config origin).value origin).Keeps config := by
  constructor
  · rfl
  · rfl
  · intro before event kept after split
    exact absurd split.symm (by simp [ofNode])
  · intro _ before entry after split
    exact absurd split.symm (by simp [ofNode])
  · exact fun _ => rfl

/-- A part of an iteration keeps the books. -/
theorem of_fills (keeps : session.Keeps config) {turn : List Occurrence}
    {events : List Notification} {carried : List Frame}
    (fills : session.Fills after turn events carried)
    (uncopied : config.options.echoOwn = false → ownCopies config.address events = []) :
    after.Keeps config := by
  constructor
  · exact fills.config.trans keeps.opened
  · rw [fills.journal, fills.inbound, Journal.kept_append, Journal.taken_append, keeps.fifo,
      fills.untaken, List.append_nil, List.append_assoc]
  · intro before event kept rest split
    rw [fills.journal] at split
    rcases Journal.split_append split with ⟨_, inside, -⟩ | ⟨between, rfl, inside⟩
    · exact keeps.room before event kept _ inside
    · have untaken := fills.untaken
      rw [inside, Journal.taken_append] at untaken
      have waiting : Journal.waiting (session.journal ++ between) =
          session.inbound ++ Journal.kept between := by
        apply Journal.waiting_eq
        rw [Journal.kept_append, Journal.taken_append, keeps.fifo,
          (List.append_eq_nil_iff.mp untaken).1, List.append_nil, List.append_assoc]
      rw [waiting]
      exact fills.roomy between event kept rest inside
  · intro wanted
    rw [fills.journal]
    exact (keeps.echoed wanted).append (fills.echoed (by rwa [keeps.opened]))
  · intro unwanted
    rw [fills.journal, Journal.published_append, ownCopies_append, keeps.uncopied unwanted,
      fills.published, uncopied unwanted]
    rfl

/-- Taking the oldest notification keeps the books. -/
theorem of_taken (keeps : session.Keeps config) {event : Notification}
    (oldest : session.inbound = event :: after.inbound)
    (journal : after.journal = session.journal ++ [.taken event])
    (node : after.node = session.node) : after.Keeps config := by
  -- Everything but the last occurrence stood in the journal before.
  have earlier {before rest : List Occurrence} {occurrence : Occurrence}
      (other : occurrence ≠ .taken event)
      (split : after.journal = before ++ occurrence :: rest) :
      ∃ between, session.journal = before ++ occurrence :: between ∧
        rest = between ++ [.taken event] := by
    rw [journal] at split
    rcases Journal.split_append split with inside | ⟨between, -, same⟩
    · exact inside
    · rcases List.append_eq_singleton_iff.mp same.symm with ⟨-, last⟩ | ⟨-, none⟩
      · exact absurd (List.cons.inj last).1 other
      · cases none
  constructor
  · rw [node, keeps.opened]
  · rw [journal, Journal.kept_append, Journal.taken_append, keeps.fifo, oldest]
    simp [Journal.kept, Journal.taken]
  · intro before told kept rest split
    obtain ⟨between, inside, -⟩ := earlier (by simp) split
    exact keeps.room before told kept between inside
  · intro wanted before entry rest split
    obtain ⟨between, inside, rfl⟩ := earlier (by simp) split
    obtain ⟨kept, more, rfl⟩ := keeps.echoed wanted before entry between inside
    exact ⟨kept, more ++ [.taken event], rfl⟩
  · intro unwanted
    rw [journal, Journal.published_append, ownCopies_append, keeps.uncopied unwanted]
    rfl

/-- Without the option nothing that an iteration publishes is a copy: the tick tells none, and the
runner adds none. -/
theorem iterate (keeps : session.Keeps config) : session.iterate.Keeps config := by
  obtain ⟨turn, told, carried, fills, ticked⟩ := session.fills_iterate
  apply keeps.of_fills fills
  intro unwanted
  have uncopied : session.node.config.copies carried = [] := by
    rw [keeps.opened]
    exact if_neg (by simp [unwanted])
  rw [uncopied, List.append_nil]
  rcases ticked with rfl | ⟨frame, rfl⟩
  · rfl
  · have opened : session.served.value.config = config :=
      session.config_served.trans keeps.opened
    have mirrors := (session.served.value.mirrors_tick session.clock frame).copies
    have mute : session.served.value.echoes = false := by simp [Node.echoes, opened, unwanted]
    rw [Node.address, opened, mute] at mirrors
    exact mirrors

theorem react (keeps : session.Keeps config) (input : Input) :
    (session.react input).Keeps config := by
  by_cases iterated : input = .iterate
  · rw [iterated]
    exact keeps.iterate
  · rcases session.fills_react_of_other input iterated with
      ⟨turn, fills⟩ | ⟨-, event, oldest, journal, node⟩
    · exact keeps.of_fills fills fun _ => rfl
    · exact keeps.of_taken oldest journal node

theorem run (keeps : session.Keeps config) (inputs : List Input) :
    (session.run inputs).Keeps config := by
  induction inputs generalizing session with
  | nil => exact keeps
  | cons input rest ih => exact ih (keeps.react input)

/-- Waiting for a notification is a number of iterations. -/
theorem awaitEvent (keeps : session.Keeps config) (count : Nat) :
    (session.awaitEvent count).Keeps config := by
  obtain ⟨made, same⟩ := session.exists_awaitEvent count
  rw [same, ← run_replicate_iterate]
  exact keeps.run _

/-- What was taken or waits was published. -/
theorem published_of_mem (keeps : session.Keeps config) {event : Notification}
    (member : event ∈ Journal.taken session.journal ++ session.inbound) :
    event ∈ Journal.published session.journal := by
  rw [← keeps.fifo] at member
  exact Journal.mem_published_of_kept member

/-- Without the option no frame of the session's own was taken or waits. -/
theorem foreign (keeps : session.Keeps config) (unwanted : config.options.echoOwn = false)
    {frame : Frame}
    (member : .message frame ∈ Journal.taken session.journal ++ session.inbound) :
    frame.id.source ≠ config.address := by
  intro own
  have copied : frame ∈ ownCopies config.address (Journal.published session.journal) :=
    List.mem_filterMap.mpr ⟨.message frame, keeps.published_of_mem member, if_pos own⟩
  rw [keeps.uncopied unwanted] at copied
  cases copied

/-- So the application does not get one, either. -/
theorem foreign_of_receive (keeps : session.Keeps config)
    (unwanted : config.options.echoOwn = false) {frame : Frame}
    (received : session.receive.1 = some (.message frame)) :
    frame.id.source ≠ config.address := by
  apply keeps.foreign unwanted
  unfold receive at received
  split at received
  · cases received
  · rename_i event rest waiting
    rw [waiting, Option.some.inj received]
    exact List.mem_append_right _ List.mem_cons_self

end Keeps

/-- No frame of the session's own address has reached the application, and none reaches it if it
takes a notification now, takes all of them or waits for one. -/
structure Filtered (session : Session) (frame : Frame) : Prop where
  untaken : .taken (.message frame) ∉ session.journal
  unreceived : session.receive.1 ≠ some (.message frame)
  undrained : .message frame ∉ session.receiveAll.1
  unawaited : session.receiveWithin.1 ≠ some (.message frame)

/-- The copies of the waiting frames that the bus accepted come back. -/
structure Returned (session : Session) : Prop where
  /-- A frame that the bus accepted was published right then, and its copy was kept unless the
  inbound queue was full. -/
  followed : ∀ before entry after,
    session.journal = before ++ .queuedSent entry .accepted :: after →
      ∃ kept rest, after = .published (.message entry.frame) kept :: rest ∧
        (kept = true ↔ (Journal.waiting before).length < maxInbound)
  /-- It is published once: an input publishes what a tick of the node tells, if it ticks, and
  then the copies of the frames that the bus accepted. What the tick tells of the session's own
  frames are copies of its control frames. -/
  once : ∀ input, ∃ told,
    Journal.published ((session.react input).since session) =
        told ++ (Journal.carried ((session.react input).since session)).map .message ∧
      (told = [] ∨ input = .iterate ∧ ∃ frame,
        told = (session.served.value.tick session.clock frame).events ∧
        ownCopies session.address told =
          if session.node.echoes = true then
            (session.served.value.tick session.clock frame).transmit
          else [])
  /-- What was kept was taken, in the order in which it was published, or can be taken now. -/
  fetched : Journal.kept session.journal = Journal.taken session.journal ++ session.receiveAll.1

namespace Keeps

variable {config : Config} {session : Session}

theorem filtered (keeps : session.Keeps config) (unwanted : config.options.echoOwn = false)
    (frame : Frame) (own : frame.id.source = config.address) : session.Filtered frame := by
  have ready : (if session.inbound.isEmpty then session.awaitEvent session.patience
      else session).Keeps config := by
    split
    · exact keeps.awaitEvent _
    · exact keeps
  constructor
  · intro member
    have taken : .message frame ∈ Journal.taken session.journal :=
      List.mem_filterMap.mpr ⟨_, member, rfl⟩
    exact keeps.foreign unwanted (List.mem_append_left _ taken) own
  · exact fun received => keeps.foreign_of_receive unwanted received own
  · exact fun member => keeps.foreign unwanted (List.mem_append_right _ member) own
  · exact fun received => ready.foreign_of_receive unwanted received own

theorem returned (keeps : session.Keeps config) (wanted : config.options.echoOwn = true) :
    session.Returned := by
  constructor
  · intro before entry after split
    obtain ⟨kept, rest, rfl⟩ := keeps.echoed wanted before entry after split
    refine ⟨kept, rest, rfl, ?_⟩
    have still : Journal.waiting (before ++ [.queuedSent entry .accepted]) =
        Journal.waiting before := by
      rw [Journal.waiting, Journal.kept_append, Journal.taken_append]
      show (Journal.kept before ++ []).drop (Journal.taken before ++ []).length = _
      rw [List.append_nil, List.append_nil, Journal.waiting]
    rw [← still]
    apply keeps.room _ (.message entry.frame) kept rest
    rw [split, List.append_assoc]
    rfl
  · intro input
    by_cases iterated : input = .iterate
    · rw [iterated]
      obtain ⟨turn, told, carried, fills, ticked⟩ := session.fills_iterate
      have copies : session.node.config.copies carried = carried.map .message := by
        rw [keeps.opened]
        exact if_pos wanted
      refine ⟨told, ?_, ?_⟩
      · rw [show (session.react .iterate).since session = turn from fills.since, fills.published,
          fills.carried, copies]
      · apply ticked.imp_right
        rintro ⟨frame, rfl⟩
        have mirrors := (session.served.value.mirrors_tick session.clock frame).copies
        rw [Node.address, Node.echoes, session.config_served] at mirrors
        exact ⟨rfl, frame, rfl, mirrors⟩
    · refine ⟨[], ?_, .inl rfl⟩
      rcases session.fills_react_of_other input iterated with
        ⟨turn, fills⟩ | ⟨-, event, -, journal, -⟩
      · rw [fills.since, fills.published, fills.carried]
        rfl
      · rw [Session.since, journal, List.drop_left]
        rfl
  · exact keeps.fifo

end Keeps

end Session

/-- Without the option no frame of the session's own address ever comes out of the inbound queue,
whatever the bus delivers and answers. With it, over every run, each waiting frame that the bus
accepted is published once, right then, and taken in its turn unless the inbound queue was full. -/
theorem own_frames_return_on_request (config : Config) (origin : Nat)
    (inputs : List Session.Input) :
    let session := (Session.ofNode (Node.start config origin).value origin).run inputs
    if config.options.echoOwn = true then session.Returned
    else ∀ frame : Frame, frame.id.source = session.address → session.Filtered frame := by
  intro session
  have keeps : session.Keeps config := (Session.Keeps.start config origin).run inputs
  split
  · rename_i wanted
    exact keeps.returned wanted
  · rename_i unwanted
    rw [show session.address = config.address from congrArg Config.address keeps.opened]
    exact keeps.filtered (Bool.not_eq_true _ ▸ unwanted)

/-- A frame that ten sends once it is Operational comes back exactly if ten wants copies. -/
example (echoOwn : Bool) :
    let options : Options := { syncMaster := true, echoOwn }
    let config : Config := { Config.candidate 10 (by decide) with options }
    let frame := Frame.single ⟨0x400050a⟩ 1
    let inputs : List Session.Input :=
      [.iterate, .advance 7813, .iterate, .advance 12187, .send { frame }, .iterate]
    let session := (Session.ofNode (Node.start config 0).value 0).run inputs
    Notification.message frame ∈ session.receiveAll.1 ↔ echoOwn = true := by
  revert echoOwn
  decide +kernel

end VehicleBus
