import VehicleBus.Proofs.Session.Echo

/-!
The notifications that wait for the application. The runner publishes them one by one, each is
kept if there is room at that moment, and what was kept is taken in the order in which it was
published. Published are the notifications of a tick and, where they are wanted, the copies of
waiting frames, each right after the bus has accepted the frame.
-/
namespace VehicleBus

namespace Occurrence

/-- The notification that was published, whether or not it was kept. -/
@[simp] def published? : Occurrence → Option Notification
  | published event _ => some event
  | _ => none

/-- The notification that was published and kept. -/
@[simp] def kept? : Occurrence → Option Notification
  | published event kept => if kept then some event else none
  | _ => none

/-- The notification that the application took. -/
@[simp] def taken? : Occurrence → Option Notification
  | taken event => some event
  | _ => none

/-- Nothing is published or taken, and no waiting frame is handed over. -/
@[simp] def Mute : Occurrence → Prop
  | published .. | taken _ | queuedSent .. => False
  | _ => True

end Occurrence

namespace Journal

/-- The notifications that were published, in order. -/
def published (journal : List Occurrence) : List Notification :=
  journal.filterMap Occurrence.published?

/-- The notifications that were kept, in order. -/
def kept (journal : List Occurrence) : List Notification := journal.filterMap Occurrence.kept?

/-- The notifications that the application took, in order. -/
def taken (journal : List Occurrence) : List Notification := journal.filterMap Occurrence.taken?

/-- The notifications that wait after a journal. -/
def waiting (journal : List Occurrence) : List Notification :=
  (kept journal).drop (taken journal).length

/-- A notification is kept exactly if there is room for it, given what waited at the start. -/
def Roomy (waiting : List Notification) (journal : List Occurrence) : Prop :=
  ∀ before event kept after, journal = before ++ .published event kept :: after →
    (kept = true ↔ (waiting ++ Journal.kept before).length < Session.maxInbound)

/-- A waiting frame that the bus accepted is published at once. -/
def Echoed (journal : List Occurrence) : Prop :=
  ∀ before entry after, journal = before ++ .queuedSent entry .accepted :: after →
    ∃ kept rest, after = .published (.message entry.frame) kept :: rest

/-- An element of two lists in a row stands in the first one or in the second one. -/
theorem split_append {α : Type} {early late before after : List α} {one : α}
    (parts : early ++ late = before ++ one :: after) :
    (∃ rest, early = before ++ one :: rest ∧ after = rest ++ late) ∨
      ∃ rest, before = early ++ rest ∧ late = rest ++ one :: after := by
  rcases List.append_eq_append_iff.mp parts with ⟨rest, split, same⟩ | ⟨rest, split, same⟩
  · exact .inr ⟨rest, split, same⟩
  · cases rest with
    | nil => exact .inr ⟨[], by simp [split], by simpa using same.symm⟩
    | cons first rest =>
      obtain ⟨rfl, tail⟩ := List.cons.inj same
      exact .inl ⟨rest, split, tail⟩

section Append

variable (first second : List Occurrence)

@[simp] theorem published_append :
    published (first ++ second) = published first ++ published second :=
  List.filterMap_append

@[simp] theorem kept_append : kept (first ++ second) = kept first ++ kept second :=
  List.filterMap_append

@[simp] theorem taken_append : taken (first ++ second) = taken first ++ taken second :=
  List.filterMap_append

@[simp] theorem carried_append : carried (first ++ second) = carried first ++ carried second :=
  List.filterMap_append

end Append

theorem Roomy.append {waiting : List Notification} {early late : List Occurrence}
    (first : Roomy waiting early) (second : Roomy (waiting ++ kept early) late) :
    Roomy waiting (early ++ late) := by
  intro before event kept after split
  rcases split_append split with ⟨rest, inside, -⟩ | ⟨rest, rfl, inside⟩
  · exact first before event kept rest inside
  · rw [kept_append, ← List.append_assoc]
    exact second rest event kept after inside

theorem Echoed.append {early late : List Occurrence} (first : Echoed early)
    (second : Echoed late) : Echoed (early ++ late) := by
  intro before entry after split
  rcases split_append split with ⟨rest, inside, rfl⟩ | ⟨rest, -, inside⟩
  · obtain ⟨kept, more, rfl⟩ := first before entry rest inside
    exact ⟨kept, more ++ late, rfl⟩
  · exact second rest entry after inside

/-- What is read off the occurrences of a kind is empty where there are none of it. -/
theorem filterMap_of_mute {α : Type} (read : Occurrence → Option α) {turn : List Occurrence}
    (mute : ∀ occurrence ∈ turn, occurrence.Mute)
    (silent : ∀ occurrence : Occurrence, occurrence.Mute → read occurrence = none) :
    turn.filterMap read = [] :=
  List.filterMap_eq_nil_iff.mpr fun occurrence member => silent occurrence (mute occurrence member)

end Journal

/-- The notifications that copies of frames are published as, where they are wanted. -/
def Config.copies (config : Config) (frames : List Frame) : List Notification :=
  if config.options.echoOwn = true then frames.map .message else []

@[simp] theorem Config.copies_nil (config : Config) : config.copies [] = [] := ite_self _

namespace Session

/-- A part of an iteration, told by what it publishes and by the waiting frames that the bus
accepts in it. -/
structure Fills (session after : Session) (turn : List Occurrence) (events : List Notification)
    (carried : List Frame) : Prop where
  config : after.node.config = session.node.config
  journal : after.journal = session.journal ++ turn
  inbound : after.inbound = session.inbound ++ Journal.kept turn
  untaken : Journal.taken turn = []
  published : Journal.published turn = events
  carried : Journal.carried turn = carried
  roomy : Journal.Roomy session.inbound turn
  echoed : session.node.config.options.echoOwn = true → Journal.Echoed turn

section Parts

variable {session after : Session}

theorem Fills.since {turn : List Occurrence} {events : List Notification} {carried : List Frame}
    (fills : session.Fills after turn events carried) : after.since session = turn := by
  rw [Session.since, fills.journal, List.drop_left]

/-- A part that publishes nothing and hands no waiting frame over. -/
theorem fills_of_mute (turn : List Occurrence) (mute : ∀ occurrence ∈ turn, occurrence.Mute)
    (config : after.node.config = session.node.config)
    (journal : after.journal = session.journal ++ turn)
    (inbound : after.inbound = session.inbound) : session.Fills after turn [] [] := by
  have empty {α : Type} (read : Occurrence → Option α)
      (silent : ∀ occurrence : Occurrence, occurrence.Mute → read occurrence = none) :=
    Journal.filterMap_of_mute read mute silent
  have kept : Journal.kept turn = [] := empty _ fun occurrence quiet => by
    cases occurrence <;> simp_all
  constructor
  · exact config
  · exact journal
  · rw [kept, List.append_nil, inbound]
  · exact empty _ fun occurrence quiet => by cases occurrence <;> simp_all
  · exact empty _ fun occurrence quiet => by cases occurrence <;> simp_all
  · exact empty _ fun occurrence quiet => by cases occurrence <;> simp_all
  · intro before event kept after split
    exact (mute (.published event kept) (by simp [split])).elim
  · intro _ before entry after split
    exact (mute (.queuedSent entry .accepted) (by simp [split])).elim

theorem Fills.nothing (config : after.node.config = session.node.config)
    (journal : after.journal = session.journal) (inbound : after.inbound = session.inbound) :
    session.Fills after [] [] [] :=
  fills_of_mute [] nofun config (journal.trans (List.append_nil _).symm) inbound

theorem Fills.trans {first second third : Session} {early late : List Occurrence}
    {events more : List Notification} {carried others : List Frame}
    (before : first.Fills second early events carried)
    (after : second.Fills third late more others) :
    first.Fills third (early ++ late) (events ++ more) (carried ++ others) where
  config := after.config.trans before.config
  journal := by rw [after.journal, before.journal, List.append_assoc]
  inbound := by rw [after.inbound, before.inbound, Journal.kept_append, List.append_assoc]
  untaken := by rw [Journal.taken_append, before.untaken, after.untaken, List.append_nil]
  published := by rw [Journal.published_append, before.published, after.published]
  carried := by rw [Journal.carried_append, before.carried, after.carried]
  roomy := by
    have room := after.roomy
    rw [before.inbound] at room
    exact before.roomy.append room
  echoed := by
    intro wanted
    have still := after.echoed
    rw [before.config] at still
    exact (before.echoed wanted).append (still wanted)

end Parts

section Runner

variable (session : Session)

theorem fills_afterAnswer (answer : Bus.Answer) :
    ∃ turn, session.Fills (session.afterAnswer answer) turn [] [] := by
  match answer with
  | .accepted => exact ⟨[], .nothing rfl rfl rfl⟩
  | .failure (.recoverable _) => exact ⟨[], .nothing rfl rfl rfl⟩
  | .failure (.fatal _) => exact ⟨[.closed], fills_of_mute _ (by simp) rfl rfl rfl⟩
  | .crash => exact ⟨[], .nothing rfl rfl rfl⟩

theorem fills_transmitControl (frame : Frame) :
    ∃ turn, session.Fills (session.transmitControl frame) turn [] [] := by
  let sent := record { session with script := session.script.afterAnswer }
    (.controlSent frame session.script.nextAnswer)
  have first : session.Fills sent [.controlSent frame session.script.nextAnswer] [] [] :=
    fills_of_mute _ (by simp) rfl rfl rfl
  obtain ⟨turn, rest⟩ := sent.fills_afterAnswer session.script.nextAnswer
  exact ⟨_, first.trans rest⟩

theorem fills_transmitControls (frames : List Frame) :
    ∃ turn, session.Fills (session.transmitControls frames) turn [] [] := by
  induction frames generalizing session with
  | nil => exact ⟨[], .nothing rfl rfl rfl⟩
  | cons frame rest ih =>
    obtain ⟨early, first⟩ := session.fills_transmitControl frame
    unfold transmitControls
    dsimp only
    split
    · exact ⟨early, first⟩
    · obtain ⟨late, second⟩ := ih (session.transmitControl frame)
      exact ⟨early ++ late, first.trans second⟩

/-- A notification is published once, and kept if there is room. -/
theorem fills_publish (event : Notification) :
    session.Fills (session.publish event)
      [.published event (decide (session.inbound.length < maxInbound))] [event] [] := by
  have room (kept : Bool) (fits : kept = true ↔ session.inbound.length < maxInbound) :
      Journal.Roomy session.inbound [.published event kept] := by
    intro before other kept after split
    obtain ⟨rfl, same⟩ | ⟨-, none⟩ := List.append_eq_singleton_iff.mp split.symm
    · cases same
      simpa [Journal.kept] using fits
    · cases none
  have silent (kept : Bool) : Journal.Echoed [.published event kept] := by
    intro before entry after split
    obtain ⟨rfl, same⟩ | ⟨-, none⟩ := List.append_eq_singleton_iff.mp split.symm
    · cases same
    · cases none
  unfold publish
  by_cases fits : session.inbound.length < maxInbound
  · rw [if_pos fits, decide_eq_true fits]
    exact ⟨rfl, rfl, rfl, rfl, rfl, rfl, room true (by simp [fits]), fun _ => silent true⟩
  · rw [if_neg fits, decide_eq_false fits]
    exact ⟨rfl, rfl, (List.append_nil _).symm, rfl, rfl, rfl, room false (by simp [fits]),
      fun _ => silent false⟩

theorem fills_publishAll (events : List Notification) :
    ∃ turn, session.Fills (session.publishAll events) turn events [] := by
  induction events generalizing session with
  | nil => exact ⟨[], .nothing rfl rfl rfl⟩
  | cons event rest ih =>
    obtain ⟨turn, later⟩ := ih (session.publish event)
    exact ⟨_, (session.fills_publish event).trans later⟩

/-- A waiting frame is handed over before the rest of a part. Where the bus accepted it and copies
are wanted, the rest begins with the copy. -/
theorem Fills.after_queued {session after : Session} {turn : List Occurrence}
    {events : List Notification} (entry : Entry) (answer : Bus.Answer)
    (rest : (record { session with script := session.script.afterAnswer }
      (.queuedSent entry answer)).Fills after turn events [])
    (copied : answer = .accepted → session.node.config.options.echoOwn = true →
      ∃ kept more, turn = .published (.message entry.frame) kept :: more) :
    session.Fills after (.queuedSent entry answer :: turn) events
      (if answer = .accepted then [entry.frame] else []) where
  config := rest.config
  journal := by
    rw [rest.journal]
    simp [record]
  inbound := rest.inbound
  untaken := rest.untaken
  published := rest.published
  carried := by
    have none : turn.filterMap Occurrence.carried? = [] := rest.carried
    by_cases accepted : answer = .accepted <;> simp [Journal.carried, accepted, none]
  roomy := by
    intro before event kept after split
    cases before with
    | nil => cases split
    | cons first before =>
      obtain ⟨rfl, tail⟩ := List.cons.inj split
      exact rest.roomy before event kept after tail
  echoed := by
    intro wanted before other after split
    cases before with
    | nil =>
      cases split
      exact copied rfl wanted
    | cons first before =>
      obtain ⟨-, tail⟩ := List.cons.inj split
      exact rest.echoed wanted before other after tail

/-- A waiting frame is handed over, and its copy is published right after the bus has accepted
it. -/
theorem fills_transmitQueued (entry : Entry) :
    ∃ turn carried, session.Fills (session.transmitQueued entry) turn
      (session.node.config.copies carried) carried := by
  let answer := session.script.nextAnswer
  let sent := record { session with script := session.script.afterAnswer }
    (.queuedSent entry answer)
  have value : session.transmitQueued entry = (sent.afterAnswer answer).echo entry.frame answer :=
    rfl
  rw [value, echo]
  by_cases accepted : answer = .accepted
  · have running : sent.afterAnswer answer = sent := by
      rw [accepted]
      rfl
    rw [running]
    by_cases wanted : session.node.config.options.echoOwn = true
    · have published := sent.fills_publish (.message entry.frame)
      have both := published.after_queued entry answer fun _ _ => ⟨_, _, rfl⟩
      have copies : session.node.config.copies [entry.frame] = [.message entry.frame] :=
        if_pos wanted
      rw [if_pos accepted, ← copies] at both
      rw [if_pos ⟨accepted, wanted⟩]
      exact ⟨_, _, both⟩
    · have nothing : sent.Fills sent [] [] [] := .nothing rfl rfl rfl
      have both := nothing.after_queued entry answer fun _ echoes => absurd echoes wanted
      rw [if_pos accepted] at both
      rw [if_neg fun both => wanted both.2]
      refine ⟨[.queuedSent entry answer], [entry.frame], ?_⟩
      rw [Config.copies, if_neg wanted]
      exact both
  · rw [if_neg fun both => accepted both.1]
    obtain ⟨turn, judged⟩ := sent.fills_afterAnswer answer
    have both := judged.after_queued entry answer fun taken _ => absurd taken accepted
    rw [if_neg accepted] at both
    refine ⟨.queuedSent entry answer :: turn, [], ?_⟩
    rw [Config.copies_nil]
    exact both

theorem fills_pullQueue :
    session.Fills session.pullQueue ((session.queue.pull session.clock).expired.map .expired)
      [] [] := by
  refine fills_of_mute _ ?_ rfl rfl rfl
  intro occurrence member
  obtain ⟨entry, -, rfl⟩ := List.mem_map.mp member
  trivial

theorem fills_drainQueue :
    ∃ turn carried, session.Fills session.drainQueue turn
      (session.node.config.copies carried) carried := by
  unfold drainQueue
  split
  · split
    · refine ⟨(session.queue.pull session.clock).expired.map .expired, [], ?_⟩
      rw [Config.copies_nil]
      exact session.fills_pullQueue
    · rename_i entry _
      obtain ⟨turn, carried, sent⟩ := session.pullQueue.fills_transmitQueued entry
      exact ⟨_, carried, session.fills_pullQueue.trans sent⟩
  · refine ⟨[], [], ?_⟩
    rw [Config.copies_nil]
    exact .nothing rfl rfl rfl

/-- The runner's work after a tick: the notifications of the tick are published, unless a control
frame ended the runner, and then at most one waiting frame is handed over. -/
theorem fills_carryOut (outbox : Outbox) :
    ∃ turn told carried, session.Fills (session.carryOut outbox) turn
        (told ++ session.node.config.copies carried) carried ∧
      (told = [] ∨ told = outbox.events) := by
  have shown : session.Fills session.showStatus [.shown session.node.status] [] [] :=
    fills_of_mute _ (by simp) rfl rfl rfl
  obtain ⟨controls, sent⟩ := session.showStatus.fills_transmitControls outbox.transmit
  have handed := shown.trans sent
  unfold carryOut
  dsimp only
  split
  · refine ⟨.shown session.node.status :: controls, [], [], ?_, .inl rfl⟩
    rw [Config.copies_nil]
    exact handed
  · obtain ⟨_, published⟩ :=
      (session.showStatus.transmitControls outbox.transmit).fills_publishAll outbox.events
    have told := handed.trans published
    obtain ⟨_, carried, drained⟩ := fills_drainQueue
      ((session.showStatus.transmitControls outbox.transmit).publishAll outbox.events)
    rw [told.config] at drained
    exact ⟨_, outbox.events, carried, told.trans drained, .inr rfl⟩

end Runner

/-- The preparation of an iteration publishes nothing and hands no waiting frame over. -/
theorem Prepares.fills {session after : Session} {turn : List Occurrence}
    (prepares : session.Prepares after turn) : session.Fills after turn [] [] := by
  apply fills_of_mute turn _ prepares.config prepares.journal prepares.inbound
  intro occurrence member
  have plain := prepares.plain occurrence member
  cases occurrence <;> simp_all

/-- What an iteration publishes: the notifications of a tick of the node, if it ticks and no
control frame ends the runner, and then the copies of the waiting frames that the bus accepted. -/
theorem fills_iterate (session : Session) :
    ∃ turn told carried, session.Fills session.iterate turn
        (told ++ session.node.config.copies carried) carried ∧
      (told = [] ∨ ∃ frame, told = (session.served.value.tick session.clock frame).events) := by
  cases session.comes_iterate with
  | rests turn prepares =>
    refine ⟨turn, [], [], ?_, .inl rfl⟩
    rw [Config.copies_nil]
    exact prepares.fills
  | ticks early ready frame prepares _ ticked came =>
    obtain ⟨turn, told, carried, fills, source⟩ :=
      ready.fills_carryOut (session.served.value.tick session.clock frame).outbox
    rw [← came, prepares.config] at fills
    refine ⟨early ++ turn, told, carried, prepares.fills.trans fills, ?_⟩
    apply source.imp_right
    intro events
    exact ⟨frame, events⟩

end Session

end VehicleBus
