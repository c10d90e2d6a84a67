import VehicleBus.Proofs.Session.Iteration

/-!
The way of an application frame through a session. Every frame that was accepted waits, was
dropped because it had expired, or was handed to the bus, and each of them only once. It is
handed over by the runner alone, alive, in a mode that carries traffic, after the control
frames of the iteration and without company. A frame that was refused leaves no trace.
-/
namespace VehicleBus

/-- A frame that begins to wait joins those in the lanes. -/
theorem TransmitQueue.toList_insert_perm (queue : TransmitQueue) (entry : Entry) :
    (queue.insert entry).toList.Perm (entry :: queue.toList) := by
  have join : ∀ (lanes : List (List Entry)) (lane : Nat), lane < lanes.length →
      (lanes.modify lane (Entry.insert entry)).flatten.Perm (entry :: lanes.flatten) := by
    intro lanes
    induction lanes with
    | nil => exact fun lane inside => absurd inside (Nat.not_lt_zero lane)
    | cons first rest ih =>
      intro lane inside
      cases lane with
      | zero => exact (entry.insert_perm first).append_right rest.flatten
      | succ lane =>
        have later := ih lane (Nat.lt_of_succ_lt_succ inside)
        exact (later.append_left first).trans List.perm_middle
  refine join queue.lanes entry.frame.id.priority.val ?_
  rw [queue.length_lanes]
  exact entry.frame.id.priority.isLt

/-- What a pull takes out, and what it leaves, is what was there. -/
theorem TransmitQueue.pull_conserves (queue : TransmitQueue) (now : Nat) :
    queue.toList = (queue.pull now).expired ++ (queue.pull now).found.toList ++
      (queue.afterPull now).toList :=
  (Pull.search_conserves now queue.lanes).symm

namespace Pull

/-- A search through empty lanes finds nothing and changes nothing. -/
theorem search_of_empty (now : Nat) (lanes : List (List Entry)) (empty : lanes.flatten = []) :
    search now lanes = { found := none, expired := [], lanes } := by
  induction lanes with
  | nil => rfl
  | cons lane rest ih =>
    obtain ⟨rfl, others⟩ := List.append_eq_nil_iff.mp empty
    simp [search, ih others, behind]

end Pull

namespace TransmitQueue

variable (queue : TransmitQueue) (now : Nat)

theorem size_eq_pull : queue.size =
    (queue.pull now).expired.length + (queue.pull now).found.toList.length +
      (queue.afterPull now).size := by
  unfold size
  rw [queue.pull_conserves now, List.length_append, List.length_append]

theorem size_afterPull_le : (queue.afterPull now).size ≤ queue.size := by
  have parts := queue.size_eq_pull now
  omega

/-- A pull takes something out of a queue in which something waits. -/
theorem size_afterPull_lt (waiting : queue.toList ≠ []) :
    (queue.afterPull now).size < queue.size := by
  have parts := queue.size_eq_pull now
  cases found : (queue.pull now).found with
  | some entry =>
    rw [found] at parts
    simp only [Option.toList_some, List.length_singleton] at parts
    omega
  | none =>
    have nothing : (queue.afterPull now).size = 0 :=
      congrArg List.length (Pull.flatten_eq_nil_of_not_found now queue.lanes found)
    have something : 0 < queue.size := List.length_pos_iff.mpr waiting
    omega

theorem pull_of_empty (empty : queue.toList = []) :
    (queue.pull now).found = none ∧ (queue.pull now).expired = [] ∧
      queue.afterPull now = queue := by
  have search := Pull.search_of_empty now queue.lanes empty
  unfold afterPull pull
  simp [search]

end TransmitQueue

namespace Session

/-- The frames that a session accepts with an input, as they wait from then on. -/
def admitted (session : Session) : Input → List Entry
  | .send outgoing =>
    match session.send outgoing with
    | .ok _ => [.ofOutgoing outgoing session.clock]
    | .error _ => []
  | _ => []

/-- The frames that a session accepts in the course of inputs. -/
def accepted (session : Session) : List Input → List Entry
  | [] => []
  | input :: rest => session.admitted input ++ (session.react input).accepted rest

/-- What a session did with its waiting frames since an earlier state: they and the ones it
accepted are the ones that wait, those dropped and those handed over. -/
structure Accounts (session after : Session) (entries : List Entry) (turn : List Occurrence) :
    Prop where
  journal : after.journal = session.journal ++ turn
  balance : (entries ++ session.queue.toList).Perm
    (after.queue.toList ++ Journal.dropped turn ++ Journal.handed turn)

namespace Accounts

/-- Nothing happened to the waiting frames. -/
theorem unmoved {session after : Session} {turn : List Occurrence}
    (journal : after.journal = session.journal ++ turn) (queue : after.queue = session.queue)
    (dropped : Journal.dropped turn = []) (handed : Journal.handed turn = []) :
    session.Accounts after [] turn where
  journal := journal
  balance := by rw [queue, dropped, handed, List.append_nil, List.append_nil]; rfl

theorem trans {first second third : Session} {entries more : List Entry}
    {early late : List Occurrence} (before : first.Accounts second entries early)
    (after : second.Accounts third more late) :
    first.Accounts third (entries ++ more) (early ++ late) where
  journal := by rw [after.journal, before.journal, List.append_assoc]
  balance := by
    have start := before.balance.append_left more
    have rest := after.balance.append_right (Journal.dropped early ++ Journal.handed early)
    rw [Journal.dropped_append, Journal.handed_append]
    rw [List.perm_iff_count] at start rest ⊢
    intro entry
    have one := start entry
    have two := rest entry
    simp only [List.count_append] at one two ⊢
    omega

end Accounts

/-- An iteration accounts for every frame. -/
theorem accounts_iterate (session : Session) :
    ∃ turn, session.Accounts session.iterate [] turn := by
  obtain ⟨turn, journal, works⟩ := session.works_iterate
  cases works with
  | idle same dropped handed => exact ⟨turn, .unmoved journal same dropped handed⟩
  | drained early late parts pulled _ _ _ unlapsed unhanded lapsed handed _ =>
    refine ⟨turn, journal, ?_⟩
    rw [parts, pulled, Journal.dropped_append, Journal.handed_append, unlapsed, unhanded, lapsed,
      handed, List.nil_append, List.nil_append, List.nil_append, List.append_assoc,
      session.queue.pull_conserves session.clock]
    exact List.perm_append_comm

/-- Nothing but an iteration drops a waiting frame or hands one over. -/
theorem accounts_react_of_other (session : Session) (input : Input) (other : input ≠ .iterate) :
    ∃ turn, session.Accounts (session.react input) (session.admitted input) turn ∧
      Journal.dropped turn = [] ∧ Journal.handed turn = [] := by
  cases session.aside_react input other with
  | unmoved journal queue _ _ refused =>
    have admitted : session.admitted input = [] := by
      cases input with
      | send outgoing => simp [Session.admitted, Session.send, refused outgoing rfl]
      | _ => rfl
    rw [admitted]
    exact ⟨[], .unmoved (journal.trans (List.append_nil _).symm) queue rfl rfl, rfl, rfl⟩
  | enqueued outgoing given running journal queue =>
    have admitted : session.admitted input = [.ofOutgoing outgoing session.clock] := by
      simp [given, Session.admitted, Session.send, running]
    refine ⟨[.enqueued (.ofOutgoing outgoing session.clock)], ⟨journal, ?_⟩, rfl, rfl⟩
    have joined := session.queue.toList_insert_perm (.ofOutgoing outgoing session.clock)
    rw [admitted, queue]
    show (_ :: session.queue.toList).Perm
      ((session.queue.enqueue outgoing session.clock).toList ++ [] ++ [])
    rw [List.append_nil, List.append_nil]
    exact joined.symm
  | taken event given journal queue =>
    rw [given]
    rw [given] at journal queue
    exact ⟨[.taken event], .unmoved journal queue rfl rfl, rfl, rfl⟩

/-- Every input accounts for every frame. -/
theorem accounts_react (session : Session) (input : Input) :
    ∃ turn, session.Accounts (session.react input) (session.admitted input) turn := by
  by_cases iteration : input = .iterate
  · rw [iteration]
    exact session.accounts_iterate
  · obtain ⟨turn, accounts, -⟩ := session.accounts_react_of_other input iteration
    exact ⟨turn, accounts⟩

theorem accounts_run (session : Session) (inputs : List Input) :
    ∃ turn, session.Accounts (session.run inputs) (session.accepted inputs) turn := by
  induction inputs generalizing session with
  | nil => exact ⟨[], .unmoved (List.append_nil _).symm rfl rfl rfl⟩
  | cons input rest ih =>
    obtain ⟨early, first⟩ := session.accounts_react input
    obtain ⟨late, second⟩ := ih (session.react input)
    exact ⟨early ++ late, first.trans second⟩

/-- How a waiting frame is handed over in an iteration, between what the iteration did before
and after. -/
structure Handover (session : Session) (entry : Entry) (before after : List Occurrence) :
    Prop where
  /-- The status that the iteration showed lets application traffic pass. -/
  shown : .shown session.iterate.status ∈ before
  mode : session.iterate.status.mode = .operational ∨
    session.iterate.status.mode = .systemConfiguration
  live : ∀ deadline ∈ entry.deadline, session.clock < deadline
  /-- No other waiting frame is handed over in the iteration. -/
  alone : Journal.handed (before ++ after) = []
  /-- All control frames of the tick went before. -/
  controls : ∃ frame,
    session.iterate.node = (session.served.value.tick session.clock frame).value ∧
      Journal.controls before = (session.served.value.tick session.clock frame).transmit
  last : Journal.controls after = []

/-- What expired in an iteration had its deadline behind it, and what was handed over was
handed over by the rules. -/
structure Orderly (session : Session) (turn : List Occurrence) : Prop where
  lapsed : ∀ entry ∈ Journal.dropped turn, ∃ deadline ∈ entry.deadline, deadline ≤ session.clock
  handed : ∀ before entry answer after, turn = before ++ .queuedSent entry answer :: after →
    session.Handover entry before after

/-- A frame that is handed over, but not in the first part of a list, is in the second. -/
theorem split_at_handed {early late before after : List Occurrence} {entry : Entry}
    {answer : Bus.Answer} (unhanded : Journal.handed early = [])
    (parts : early ++ late = before ++ .queuedSent entry answer :: after) :
    ∃ between, before = early ++ between ∧
      late = between ++ .queuedSent entry answer :: after := by
  obtain ⟨between, split, rest⟩ | ⟨between, split, rest⟩ := List.append_eq_append_iff.mp parts
  · exact ⟨between, split, rest⟩
  · cases between with
    | nil => exact ⟨[], by simp [split], by simpa using rest.symm⟩
    | cons first between =>
      obtain ⟨rfl, -⟩ := List.cons.inj rest
      rw [split, Journal.handed_append] at unhanded
      exact absurd (List.append_eq_nil_iff.mp unhanded).2 (List.cons_ne_nil _ _)

theorem handed_around (before after : List Occurrence) (entry : Entry) (answer : Bus.Answer) :
    Journal.handed (before ++ .queuedSent entry answer :: after) =
      Journal.handed before ++ entry :: Journal.handed after := by
  rw [Journal.handed_append]
  rfl

theorem controls_around (before after : List Occurrence) (entry : Entry) (answer : Bus.Answer) :
    Journal.controls (before ++ .queuedSent entry answer :: after) =
      Journal.controls before ++ Journal.controls after := by
  rw [Journal.controls_append]
  rfl

/-- One element between others is all that an option holds. -/
private theorem alone_of_toList {α : Type} {before after : List α} {one : α} {held : Option α}
    (split : before ++ one :: after = held.toList) :
    held = some one ∧ before = [] ∧ after = [] := by
  cases held with
  | none => exact absurd (List.append_eq_nil_iff.mp split).2 (List.cons_ne_nil _ _)
  | some other =>
    obtain ⟨rfl, rest⟩ | ⟨-, none⟩ := List.append_eq_singleton_iff.mp split
    · obtain ⟨rfl, rfl⟩ := List.cons.inj rest
      exact ⟨rfl, rfl, rfl⟩
    · exact absurd none (List.cons_ne_nil _ _)

theorem orderly_of_works {session : Session} {turn : List Occurrence}
    (works : Works session.queue session.clock session.served.value session.iterate turn) :
    session.Orderly turn := by
  cases works with
  | idle _ dropped handed =>
    refine ⟨by simp [dropped], ?_⟩
    intro before entry answer after split
    rw [split, handed_around] at handed
    exact absurd (List.append_eq_nil_iff.mp handed).2 (List.cons_ne_nil _ _)
  | drained early late parts _ traffic shown ticked unlapsed unhanded lapsed handed controls =>
    constructor
    · intro entry member
      rw [parts, Journal.dropped_append, unlapsed, List.nil_append, lapsed] at member
      have dead := Pull.not_live_of_mem_expired session.clock session.queue.lanes entry member
      rw [← Bool.not_eq_true, Entry.live_iff] at dead
      obtain ⟨deadline, late⟩ := Classical.not_forall.mp dead
      obtain ⟨held, passed⟩ := Classical.not_imp.mp late
      exact ⟨deadline, held, Nat.le_of_not_lt passed⟩
    · intro before entry answer after split
      obtain ⟨between, rfl, rfl⟩ := split_at_handed unhanded (parts.symm.trans split)
      rw [handed_around] at handed
      rw [controls_around] at controls
      obtain ⟨quiet, last⟩ := List.append_eq_nil_iff.mp controls
      obtain ⟨found, aloneBefore, aloneAfter⟩ := alone_of_toList handed
      have live := Pull.live_of_found session.clock session.queue.lanes entry found
      obtain ⟨frame, node, sent⟩ := ticked
      exact
        { shown := List.mem_append_left _ shown
          mode := by
            cases mode : session.iterate.status.mode with
            | operational => exact .inl rfl
            | systemConfiguration => exact .inr rfl
            | _ => simp [mode, Mode.carriesTraffic] at traffic
          live := (entry.live_iff session.clock).mp live
          alone := by simp [unhanded, aloneBefore, aloneAfter]
          controls := ⟨frame, node, by rw [Journal.controls_append, quiet, List.append_nil, sent]⟩
          last }

/-- The session that inputs lead to has accounted for every frame that it was offered, and
goes on by the rules. -/
structure Accountable (start : Session) (inputs : List Input) : Prop where
  /-- The accepted frames wait, were dropped or were handed over, each counted once. -/
  balance : (start.accepted inputs).Perm
    ((start.run inputs).queue.toList ++ Journal.dropped (start.run inputs).journal ++
      Journal.handed (start.run inputs).journal)
  /-- Only iterations move waiting frames. -/
  still : ∀ input, input ≠ .iterate →
    Journal.dropped ((start.run inputs).react input).journal =
        Journal.dropped (start.run inputs).journal ∧
      Journal.handed ((start.run inputs).react input).journal =
        Journal.handed (start.run inputs).journal
  journal : (start.run inputs).iterate.journal =
    (start.run inputs).journal ++ (start.run inputs).iterate.since (start.run inputs)
  orderly : (start.run inputs).Orderly ((start.run inputs).iterate.since (start.run inputs))
  /-- A refused frame might as well not have been offered. -/
  refused : ∀ outgoing error later, (start.run inputs).send outgoing = .error error →
    start.run (inputs ++ .send outgoing :: later) = start.run (inputs ++ later)

end Session

/-- Over every run of a session, each accepted frame waits, was dropped as expired or was
handed to the bus, once; it is handed over by an iteration that shows a mode with traffic,
before its deadline, alone and behind the control frames; and refused frames leave no
trace. -/
theorem accepted_frames_are_handed_over_once (config : Config) (origin : Nat)
    (inputs : List Session.Input) :
    (Session.ofNode (Node.start config origin).value origin).Accountable inputs := by
  generalize begun : Session.ofNode (Node.start config origin).value origin = start
  have waiting : start.queue.toList = [] := by rw [← begun]; rfl
  have fresh : start.journal = [] := by rw [← begun]; rfl
  obtain ⟨turn, journal, works⟩ := (start.run inputs).works_iterate
  have since : (start.run inputs).iterate.since (start.run inputs) = turn := by
    rw [Session.since, journal, List.drop_left]
  refine ⟨?_, ?_, ?_, ?_, ?_⟩
  · obtain ⟨past, journal, balance⟩ := start.accounts_run inputs
    rw [fresh, List.nil_append] at journal
    rw [waiting, List.append_nil] at balance
    rw [journal]
    exact balance
  · intro input other
    obtain ⟨turn, accounts, dropped, handed⟩ :=
      (start.run inputs).accounts_react_of_other input other
    rw [accounts.journal, Journal.dropped_append, Journal.handed_append, dropped, handed]
    exact ⟨List.append_nil _, List.append_nil _⟩
  · rw [since, journal]
  · rw [since]
    exact Session.orderly_of_works works
  · intro outgoing error later refused
    have unmoved : (start.run inputs).react (.send outgoing) = start.run inputs := by
      simp [Session.react, refused, Except.toOption]
    rw [Session.run_append, Session.run_append, Session.run_cons, unmoved]

/-- A frame that waited since before the election goes out behind the sync of the iteration
that brings its node to Operational, and none is taken once the runner was asked to stop. -/
theorem ten_hands_a_frame_over :
    let start := Session.ofNode (Node.start (Config.candidate 10 (by decide)) 0).value 0
    let outgoing : Outgoing := { frame := Frame.single ⟨0x4000505⟩ 1, lifetime := some 30000 }
    let inputs : List Session.Input :=
      [.send outgoing, .iterate, .advance 7813, .iterate, .advance 12187]
    let session := start.run inputs
    let turn := session.iterate.since session
    session.Handover (.ofOutgoing outgoing 0) (turn.take 6) [] ∧
      start.run (inputs ++ [.requestStop] ++ [.send outgoing]) =
        start.run (inputs ++ [.requestStop] ++ []) := by
  intro start outgoing inputs session turn
  have ran :
      let start := Session.ofNode (Node.start (Config.candidate 10 (by decide)) 0).value 0
      let outgoing : Outgoing := { frame := Frame.single ⟨0x4000505⟩ 1, lifetime := some 30000 }
      let inputs : List Session.Input :=
        [.send outgoing, .iterate, .advance 7813, .iterate, .advance 12187]
      let session := start.run inputs
      let turn := session.iterate.since session
      turn = turn.take 6 ++ [.queuedSent (.ofOutgoing outgoing 0) .accepted] ∧
        ((start.run (inputs ++ [.requestStop])).send outgoing).toOption = none := by
    decide +kernel
  obtain ⟨split, stopped⟩ := ran
  have before := accepted_frames_are_handed_over_once (Config.candidate 10 (by decide)) 0 inputs
  have after := accepted_frames_are_handed_over_once (Config.candidate 10 (by decide)) 0
    (inputs ++ [.requestStop])
  constructor
  · exact before.orderly.handed _ _ _ _ split
  · cases answer : (start.run (inputs ++ [.requestStop])).send outgoing with
    | ok _ => exact absurd (congrArg Except.toOption answer) (by rw [stopped]; exact nofun)
    | error error => exact after.refused outgoing error [] answer

end VehicleBus
