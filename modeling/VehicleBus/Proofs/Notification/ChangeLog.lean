import VehicleBus.Proofs.Node.Stages

/-!
The notifications of a node as a log of its status. Folding them over the status of a
node that was never switched on yields the status of the node, and no notification
repeats a value that is known already. Both are proved together, because a status that
is replayed exactly is what makes the next notification news.

The log covers the mode, the sync counter and the sync master. It says nothing about
the messages between the changes.
-/
namespace VehicleBus

namespace Status

/-- Whether a notification of a change reports another value than the known one. -/
def News (status : Status) : Notification → Prop
  | .message _ => True
  | .modeChanged mode => mode ≠ status.mode
  | .syncUpdated counter => counter ≠ status.counter
  | .masterChanged master => master ≠ status.master

/-- Every notification is news after the ones before it. -/
def AllNews (status : Status) : List Notification → Prop
  | [] => True
  | event :: rest => status.News event ∧ (status.note event).AllNews rest

theorem allNews_append (status : Status) (first second : List Notification) :
    status.AllNews (first ++ second) ↔
      status.AllNews first ∧ (status.replay first).AllNews second := by
  induction first generalizing status with
  | nil => simp [AllNews]
  | cons event rest ih =>
    rw [List.cons_append, AllNews, AllNews, ih, and_assoc]
    rfl

/-- Notifications lead from one status to another, each of them with news. -/
structure Leads (before : Status) (events : List Notification) (after : Status) : Prop where
  replayed : before.replay events = after
  news : before.AllNews events

theorem Leads.nil (status : Status) : Leads status [] status := ⟨rfl, trivial⟩

theorem Leads.append {before between after : Status} {first second : List Notification}
    (start : Leads before first between) (rest : Leads between second after) :
    Leads before (first ++ second) after := by
  constructor
  · rw [replay_append, start.replayed, rest.replayed]
  · rw [allNews_append, start.replayed]
    exact ⟨start.news, rest.news⟩

theorem leads_setMaster (mode : Mode) (base : TimeBase) (master : Option UInt8) :
    Leads ⟨mode, base.counter, base.master⟩ (base.setMaster master).events
      ⟨mode, base.counter, master⟩ := by
  unfold TimeBase.setMaster
  by_cases same : base.master = master
  · subst same
    simpa using Leads.nil _
  · have changed : master ≠ base.master := fun equal => same equal.symm
    simp only [if_neg same]
    exact ⟨rfl, changed, trivial⟩

theorem leads_setCounter (mode : Mode) (base : TimeBase) (counter : Nat) :
    Leads ⟨mode, base.counter, base.master⟩ (base.setCounter counter).events
      ⟨mode, counter, base.master⟩ := by
  unfold TimeBase.setCounter
  by_cases same : base.counter = counter
  · subst same
    simpa using Leads.nil _
  · have changed : counter ≠ base.counter := fun equal => same equal.symm
    simp only [if_neg same]
    exact ⟨rfl, changed, trivial⟩

theorem leads_setMode (node : Node) (mode : Mode) :
    Leads node.status (node.setMode mode).events { node.status with mode } := by
  unfold Node.setMode
  by_cases same : node.mode = mode
  · subst same
    simp only [if_pos]
    exact Leads.nil node.status
  · have changed : mode ≠ node.mode := fun equal => same equal.symm
    simp only [if_neg same]
    exact ⟨rfl, changed, trivial⟩

/-- Following a sync changes the master first and the counter then. -/
theorem leads_follow (mode : Mode) (base : TimeBase) (station : Station) (now : Nat)
    (source : UInt8) (counter : Nat) :
    Leads ⟨mode, base.counter, base.master⟩ (base.follow station now source counter).events
      ⟨mode, counter % syncCounterModulo, some source⟩ := by
  have master := leads_setMaster mode base (some source)
  have count := leads_setCounter mode (base.setMaster (some source)).value
    (counter % syncCounterModulo)
  simpa [TimeBase.follow] using master.append count

theorem leads_beat (mode : Mode) (base : TimeBase) (station : Station) (now : Nat) :
    Leads ⟨mode, base.counter, base.master⟩ (base.beat station now).events
      ⟨mode, (base.counter + 1) % syncCounterModulo, some station.address⟩ := by
  have master := leads_setMaster mode base (some station.address)
  have count := leads_setCounter mode (base.setMaster (some station.address)).value
    ((base.counter + 1) % syncCounterModulo)
  simpa [TimeBase.beat] using master.append count

end Status

namespace Node

/-- The notifications of a reaction are the changes of the status. -/
def Logs : Law := fun before _ events after => Status.Leads before.status events after.status

theorem logs_reopenElection (node : Node) (now : Nat) :
    Obeys Logs node (node.reopenElection now) := by
  have master := Status.leads_setMaster node.mode node.timeBase none
  simpa [Obeys, Logs, status] using master

theorem logs_enterPreOperational (node : Node) (now : Nat) :
    Obeys Logs node (node.enterPreOperational now) := by
  have mode := Status.leads_setMode node .preOperational
  have election := logs_reopenElection (node.setMode .preOperational).value now
  simpa [Obeys, Logs, enterPreOperational, clearHandshakes, status] using mode.append election

theorem logs_stages (now : Nat) : StageLaw now Logs where
  silent before after _ mode timeBase := by
    have same : after.status = before.status := by rw [status, status, mode, timeBase]
    unfold Logs
    rw [same]
    exact .nil _
  chain first second := first.append second
  message node frame := ⟨rfl, trivial, trivial⟩
  byte node _ _ _ := .nil _
  leave node _ := logs_enterPreOperational node now
  lose node _ _ _ := logs_reopenElection node now
  promote node _ _ _ := by
    have mode := Status.leads_setMode node .operational
    simpa [Obeys, Logs, enterOperational, status] using mode
  configure node _ := by
    have mode := Status.leads_setMode node .systemConfiguration
    simpa [Obeys, Logs, enterSystemConfiguration, status] using mode
  follow node source counter _ _ _ :=
    Status.leads_follow node.mode node.timeBase node.station now source counter
  beat node _ _ := Status.leads_beat node.mode node.timeBase node.station now

end Node

/-- Over every run of a node, the notifications so far lead from the status of a node
that is off to the present status, and each of them changes the value that it reports. -/
theorem notifications_replay_to_status (config : Config) (origin : Nat)
    (inputs : List Node.Input) :
    let life := Node.start config origin >>= fun node => node.run inputs
    Status.replay ⟨.powerOff, 0, none⟩ life.events = life.value.status ∧
      Status.AllNews ⟨.powerOff, 0, none⟩ life.events := by
  intro life
  obtain ⟨replayed, news⟩ :=
    Node.run_obeys Node.logs_stages (Node.start config origin).value inputs
  exact ⟨replayed, news⟩

end VehicleBus
