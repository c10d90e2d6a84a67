import VehicleBus.Proofs.Node.Roots

/-!
Nodes on a bus that may delay, lose, repeat and reorder frames, and invents none. Whatever such a
bus does, nothing comes out of thin air: a node takes no master but itself or another candidate
that sent a sync, no counter but one that a sync carried, and nobody goes to System Configuration
before somebody was asked for it.

Nodes tick and are asked in any order and at any instants, those of different nodes being unrelated.
-/
namespace VehicleBus

/-- Several nodes, and what has happened among them so far. -/
structure Fleet where
  nodes : List Node
  /-- The frames that were transmitted, each with the place of its sender. -/
  sent : List (Nat × Frame) := []
  /-- The notifications that were made, each with the place of the node. -/
  told : List (Nat × Notification) := []
  /-- The places of the nodes that were asked for System Configuration. -/
  asked : List Nat := []
  deriving DecidableEq, Repr

namespace Fleet

/-- An input of the node at a place. -/
structure Event where
  place : Nat
  input : Node.Input
  deriving DecidableEq, Repr

/-- Nodes with their configurations, each started at an instant of its own. -/
def launch (crew : List (Config × Nat)) : Fleet where
  nodes := crew.map fun member => (Node.start member.1 member.2).value

/-- The frames that the bus may deliver. -/
def pool (fleet : Fleet) : List Frame := fleet.sent.map Prod.snd

/-- Who is asked for System Configuration in an event. -/
def Event.asks (event : Event) : List Nat :=
  match event.input with
  | .requestEnter _ => [event.place]
  | _ => []

/-- The fleet after an event. Where there is no node, nothing happens. -/
def happen (fleet : Fleet) (event : Event) : Fleet :=
  match fleet.nodes[event.place]? with
  | none => fleet
  | some node =>
    let reaction := node.react event.input
    { nodes := fleet.nodes.set event.place reaction.value
      sent := fleet.sent ++ reaction.transmit.map (Prod.mk event.place)
      told := fleet.told ++ reaction.events.map (Prod.mk event.place)
      asked := fleet.asked ++ event.asks }

def run (fleet : Fleet) (events : List Event) : Fleet := events.foldl happen fleet

/-- Every frame that comes with an event was transmitted before it. -/
def Genuine (fleet : Fleet) : List Event → Prop
  | [] => True
  | event :: rest =>
    (∀ frame ∈ event.input.frame?, frame ∈ fleet.pool) ∧ (fleet.happen event).Genuine rest

instance decidableGenuine : (fleet : Fleet) → (events : List Event) →
    Decidable (fleet.Genuine events)
  | _, [] => isTrue trivial
  | fleet, event :: rest =>
    @instDecidableAnd (∀ frame ∈ event.input.frame?, frame ∈ fleet.pool) _ inferInstance
      (decidableGenuine (fleet.happen event) rest)

/-- Another node than the one at a place has an address, may be master and has sent a sync. -/
structure Vouches (fleet : Fleet) (other place : Nat) (address : UInt8) : Prop where
  apart : other ≠ place
  candidate : ∃ node ∈ fleet.nodes[other]?,
    node.address = address ∧ node.config.options.syncMaster = true
  sent : ∃ frame, (other, frame) ∈ fleet.sent ∧ frame.IsSync

/-- Whatever the nodes hold of each other was brought about by one of them. -/
structure Grounded (fleet : Fleet) : Prop where
  master : ∀ place, ∀ node ∈ fleet.nodes[place]?, ∀ address ∈ node.timeBase.master,
    (address = node.address ∧ node.config.options.syncMaster = true) ∨
      ∃ other, fleet.Vouches other place address
  counter : ∀ node ∈ fleet.nodes, node.timeBase.counter = 0 ∨
    ∃ sent ∈ fleet.sent, sent.2.IsSync ∧ sent.2.syncCounter? = some node.timeBase.counter
  /-- No node is in System Configuration, or ever announced it, unless one was asked. -/
  configured :
    ((∃ node ∈ fleet.nodes, node.mode = .systemConfiguration) ∨
      ∃ place, (place, .modeChanged .systemConfiguration) ∈ fleet.told) → fleet.asked ≠ []

section Happen

variable {fleet : Fleet} {event : Event} {node : Node}

theorem happen_of_none (vacant : fleet.nodes[event.place]? = none) :
    fleet.happen event = fleet := by
  simp [happen, vacant]

theorem happen_of_some (here : fleet.nodes[event.place]? = some node) :
    fleet.happen event =
      { nodes := fleet.nodes.set event.place (node.react event.input).value
        sent := fleet.sent ++ (node.react event.input).transmit.map (Prod.mk event.place)
        told := fleet.told ++ (node.react event.input).events.map (Prod.mk event.place)
        asked := fleet.asked ++ event.asks } := by
  simp [happen, here]

theorem pool_of_some (here : fleet.nodes[event.place]? = some node) :
    (fleet.happen event).pool = fleet.pool ++ (node.react event.input).transmit := by
  rw [happen_of_some here]
  simp [pool, Function.comp_def]

theorem config_react (node : Node) (input : Node.Input) :
    (node.react input).value.config = node.config :=
  Node.react_obeys Node.configured_stages node input

/-- A node keeps its place and its configuration. -/
theorem stays_happen {place : Nat} (event : Event) (there : node ∈ fleet.nodes[place]?) :
    ∃ after ∈ (fleet.happen event).nodes[place]?, after.config = node.config := by
  rw [Option.mem_def] at there
  cases here : fleet.nodes[event.place]? with
  | none =>
    rw [happen_of_none here]
    exact ⟨node, there, rfl⟩
  | some actor =>
    rw [happen_of_some here]
    by_cases same : event.place = place
    · rw [same, there] at here
      cases here
      refine ⟨_, ?_, config_react node event.input⟩
      obtain ⟨inside, -⟩ := List.getElem?_eq_some_iff.mp there
      rw [same, Option.mem_def, List.getElem?_set_self inside]
    · refine ⟨node, ?_, rfl⟩
      rwa [Option.mem_def, List.getElem?_set_ne same]

end Happen

/-- Every node is rooted in the frames that were sent, and every frame is signed by its sender. -/
structure Accounted (fleet : Fleet) : Prop where
  rooted : ∀ node ∈ fleet.nodes, node.Rooted fleet.pool
  signed : ∀ place frame, (place, frame) ∈ fleet.sent →
    ∃ node ∈ fleet.nodes[place]?, node.Signs frame

/-- Nobody is in System Configuration or on the way there, and no frame calls for it. -/
structure Uncalled (fleet : Fleet) : Prop where
  nodes : ∀ node ∈ fleet.nodes, node.Uncalled
  frames : ∀ frame ∈ fleet.pool, ¬ frame.Calls
  untold : ∀ place, (place, .modeChanged .systemConfiguration) ∉ fleet.told

namespace Accounted

variable {fleet : Fleet}

theorem launch (crew : List (Config × Nat)) : (Fleet.launch crew).Accounted := by
  constructor
  · intro node member
    obtain ⟨⟨config, origin⟩, -, rfl⟩ := List.mem_map.mp member
    exact .start config origin _
  · intro place frame sent
    cases sent

theorem happen (accounted : fleet.Accounted) (event : Event)
    (genuine : ∀ frame ∈ event.input.frame?, frame ∈ fleet.pool) :
    (fleet.happen event).Accounted := by
  cases here : fleet.nodes[event.place]? with
  | none => rwa [happen_of_none here]
  | some actor =>
    have acted := accounted.rooted actor (List.mem_of_getElem? here)
    constructor
    · intro node member
      rw [pool_of_some here]
      rw [happen_of_some here] at member
      rcases List.mem_or_eq_of_mem_set member with other | rfl
      · exact (accounted.rooted node other).mono fun frame => List.mem_append_left _
      · exact acted.react genuine
    · intro place frame sent
      rw [happen_of_some here] at sent
      rcases List.mem_append.mp sent with before | now
      · obtain ⟨node, there, signs⟩ := accounted.signed place frame before
        obtain ⟨after, stays, config⟩ := stays_happen event there
        exact ⟨after, stays, signs.congr config.symm⟩
      · obtain ⟨frame, sent, same⟩ := List.mem_map.mp now
        cases same
        obtain ⟨after, stays, config⟩ := stays_happen event (Option.mem_def.mpr here)
        exact ⟨after, stays, (Node.signs_react acted.entitled sent).congr config.symm⟩

/-- Whose master is another node follows one that sent a sync as a candidate. -/
theorem master (accounted : fleet.Accounted) {place : Nat} {node : Node} {address : UInt8}
    (here : node ∈ fleet.nodes[place]?) (held : address ∈ node.timeBase.master) :
    (address = node.address ∧ node.config.options.syncMaster = true) ∨
      ∃ other, fleet.Vouches other place address := by
  have rooted := accounted.rooted node (List.mem_of_getElem? here)
  by_cases own : address = node.address
  · left
    rw [own] at held
    exact ⟨own, rooted.entitled held⟩
  · right
    obtain ⟨frame, member, sync, source⟩ := rooted.master address held own
    obtain ⟨⟨other, _⟩, sent, rfl⟩ := List.mem_map.mp member
    obtain ⟨sender, there, signs⟩ := accounted.signed other _ sent
    refine ⟨other, ?_, ⟨sender, there, signs.1.symm.trans source, signs.2 sync⟩, _, sent, sync⟩
    rintro rfl
    cases Option.mem_unique here there
    exact own (source.symm.trans signs.1)

theorem counter (accounted : fleet.Accounted) {node : Node} (member : node ∈ fleet.nodes) :
    node.timeBase.counter = 0 ∨ ∃ sent ∈ fleet.sent,
      sent.2.IsSync ∧ sent.2.syncCounter? = some node.timeBase.counter := by
  by_cases zero : node.timeBase.counter = 0
  · exact .inl zero
  · obtain ⟨frame, among, root⟩ := (accounted.rooted node member).counter zero
    obtain ⟨sent, sending, rfl⟩ := List.mem_map.mp among
    exact .inr ⟨sent, sending, root⟩

end Accounted

namespace Uncalled

variable {fleet : Fleet}

theorem launch (crew : List (Config × Nat)) : (Fleet.launch crew).Uncalled := by
  refine ⟨?_, nofun, nofun⟩
  intro node member
  obtain ⟨⟨config, origin⟩, -, rfl⟩ := List.mem_map.mp member
  exact .start config origin

/-- Unless a node is asked in an event, the fleet stays uncalled. -/
theorem happen (uncalled : fleet.Uncalled) (event : Event)
    (genuine : ∀ frame ∈ event.input.frame?, frame ∈ fleet.pool)
    (unasked : ∀ now, event.input ≠ .requestEnter now) : (fleet.happen event).Uncalled := by
  cases here : fleet.nodes[event.place]? with
  | none => rwa [happen_of_none here]
  | some actor =>
    have acts := (uncalled.nodes actor (List.mem_of_getElem? here)).react
      (fun frame given => uncalled.frames frame (genuine frame given)) unasked
    constructor
    · intro node member
      rw [happen_of_some here] at member
      rcases List.mem_or_eq_of_mem_set member with other | rfl
      · exact uncalled.nodes node other
      · exact acts.uncalled
    · intro frame member
      rw [pool_of_some here] at member
      rcases List.mem_append.mp member with before | now
      · exact uncalled.frames frame before
      · exact acts.unsent frame now
    · intro place told
      rw [happen_of_some here] at told
      rcases List.mem_append.mp told with before | now
      · exact uncalled.untold place before
      · obtain ⟨_, told, same⟩ := List.mem_map.mp now
        cases same
        exact acts.untold ((mem_modes_iff _ _).mpr told)

end Uncalled

/-- As long as nobody was asked, nobody is called. -/
theorem uncalled_happen {fleet : Fleet} (event : Event)
    (uncalled : fleet.asked = [] → fleet.Uncalled)
    (genuine : ∀ frame ∈ event.input.frame?, frame ∈ fleet.pool)
    (unasked : (fleet.happen event).asked = []) : (fleet.happen event).Uncalled := by
  cases here : fleet.nodes[event.place]? with
  | none =>
    rw [happen_of_none here] at unasked ⊢
    exact uncalled unasked
  | some actor =>
    rw [happen_of_some here] at unasked
    obtain ⟨before, now⟩ := List.append_eq_nil_iff.mp unasked
    apply (uncalled before).happen event genuine
    intro instant asks
    simp [Event.asks, asks] at now

theorem configs_happen (fleet : Fleet) (event : Event) :
    (fleet.happen event).nodes.map Node.config = fleet.nodes.map Node.config := by
  cases here : fleet.nodes[event.place]? with
  | none => rw [happen_of_none here]
  | some actor =>
    obtain ⟨inside, found⟩ := List.getElem?_eq_some_iff.mp here
    rw [happen_of_some here, List.map_set, config_react]
    apply List.ext_getElem?
    intro place
    by_cases same : event.place = place
    · simp [← same, inside, found]
    · simp [same]

/-- What holds at the start and outlasts every event with a genuine frame holds throughout. -/
theorem run_induction {motive : Fleet → Prop}
    (keeps : ∀ fleet event, (∀ frame ∈ event.input.frame?, frame ∈ fleet.pool) → motive fleet →
      motive (fleet.happen event))
    {fleet : Fleet} {events : List Event} (begun : motive fleet) (genuine : fleet.Genuine events) :
    motive (fleet.run events) := by
  induction events generalizing fleet with
  | nil => exact begun
  | cons event rest ih => exact ih (keeps fleet event genuine.1 begun) genuine.2

end Fleet

/-- Nothing comes out of thin air. However many nodes there are, whatever the instants at which
they tick and are asked, and whichever of the frames that were sent before the bus hands them, and
how often: at every point a node is without a master, or is its own as a candidate, or follows
another candidate that sent a sync; its counter is zero or was carried by a sync that was sent; and
no node is or was in System Configuration unless one of them was asked. -/
theorem fleet_is_grounded (crew : List (Config × Nat)) (events : List Fleet.Event)
    (genuine : (Fleet.launch crew).Genuine events) :
    ((Fleet.launch crew).run events).nodes.map Node.config = crew.map Prod.fst ∧
      ((Fleet.launch crew).run events).Grounded := by
  have configs : ((Fleet.launch crew).run events).nodes.map Node.config = crew.map Prod.fst := by
    apply Fleet.run_induction
      (motive := fun fleet => fleet.nodes.map Node.config = crew.map Prod.fst) _ _ genuine
    · intro fleet event _ same
      exact (Fleet.configs_happen fleet event).trans same
    · simp [Fleet.launch, Node.start]
  have accounted : ((Fleet.launch crew).run events).Accounted :=
    Fleet.run_induction (fun _ event given accounted => accounted.happen event given)
      (.launch crew) genuine
  have uncalled : ((Fleet.launch crew).run events).asked = [] →
      ((Fleet.launch crew).run events).Uncalled :=
    Fleet.run_induction (motive := fun fleet => fleet.asked = [] → fleet.Uncalled)
      (fun _ event given uncalled => Fleet.uncalled_happen event uncalled given)
      (fun _ => .launch crew) genuine
  refine ⟨configs, ?_, ?_, ?_⟩
  · intro place node here address held
    exact accounted.master here held
  · intro node member
    exact accounted.counter member
  · intro configured unasked
    have quiet := uncalled unasked
    rcases configured with ⟨node, member, mode⟩ | ⟨place, told⟩
    · exact (quiet.nodes node member).outside mode
    · exact quiet.untold place told

/-- Twelve follows the sync that ten sent, and the bus delivers the frame twice. -/
theorem twelve_is_grounded :
    let crew := [(Config.candidate 10 (by decide), 0), (Config.candidate 12 (by decide), 5)]
    let sync := Frame.sync 10 1
    let events : List Fleet.Event :=
      [⟨0, .tick 0 none⟩, ⟨1, .tick 5 none⟩, ⟨0, .tick 7813 none⟩, ⟨1, .tick 7900 (some sync)⟩,
        ⟨1, .tick 8000 (some sync)⟩]
    (Fleet.launch crew).Genuine events ∧
      ((Fleet.launch crew).run events).nodes.map (·.status.master) = [some 10, some 10] ∧
      ((Fleet.launch crew).run events).Grounded := by
  intro crew sync events
  have genuine : (Fleet.launch crew).Genuine events := by decide +kernel
  exact ⟨genuine, by decide +kernel, (fleet_is_grounded crew events genuine).2⟩

end VehicleBus
