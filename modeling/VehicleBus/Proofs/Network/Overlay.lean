import VehicleBus.Proofs.Network.Concert
import VehicleBus.Proofs.Network.Election

/-!
Two members that stay on the bus, one of which is asked for System Configuration. Up to the
last byte of the sequence the two do what they would do without the request, and the state
of the handshake, the plan to ask and the bytes on their way lie on top of that. So a round
is described by what it adds to the round of the two undisturbed members.
-/
namespace VehicleBus

namespace Network

/-- What is logged in one of the rounds is in the log of all of them. -/
theorem mem_log_rounds {members : List Member} {step now count round : Nat} {activity : Activity}
    (inside : round < count)
    (logged : activity ∈ (Network.round (rounds members step now round).members
      (now + round * step)).log) :
    activity ∈ (rounds members step now count).log := by
  induction count generalizing members now round with
  | zero => omega
  | succ count ih =>
    rw [rounds, List.mem_append]
    cases round with
    | zero =>
      rw [Nat.zero_mul] at logged
      exact .inl logged
    | succ round =>
      right
      refine ih (Nat.lt_of_succ_lt_succ inside) ?_
      have later : now + step + round * step = now + (round + 1) * step := by
        rw [Nat.succ_mul]
        omega
      rw [later]
      exact logged

end Network

namespace Member

/-- A member after a number of rounds with another one. -/
def after (member other : Member) (step : Nat) : Nat → Member
  | 0 => member
  | round + 1 =>
    (after member other step round).exchange (after other member step round) (round * step)

theorem members_rounds_pair (one other : Member) (step count : Nat) :
    (Network.rounds [one, other] step 0 count).members =
      [one.after other step count, other.after one step count] := by
  induction count with
  | zero => rfl
  | succ count ih =>
    rw [Network.rounds_add, ih, Nat.zero_add]
    exact members_round_pair _ _ _

/-- What either member tells in a round is in the log, with its place and its instant. -/
theorem mem_log_of_told {one other : Member} {step count round : Nat} {event : Notification}
    (inside : round < count) :
    (event ∈ ((one.after other step round).turn (round * step)).events →
      ⟨round * step, 0, ((one.after other step round).turn (round * step)).outbox⟩ ∈
        (Network.rounds [one, other] step 0 count).log) ∧
    (event ∈ ((other.after one step round).turn (round * step)).events →
      ⟨round * step, 1, ((other.after one step round).turn (round * step)).outbox⟩ ∈
        (Network.rounds [one, other] step 0 count).log) := by
  have busy {reaction : Reaction Member} (told : event ∈ reaction.events) :
      (reaction.outbox != {}) = true := by
    rw [bne_iff_ne]
    intro empty
    have silent : reaction.events = [] := congrArg Outbox.events empty
    rw [silent] at told
    cases told
  constructor
  · intro told
    refine Network.mem_log_rounds inside ?_
    rw [members_rounds_pair, Nat.zero_add]
    exact List.mem_filter.mpr ⟨List.mem_cons_self, busy told⟩
  · intro told
    refine Network.mem_log_rounds inside ?_
    rw [members_rounds_pair, Nat.zero_add]
    exact List.mem_filter.mpr ⟨List.mem_cons_of_mem _ List.mem_cons_self, busy told⟩

/-- On the bus from the first round on and for good, with no plan to leave System
Configuration. -/
structure Stays (member : Member) : Prop where
  start : member.start = 0
  stop : member.stop = none
  exitAt : member.exitAt = none

/-- The member once a request is made that is due by an instant. -/
def asked (member : Member) (now : Nat) : Member := (member.requestEnter now).value

section Stays

variable {member : Member} {now : Nat}

theorem Stays.live (stays : member.Stays) (now : Nat) : member.live now = true := by
  simp [Member.live, stays.start, stays.stop]

theorem Stays.asked (stays : member.Stays) (now : Nat) : (member.asked now).Stays := by
  unfold Member.asked requestEnter
  split
  · exact ⟨stays.start, stays.stop, stays.exitAt⟩
  · exact stays

/-- The round of a member that stays is a tick, after its request if that is due. -/
theorem Stays.turn (stays : member.Stays) (now : Nat) :
    (member.turn now).value = ((member.asked now).tick now).value ∧
      (member.turn now).transmit = ((member.asked now).tick now).transmit ∧
      (member.turn now).events = ((member.asked now).tick now).events := by
  have silent : (member.requestEnter now).transmit = [] ∧
      (member.requestEnter now).events = [] := by
    unfold requestEnter
    split
    · exact ⟨rfl, rfl⟩
    · exact ⟨rfl, rfl⟩
  have still : (member.asked now).requestExit now = pure (member.asked now) := by
    rw [requestExit, (stays.asked now).exitAt]
    rfl
  change Member.requestExit (member.requestEnter now).value now = _ at still
  rw [Member.turn, if_pos (stays.live now), act, Reaction.value_bind, Reaction.transmit_bind,
    Reaction.events_bind, still, pure_bind, silent.1, silent.2]
  exact ⟨rfl, rfl, rfl⟩

theorem Stays.value_turn (stays : member.Stays) (now : Nat) : (member.turn now).value.Stays := by
  rw [(stays.turn now).1]
  exact ⟨(stays.asked now).start, (stays.asked now).stop, (stays.asked now).exitAt⟩

theorem Stays.deliver (stays : member.Stays) (now : Nat) (frames : List Frame) :
    member.deliver now frames = { member with inbox := member.inbox ++ frames } :=
  if_pos (stays.live now)

theorem Stays.exchange (stays : member.Stays) (other : Member) (now : Nat) :
    member.exchange other now =
      { (member.turn now).value with
        inbox := (member.turn now).value.inbox ++ (other.turn now).transmit } :=
  (stays.value_turn now).deliver now _

theorem Stays.exchanged (stays : member.Stays) (other : Member) (now : Nat) :
    (member.exchange other now).Stays := by
  rw [stays.exchange]
  exact ⟨(stays.value_turn now).start, (stays.value_turn now).stop, (stays.value_turn now).exitAt⟩

theorem Stays.after (stays : member.Stays) (other : Member) (step round : Nat) :
    (member.after other step round).Stays := by
  induction round with
  | zero => exact stays
  | succ round ih => exact ih.exchanged _ _

end Stays

/-- The member with another state of the enter handshake, another plan to ask, and more
frames in its inbox. -/
def overlay (base : Member) (listener : Handshake.Listener) (request : Handshake.Requester)
    (plan : Option Nat) (frames : List Frame) : Member :=
  { base with
    node := base.node.withEnter listener request
    enterAt := plan
    inbox := base.inbox ++ frames }

section Overlay

variable {base : Member} {listener : Handshake.Listener} {request : Handshake.Requester}
  {plan : Option Nat} {frames : List Frame} {now : Nat}

theorem asked_overlay_of_early (early : reached plan now = false) :
    (base.overlay listener request plan frames).asked now =
      base.overlay listener request plan frames := by
  have later : ¬ reached (base.overlay listener request plan frames).enterAt now = true := by
    change ¬ reached plan now = true
    rw [early]
    exact Bool.false_ne_true
  rw [asked, requestEnter, if_neg later]
  rfl

theorem asked_overlay_of_due (due : reached plan now = true) :
    (base.overlay listener request plan frames).asked now =
      base.overlay listener (request.request now).value none frames := by
  have come : reached (base.overlay listener request plan frames).enterAt now = true := due
  rw [asked, requestEnter, if_pos come]
  rfl

/-- Whether a request is due or not, it does not change what was heard and what is to come. -/
theorem exists_asked_overlay (base : Member) (listener : Handshake.Listener)
    (request : Handshake.Requester) (plan : Option Nat) (frames : List Frame) (now : Nat) :
    ∃ asking after, (base.overlay listener request plan frames).asked now =
      base.overlay listener asking after frames := by
  cases due : reached plan now with
  | false => exact ⟨_, _, asked_overlay_of_early due⟩
  | true => exact ⟨_, _, asked_overlay_of_due due⟩

end Overlay

/-- A member that stays, was not asked and will not be. -/
structure Rests (member : Member) : Prop extends member.Stays where
  unasked : member.enterAt = none
  calm : member.node.calm = member.node

theorem Rests.turn {member : Member} (rests : member.Rests) (now : Nat) :
    (member.turn now).value =
        { member with
          node := (member.node.tick now member.inbox.head?).value
          inbox := member.inbox.tail } ∧
      (member.turn now).transmit = (member.node.tick now member.inbox.head?).transmit := by
  have same : member.asked now = member := by
    rw [asked, requestEnter, rests.unasked]
    rfl
  obtain ⟨value, transmit, -⟩ := rests.toStays.turn now
  rw [value, transmit, same]
  exact ⟨rfl, List.append_nil _⟩

/-- A round that adds bytes and a state of the handshake to what another one does. -/
structure Covers (plain covered : Reaction Member) (listener : Handshake.Listener)
    (request : Handshake.Requester) (plan : Option Nat) (rest sent : List Frame) : Prop where
  value : covered.value = plain.value.overlay listener request plan rest
  transmit : covered.transmit = plain.transmit ++ sent

/-- Two members that exchange more than they would. -/
theorem Covers.exchange {base otherBase member other : Member} {now : Nat}
    {listener : Handshake.Listener} {request : Handshake.Requester} {plan : Option Nat}
    {rest sent heard : List Frame} (base_stays : base.Stays) (stays : member.Stays)
    (covers : Covers (base.turn now) (member.turn now) listener request plan rest sent)
    (reached : (other.turn now).transmit = (otherBase.turn now).transmit ++ heard)
    (order : rest = [] ∨ (otherBase.turn now).transmit = []) :
    member.exchange other now =
      (base.exchange otherBase now).overlay listener request plan (rest ++ heard) := by
  have inbox : (base.turn now).value.inbox ++ rest ++ ((otherBase.turn now).transmit ++ heard) =
      (base.turn now).value.inbox ++ (otherBase.turn now).transmit ++ (rest ++ heard) := by
    obtain rfl | empty := order
    · simp
    · simp [empty]
  rw [stays.exchange, base_stays.exchange, covers.value, reached]
  unfold overlay
  dsimp only
  rw [inbox]

/-- A member that hears the byte that completes the sequence tells so. -/
theorem Stays.tells_of_hearing {member base : Member} {now : Nat} {plan : Option Nat}
    {heard : Handshake.Listener} {request : Handshake.Requester} {source byte : UInt8}
    {later : List Frame} (stays : member.Stays)
    (asked : member.asked now =
      base.overlay heard request plan (Frame.enterConfig source byte :: later))
    (empty : base.inbox = []) (on : base.node.Synchronizes) (foreign : source ≠ base.node.address)
    (complete : (heard.hear .enter now source byte).value.1 = .complete) :
    .modeChanged .systemConfiguration ∈ (member.turn now).events := by
  rw [(stays.turn _).2.2, asked]
  have lifted : (base.node.withEnter heard request).Synchronizes := on
  have told := Node.tick_of_complete lifted.on lifted.not_configuring foreign complete
  have head : (base.overlay heard request plan
      (Frame.enterConfig source byte :: later)).inbox.head? =
        some (Frame.enterConfig source byte) := by
    rw [overlay, empty]
    rfl
  rw [Member.tick, head]
  exact List.mem_append_left _ told

end Member

/-- A tick of a node that stands on a calm one, in terms of the tick of the calm one. -/
theorem Node.Plays.tick {base node : Node} {now : Nat} {box : List Frame} {frame : Option Frame}
    {listener : Handshake.Listener} {request : Handshake.Requester} (plays : base.Plays now box)
    (calm : base.calm = base) (syncs : ∀ heard ∈ box.head?, heard.id.control? = some .sync)
    (ready : node.ready now frame = (base.ready now box.head?).withEnter listener request) :
    let top := ((base.tick now box.head?).value.withEnter listener request).runEnterRequest now
    (node.tick now frame).value = top.value ∧
      (node.tick now frame).transmit = (base.tick now box.head?).transmit ++ top.transmit ∧
      (∀ event ∈ top.events, event ∈ (node.tick now frame).events) ∧
      (base.tick now box.head?).value.calm = (base.tick now box.head?).value := by
  have still : (base.ready now box.head?).calm = base.ready now box.head? := by
    have ready := base.ready_withEnter {} {} now box.head? syncs
      fun _ => rfl
    change base.calm.ready now box.head? = (base.ready now box.head?).calm at ready
    rw [← ready, calm]
  have layers := Node.tick_layers ready still plays.ready plays.steady
  rw [transmit_tick base now box.head?]
  exact layers

namespace Duo

/-- Two members at the start of a round that were not asked. -/
structure Ground (duo : Duo) (round : Nat) (one other : Member) : Prop where
  rests : one.Rests
  otherRests : other.Rests
  concert : duo.InConcert round one.node other.node one.inbox other.inbox

namespace Ground

variable {duo : Duo} {round : Nat} {base other member : Member}
  {heard listener : Handshake.Listener} {request after : Handshake.Requester}
  {plan : Option Nat} {frames : List Frame} {byte : UInt8}

theorem symm (ground : duo.Ground round base other) : duo.Ground round other base :=
  ⟨ground.otherRests, ground.rests, ground.concert.symm⟩

theorem turned (ground : duo.Ground round base other) :
    duo.Turned round base.node base.inbox other.inbox := ground.concert.turned

section Turn

variable (ground : duo.Ground round base other) (stays : member.Stays)
include ground

theorem timing_tick (frame : Option Frame) :
    (base.node.tick (round * duo.step) frame).value.timing.ptu = duo.ptu := by
  have config := (Node.configured_stages (round * duo.step)).tick base.node frame
  have timing : (base.node.tick (round * duo.step) frame).value.timing = base.node.timing :=
    congrArg Config.timing config
  rw [timing, ground.concert.timing]
  rfl

include stays

/-- A round in terms of the round of the undisturbed member. What the frame at the head of
the inbox does to the listener is left open. -/
theorem turn (asked : member.asked (round * duo.step) = base.overlay heard request plan frames)
    (ready : (base.node.withEnter heard request).ready (round * duo.step)
        (base.inbox ++ frames).head? =
      (base.node.ready (round * duo.step) base.inbox.head?).withEnter listener request) :
    let top := ((base.node.tick (round * duo.step) base.inbox.head?).value.withEnter listener
      request).runEnterRequest (round * duo.step)
    (member.turn (round * duo.step)).value =
        { base with node := top.value, enterAt := plan, inbox := (base.inbox ++ frames).tail } ∧
      (member.turn (round * duo.step)).transmit =
        (base.turn (round * duo.step)).transmit ++ top.transmit ∧
      ∀ event ∈ top.events, event ∈ (member.turn (round * duo.step)).events := by
  intro top
  obtain ⟨value, transmit, told, -⟩ :=
    ground.turned.plays.tick ground.rests.calm ground.turned.syncs ready
  obtain ⟨memberValue, memberTransmit, memberEvents⟩ := stays.turn (round * duo.step)
  rw [asked] at memberValue memberTransmit memberEvents
  refine ⟨?_, ?_, ?_⟩
  · rw [memberValue]
    show { base with
      node := ((base.node.withEnter heard request).tick _ (base.inbox ++ frames).head?).value
      enterAt := plan
      inbox := (base.inbox ++ frames).tail } = _
    rw [value]
  · rw [memberTransmit, (ground.rests.turn _).2, ← transmit]
    exact List.append_nil _
  · intro event member
    rw [memberEvents]
    exact List.mem_append_left _ (told event member)

variable (asked : member.asked (round * duo.step) = base.overlay heard request plan frames)
include asked

section Sync

variable (order : frames = [] ∨ base.inbox ≠ [])
  (fresh : base.node.mode = .powerOff → heard.position = 0)
include order fresh

/-- A round that finds a sync in the inbox, or nothing. -/
theorem turn_of_sync :
    let top := ((base.node.tick (round * duo.step) base.inbox.head?).value.withEnter heard
      request).runEnterRequest (round * duo.step)
    (member.turn (round * duo.step)).value =
        { base with node := top.value, enterAt := plan, inbox := frames } ∧
      (member.turn (round * duo.step)).transmit =
        (base.turn (round * duo.step)).transmit ++ top.transmit ∧
      ∀ event ∈ top.events, event ∈ (member.turn (round * duo.step)).events := by
  have single := ground.turned.single
  have first : (base.inbox ++ frames).head? = base.inbox.head? ∧
      (base.inbox ++ frames).tail = frames := by
    cases inbox : base.inbox with
    | nil =>
      obtain empty | busy := order
      · simp [empty]
      · exact absurd inbox busy
    | cons sync rest =>
      rw [inbox] at single
      change rest = [] at single
      simp [single]
  have ready := base.node.ready_withEnter heard request (round * duo.step) base.inbox.head?
    ground.turned.syncs fresh
  rw [← first.1] at ready
  obtain ⟨value, rest⟩ := ground.turn stays asked (by rw [ready, first.1])
  rw [first.2] at value
  exact ⟨value, rest⟩

/-- Nothing is due to be sent. -/
theorem turn_of_silence
    (polled : (request.poll .enter (round * duo.step) duo.ptu).value = (none, after)) :
    Member.Covers (base.turn (round * duo.step)) (member.turn (round * duo.step)) heard after plan
      frames [] := by
  obtain ⟨value, transmit, -⟩ := ground.turn_of_sync stays asked order fresh
  rw [← ground.timing_tick base.inbox.head?] at polled
  obtain ⟨top, silent⟩ := Node.runEnterRequest_of_silence _ heard request _ polled
  constructor
  · rw [value, top, (ground.rests.turn _).1]
    simp [Member.overlay, ground.turned.single]
  · rw [transmit, silent]

variable (polled : (request.poll .enter (round * duo.step) duo.ptu).value = (some byte, after))
include polled

/-- A byte goes out that does not complete the sequence. -/
theorem turn_of_byte
    (progress : (heard.hear .enter (round * duo.step) base.node.address byte).value =
      (.progress, listener)) :
    Member.Covers (base.turn (round * duo.step)) (member.turn (round * duo.step)) listener after
      plan frames [Frame.enterConfig base.node.address byte] := by
  obtain ⟨value, transmit, -⟩ := ground.turn_of_sync stays asked order fresh
  rw [← ground.timing_tick base.inbox.head?] at polled
  obtain ⟨top, sent⟩ := Node.runEnterRequest_of_progress _ heard request _ polled
    (by rw [Node.address_tick, progress]; exact nofun)
  rw [Node.address_tick] at top sent
  constructor
  · rw [value, top, progress, (ground.rests.turn _).1]
    simp [Member.overlay, ground.turned.single]
  · rw [transmit, sent]

/-- The byte goes out that completes the sequence. -/
theorem tells_of_byte
    (complete : (heard.hear .enter (round * duo.step) base.node.address byte).value.1 = .complete) :
    .modeChanged .systemConfiguration ∈ (member.turn (round * duo.step)).events ∧
      (member.turn (round * duo.step)).transmit = (base.turn (round * duo.step)).transmit ++
        [Frame.enterConfig base.node.address byte] := by
  obtain ⟨-, transmit, told⟩ := ground.turn_of_sync stays asked order fresh
  rw [← ground.timing_tick base.inbox.head?] at polled
  obtain ⟨entered, sent⟩ := Node.runEnterRequest_of_complete _ heard request _ polled
    (by rw [Node.address_tick]; exact complete) ground.turned.plays.after.not_configuring
  rw [Node.address_tick] at sent
  exact ⟨told _ entered, by rw [transmit, sent]⟩

end Sync

/-- A byte is heard that does not complete the sequence. -/
theorem turn_of_hearing {source : UInt8} (empty : base.inbox = [])
    (arrived : frames = [Frame.enterConfig source byte]) (on : base.node.Synchronizes)
    (foreign : source ≠ base.node.address)
    (progress : (heard.hear .enter (round * duo.step) source byte).value = (.progress, listener))
    (idle : request.pending = false) :
    Member.Covers (base.turn (round * duo.step)) (member.turn (round * duo.step)) listener request
      plan [] [] := by
  have ready : (base.node.withEnter heard request).ready (round * duo.step)
        (base.inbox ++ frames).head? =
      (base.node.ready (round * duo.step) base.inbox.head?).withEnter listener request := by
    rw [empty, arrived]
    refine (base.node.ready_of_byte _ source byte on.on foreign ?_).trans ?_
    · rw [progress]
      exact nofun
    · rw [progress, List.head?_nil, Node.ready_of_synchronizes on]
      rfl
  obtain ⟨value, transmit, -⟩ := ground.turn stays asked ready
  have polled : (request.poll .enter (round * duo.step)
      (base.node.tick (round * duo.step) base.inbox.head?).value.timing.ptu).value =
        (none, request) := by
    rw [Handshake.Requester.poll, if_neg (by rw [idle]; exact Bool.false_ne_true)]
    rfl
  obtain ⟨top, silent⟩ := Node.runEnterRequest_of_silence _ listener request _ polled
  constructor
  · rw [value, top, (ground.rests.turn _).1]
    simp [Member.overlay, empty, arrived]
  · rw [transmit, silent]

end Turn

theorem rests_exchange (ground : duo.Ground round base other) :
    (base.exchange other (round * duo.step)).Rests := by
  have ready := base.node.ready_withEnter {} {} (round * duo.step) base.inbox.head?
    ground.turned.syncs fun _ => rfl
  obtain ⟨-, -, -, calm⟩ :=
    ground.turned.plays.tick ground.rests.calm ground.turned.syncs ready
  rw [ground.rests.exchange, (ground.rests.turn _).1]
  exact
    { start := ground.rests.start
      stop := ground.rests.stop
      exitAt := ground.rests.exitAt
      unasked := ground.rests.unasked
      calm }

/-- Rounds keep two undisturbed members in concert. -/
theorem next (ground : duo.Ground round base other) :
    duo.Ground (round + 1) (base.exchange other (round * duo.step))
      (other.exchange base (round * duo.step)) where
  rests := ground.rests_exchange
  otherRests := ground.symm.rests_exchange
  concert := by
    have concert := ground.concert.next
    rw [ground.rests.exchange, ground.otherRests.exchange, (ground.rests.turn _).1,
      (ground.rests.turn _).2, (ground.otherRests.turn _).1, (ground.otherRests.turn _).2]
    exact concert

theorem after_rounds (ground : duo.Ground 0 base other) (round : Nat) :
    duo.Ground round (base.after other duo.step round) (other.after base duo.step round) := by
  induction round with
  | zero => exact ground
  | succ round ih => exact ih.next

end Ground

end Duo

end VehicleBus
