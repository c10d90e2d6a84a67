import VehicleBus.Proofs.Network.Summons

/-!
Requests for System Configuration in a network of two nodes. One request reaches both of
them within two seconds, and so do two that keep clear of each other: the later one is not
made before the earlier one can be served, which takes two periods and two rounds.

Two requests that overlap need not reach anybody. A node hears its own letters with the same
listener as those of its neighbour, and a listener follows one source only. Both requests
start over after the same time, so they stay as far apart as they were.
-/
namespace VehicleBus

/-- Two nodes of one network, on the bus from the start, and when each of them is asked for
System Configuration, if it is. -/
structure Invitation where
  first : Config
  second : Config
  firstAt : Option Nat
  secondAt : Option Nat
  step : Nat
  distinct : first.address ≠ second.address
  bitrate : first.bitrate = second.bitrate
  frequency : first.frequency = second.frequency
  positive : 0 < step
  pace : step ≤ first.timing.preemptLead
  asked : firstAt.isSome ∨ secondAt.isSome

/-- A node before the first round, and when it will be asked. -/
def Config.guest (config : Config) (enterAt : Option Nat) : Member where
  node := (Node.start config 0).value
  enterAt

namespace Invitation

variable (invitation : Invitation)

def members : List Member :=
  [invitation.first.guest invitation.firstAt, invitation.second.guest invitation.secondAt]

/-- The instant of the last request. -/
def last : Nat := max (invitation.firstAt.getD 0) (invitation.secondAt.getD 0)

/-- The number of rounds in one period. -/
def period : Nat := Clock.ceilDiv invitation.first.timing.ptu invitation.step

/-- Between two requests, in the rounds in which they are made, there is time for a whole
sequence to be sent and heard. -/
def Clear (earlier later : Nat) : Prop :=
  Clock.ceilDiv earlier invitation.step + 2 * (invitation.period + 1) ≤
    Clock.ceilDiv later invitation.step

/-- If both nodes are asked, one request keeps clear of the other. -/
def Apart : Prop :=
  ∀ one ∈ invitation.firstAt, ∀ other ∈ invitation.secondAt,
    invitation.Clear one other ∨ invitation.Clear other one

/-- In the rounds up to a limit, the node at a place tells of System Configuration no later
than two seconds after the last request. -/
def Configures (limit index : Nat) : Prop :=
  ∃ activity ∈ (Network.simulate invitation.members invitation.step limit).log,
    activity.index = index ∧ activity.instant ≤ invitation.last + 2 * Clock.second ∧
      .modeChanged .systemConfiguration ∈ activity.outbox.events

instance (limit index : Nat) : Decidable (invitation.Configures limit index) :=
  inferInstanceAs (Decidable (∃ _ ∈ _, _))

/-- A request that is made clear of the other one leads both nodes into System Configuration. -/
theorem told_of_clear (one other : Config) (step enterAt : Nat) (plan : Option Nat)
    (distinct : one.address ≠ other.address) (bitrate : one.bitrate = other.bitrate)
    (frequency : one.frequency = other.frequency) (positive : 0 < step)
    (pace : step ≤ one.timing.preemptLead)
    (clear : ∀ planned ∈ plan,
      Clock.ceilDiv enterAt step + 2 * (Clock.ceilDiv one.timing.ptu step + 1) ≤
        Clock.ceilDiv planned step) :
    (∃ round, round * step ≤ enterAt + 2 * Clock.second ∧
      .modeChanged .systemConfiguration ∈
        (((one.guest (some enterAt)).after (other.guest plan) step round).turn
          (round * step)).events) ∧
    ∃ round, round * step ≤ enterAt + 2 * Clock.second ∧
      .modeChanged .systemConfiguration ∈
        (((other.guest plan).after (one.guest (some enterAt)) step round).turn
          (round * step)).events := by
  obtain ⟨duo, rfl, concert⟩ :=
    Duo.exists_inConcert one other step distinct bitrate frequency positive pace
  have timing : one.timing = duo.lead.timing := concert.timing
  let summons : Summons :=
    { duo
      one := one.guest none
      other := other.guest none
      ground :=
        { rests := ⟨⟨rfl, rfl, rfl⟩, rfl, rfl⟩
          otherRests := ⟨⟨rfl, rfl, rfl⟩, rfl, rfl⟩
          concert }
      enterAt
      plan
      spared := by
        intro round soon
        cases plan with
        | none => rfl
        | some planned =>
          have late := clear planned rfl
          rw [timing] at late
          change _ + 2 * (duo.period + 1) ≤ _ at late
          refine decide_eq_false fun reached => ?_
          have early := (Clock.ceilDiv_le_iff planned duo.step round positive).mpr reached
          omega }
  have soon : (summons.sentAt 2 + 2) * duo.step ≤ enterAt + 2 * Clock.second :=
    summons.arrivesAt_last_soon
  refine ⟨⟨summons.sentAt 2, ?_, summons.caller_enters.1⟩,
    ⟨summons.arrivesAt 2, ?_, summons.callee_enters⟩⟩
  · exact Nat.le_trans (Nat.mul_le_mul_right _ (Nat.le_add_right _ 2)) soon
  · exact Nat.le_trans (Nat.mul_le_mul_right _ (summons.arrivesAt_le 2)) soon

variable {invitation : Invitation} {limit : Nat}

/-- What both nodes tell in rounds that come soon enough after a request is in the log. -/
theorem configures_of_told (long : invitation.last + 2 * Clock.second ≤ limit) {enterAt : Nat}
    (planned : enterAt ≤ invitation.last)
    (first : ∃ round, round * invitation.step ≤ enterAt + 2 * Clock.second ∧
      .modeChanged .systemConfiguration ∈
        (((invitation.first.guest invitation.firstAt).after
          (invitation.second.guest invitation.secondAt) invitation.step round).turn
            (round * invitation.step)).events)
    (second : ∃ round, round * invitation.step ≤ enterAt + 2 * Clock.second ∧
      .modeChanged .systemConfiguration ∈
        (((invitation.second.guest invitation.secondAt).after
          (invitation.first.guest invitation.firstAt) invitation.step round).turn
            (round * invitation.step)).events) :
    invitation.Configures limit 0 ∧ invitation.Configures limit 1 := by
  have inside {round : Nat} (soon : round * invitation.step ≤ enterAt + 2 * Clock.second) :
      round < limit / invitation.step + 1 := by
    have bound : round * invitation.step ≤ limit := by omega
    exact Nat.lt_succ_of_le ((Nat.le_div_iff_mul_le invitation.positive).mpr bound)
  obtain ⟨round, soon, told⟩ := first
  obtain ⟨otherRound, otherSoon, otherTold⟩ := second
  constructor
  · refine ⟨_, (Member.mem_log_of_told (inside soon)).1 told, rfl, ?_, told⟩
    show round * invitation.step ≤ _
    omega
  · refine ⟨_, (Member.mem_log_of_told (inside otherSoon)).2 otherTold, rfl, ?_, otherTold⟩
    show otherRound * invitation.step ≤ _
    omega

theorem configures_of_first_clear (long : invitation.last + 2 * Clock.second ≤ limit)
    {enterAt : Nat} (asked : invitation.firstAt = some enterAt)
    (clear : ∀ planned ∈ invitation.secondAt, invitation.Clear enterAt planned) :
    invitation.Configures limit 0 ∧ invitation.Configures limit 1 := by
  have told := told_of_clear invitation.first invitation.second invitation.step enterAt
    invitation.secondAt invitation.distinct invitation.bitrate invitation.frequency
    invitation.positive invitation.pace clear
  have planned : enterAt ≤ invitation.last := by
    rw [last, asked]
    exact Nat.le_max_left _ _
  rw [← asked] at told
  exact configures_of_told long planned told.1 told.2

theorem configures_of_second_clear (long : invitation.last + 2 * Clock.second ≤ limit)
    {enterAt : Nat} (asked : invitation.secondAt = some enterAt)
    (clear : ∀ planned ∈ invitation.firstAt, invitation.Clear enterAt planned) :
    invitation.Configures limit 0 ∧ invitation.Configures limit 1 := by
  have timing : invitation.second.timing = invitation.first.timing := by
    unfold Config.timing
    rw [invitation.bitrate, invitation.frequency]
  have told := told_of_clear invitation.second invitation.first invitation.step enterAt
    invitation.firstAt invitation.distinct.symm invitation.bitrate.symm invitation.frequency.symm
    invitation.positive (by rw [timing]; exact invitation.pace) (by rw [timing]; exact clear)
  have planned : enterAt ≤ invitation.last := by
    rw [last, asked]
    exact Nat.le_max_right _ _
  rw [← asked] at told
  exact configures_of_told long planned told.2 told.1

end Invitation

/-- Requests that keep clear of each other lead both nodes into System Configuration within two
seconds of the last one, and so does a single request. -/
theorem clear_requests_configure_both (invitation : Invitation) (apart : invitation.Apart)
    (limit : Nat) (long : invitation.last + 2 * Clock.second ≤ limit) :
    invitation.Configures limit 0 ∧ invitation.Configures limit 1 := by
  cases first : invitation.firstAt with
  | none =>
    have asked := invitation.asked
    rw [first] at asked
    obtain ⟨enterAt, second⟩ := Option.isSome_iff_exists.mp (asked.resolve_left Bool.false_ne_true)
    refine Invitation.configures_of_second_clear long second ?_
    rw [first]
    exact nofun
  | some firstAt =>
    cases second : invitation.secondAt with
    | none =>
      refine Invitation.configures_of_first_clear long first ?_
      rw [second]
      exact nofun
    | some secondAt =>
      obtain earlier | later := apart firstAt first secondAt second
      · refine Invitation.configures_of_first_clear long first ?_
        rw [second]
        rintro planned ⟨⟩
        exact earlier
      · refine Invitation.configures_of_second_clear long second ?_
        rw [first]
        rintro planned ⟨⟩
        exact later

/-- Of 10, asked first, and 12, asked 20 rounds later, both are configured within two seconds. -/
theorem ten_and_twelve_are_configured :
    let invitation : Invitation :=
      { first := .candidate 10 (by decide)
        second := .candidate 12 (by decide)
        firstAt := some 50000
        secondAt := some 80000
        step := 1500
        distinct := by decide
        bitrate := rfl
        frequency := rfl
        positive := by decide
        pace := by decide
        asked := by decide }
    invitation.last + 2 * Clock.second ≤ 2080000 ∧
      invitation.Configures 2080000 0 ∧ invitation.Configures 2080000 1 := by
  intro invitation
  have apart : invitation.Apart := by
    rintro one ⟨⟩ other ⟨⟩
    left
    unfold Invitation.Clear
    decide
  have long : invitation.last + 2 * Clock.second ≤ 2080000 := by decide
  exact ⟨long, clear_requests_configure_both invitation apart 2080000 long⟩

/-- Of 10 and 12, asked at the same time, nobody is configured. Both send the same letter in
the same round, and each of them hears the letter of the other one between two of its own. -/
theorem simultaneous_requests_configure_nobody :
    let invitation : Invitation :=
      { first := { Config.candidate 10 (by decide) with
          frequency := 3
          minFrequency_le := by decide
          le_maxFrequency := by decide }
        second := { Config.candidate 12 (by decide) with
          frequency := 3
          minFrequency_le := by decide
          le_maxFrequency := by decide }
        firstAt := some 1000000
        secondAt := some 1000000
        step := 66666
        distinct := by decide
        bitrate := rfl
        frequency := rfl
        positive := by decide
        pace := by decide
        asked := by decide }
    let limit := invitation.last + 2 * Clock.second
    ¬ invitation.Configures limit 0 ∧ ¬ invitation.Configures limit 1 := by
  decide +kernel

/-- Requests that are one round short of being clear may still reach one node only: 12, asked
later, makes its request before it hears the last letter of 10, and does not follow it. -/
example :
    let invitation : Invitation :=
      { first := { Config.candidate 12 (by decide) with
          frequency := 7
          minFrequency_le := by decide
          le_maxFrequency := by decide }
        second := { Config.candidate 10 (by decide) with
          frequency := 7
          minFrequency_le := by decide
          le_maxFrequency := by decide }
        firstAt := some 682224
        secondAt := some 312686
        step := 28426
        distinct := by decide
        bitrate := rfl
        frequency := rfl
        positive := by decide
        pace := by decide
        asked := by decide }
    let limit := invitation.last + 2 * Clock.second
    Clock.ceilDiv 312686 invitation.step + 2 * (invitation.period + 1) =
        Clock.ceilDiv 682224 invitation.step + 1 ∧
      ¬ invitation.Configures limit 0 ∧ invitation.Configures limit 1 := by
  decide +kernel

end VehicleBus
