import VehicleBus.Proofs.Session.Course

/-!
The release of the bus. A runner that stops or fails closes the bus as the last thing it does, and
nothing else closes it: whatever its acts were, the closing stands once in the journal, behind
everything that was asked of the bus. A runner that breaks down in the middle of its work does not
come to it and leaves the bus open. It breaks down where the bus does, over a frame it is asked for
or one it is handed, and where the clock overflows.

Whoever lets a session go, at whatever time, brings its runner to an end.
-/
namespace VehicleBus.Session

/-- What the runner of a session did as it ended. -/
def closing (session : Session) : List Occurrence := session.ending.elim [] Ending.closing

/-- Work over which the bus is closed where the runner ends in order, last of all and once. -/
def Closes (session after : Session) : Prop :=
  ∃ turn, after.journal = session.journal ++ (turn ++ after.closing) ∧ .closed ∉ turn

section Work

variable {session between after : Session}

theorem Closes.refl (running : session.ending = none) : session.Closes session :=
  ⟨[], by simp [closing, running], List.not_mem_nil⟩

/-- What a runner at work did closed nothing, so it goes on as if it had just begun. -/
theorem Closes.trans (first : session.Closes between) (running : between.ending = none)
    (rest : between.Closes after) : session.Closes after := by
  obtain ⟨early, journal, unclosed⟩ := first
  obtain ⟨late, more, stillUnclosed⟩ := rest
  refine ⟨early ++ late, ?_, ?_⟩
  · rw [more, journal]
    simp [closing, running]
  · simp [unclosed, stillUnclosed]

/-- A single occurrence other than the closing, over which the runner does not end. -/
theorem Closes.one {item : Occurrence} (journal : after.journal = session.journal ++ [item])
    (other : item ≠ .closed) (running : after.ending = none) : session.Closes after :=
  ⟨[item], by simp [closing, running, journal], by simp [other.symm]⟩

theorem closes_finish (session : Session) (code : Nat) :
    session.Closes (session.finish (.transport code)) := ⟨[], rfl, List.not_mem_nil⟩

theorem closes_abort (session : Session) : session.Closes session.abort :=
  ⟨[], (List.append_nil _).symm, List.not_mem_nil⟩

theorem Act.closes (act : session.Act after) (running : session.ending = none) :
    session.Closes after := by
  cases act with
  | sends frame => exact .one rfl nofun running
  | hands entry => exact .one rfl nofun running
  | publishes event =>
    unfold publish
    split
    · exact .one rfl nofun running
    · exact .one rfl nofun running
  | pulls =>
    refine ⟨(session.queue.pull session.clock).expired.map .expired, ?_, by simp⟩
    simp [closing, pullQueue, running]
  | fails code => exact session.closes_finish code
  | breaks => exact session.closes_abort

theorem Acts.closes (acts : session.Acts after) (running : session.ending = none) :
    session.Closes after := by
  induction acts with
  | refl => exact .refl running
  | tail _ last ih => exact ih.trans last.1 (last.2.closes last.1)

theorem Course.closes (course : session.Course after) (running : session.ending = none) :
    session.Closes after := by
  have began : session.Closes (session.record (.began session.clock)) := .one rfl nofun running
  have polled : session.Closes session.afterPoll :=
    began.trans running (.one rfl nofun running)
  cases course with
  | swamped => exact ⟨[.began session.clock], rfl, by simp⟩
  | failed code => exact polled.trans running (session.afterPoll.closes_finish code)
  | broken => exact polled.trans running session.afterPoll.closes_abort
  | overrun => exact polled.trans running session.afterPoll.closes_abort
  | carried =>
    have shown : session.Closes session.afterTick.showStatus :=
      polled.trans running (.one rfl nofun running)
    have acts := session.afterTick.acts_carryOut session.ticked.outbox running
    exact shown.trans running (Acts.closes acts running)

end Work

/-- The bus is open as long as the runner is at work. After its end the journal holds what the
runner did, how it closed the bus if it did, and what the application took later. -/
def Sealed (session : Session) : Prop :=
  ∃ (past : List Occurrence) (events : List Notification),
    session.journal = past ++ session.closing ++ events.map .taken ∧ .closed ∉ past ∧
      (session.ending = none → events = [])

section Run

variable {session : Session}

theorem Sealed.unclosed (safe : session.Sealed) (running : session.ending = none) :
    .closed ∉ session.journal := by
  obtain ⟨past, events, journal, unclosed, none⟩ := safe
  rw [journal, none running]
  simpa [closing, running] using unclosed

theorem sealed_of_closes {after : Session} (closes : session.Closes after)
    (unclosed : .closed ∉ session.journal) : after.Sealed := by
  obtain ⟨turn, journal, other⟩ := closes
  refine ⟨session.journal ++ turn, [], ?_, ?_, fun _ => rfl⟩
  · rw [journal]
    simp
  · simp [unclosed, other]

/-- An iteration of a runner at work. -/
theorem closes_iterate (running : session.ending = none) : session.Closes session.iterate := by
  cases asked : session.stopRequested with
  | true =>
    rw [session.iterate_of_asked running asked]
    exact ⟨[], rfl, List.not_mem_nil⟩
  | false => exact (session.course_iterate running asked).closes running

/-- What the application does closes nothing. -/
theorem closes_react_of_other (input : Input) (other : input ≠ .iterate)
    (running : session.ending = none) : session.Closes (session.react input) := by
  have still : (session.react input).ending = none :=
    (session.untouched_react input other).ending.trans running
  cases session.aside_react input other with
  | unmoved journal =>
    exact ⟨[], by simp [closing, still, journal], List.not_mem_nil⟩
  | enqueued outgoing _ _ journal => exact .one journal nofun still
  | taken event _ journal => exact .one journal nofun still

theorem Sealed.react (safe : session.Sealed) (input : Input) : (session.react input).Sealed := by
  cases ended : session.ending with
  | none =>
    have unclosed := safe.unclosed ended
    by_cases iterates : input = .iterate
    · subst iterates
      exact sealed_of_closes (closes_iterate ended) unclosed
    · exact sealed_of_closes (closes_react_of_other input iterates ended) unclosed
  | some ending =>
    obtain ⟨past, events, journal, unclosed, -⟩ := safe
    have outlives := outlives_react ended input
    obtain ⟨taken, more⟩ := outlives.journal
    refine ⟨past, events ++ taken, ?_, unclosed, fun running => ?_⟩
    · rw [more, journal]
      simp [closing, outlives.ending]
    · rw [outlives.ending, ended] at running
      cases running

theorem Sealed.run (safe : session.Sealed) (inputs : List Input) : (session.run inputs).Sealed := by
  induction inputs generalizing session with
  | nil => exact safe
  | cons input rest ih => exact ih (safe.react input)

/-- The next iteration of a runner at work breaks down: the clock overflows in it, or the bus
breaks down. -/
def BreaksDown (session : Session) : Prop :=
  session.ending = none ∧ session.stopRequested = false ∧
    (session.Overflows ∨
      ∃ item ∈ session.iterate.since session, item.ends? = some .aborted)

theorem breaksDown_of_aborted (running : session.ending = none)
    (aborted : session.iterate.ending = some .aborted) : session.BreaksDown := by
  cases asked : session.stopRequested with
  | true =>
    rw [session.iterate_of_asked running asked] at aborted
    cases aborted
  | false =>
    refine ⟨running, asked, ?_⟩
    cases session.fares_iterate running asked with
    | goesOn _ _ _ goes =>
      rw [goes] at aborted
      cases aborted
    | ends past item ending journal _ called ended =>
      refine .inr ⟨item, ?_, ?_⟩
      · rw [since, journal, List.drop_left]
        simp
      · rw [called, ← ended, aborted]
    | overflows _ _ _ late _ => exact .inl late

/-- A runner is found broken down only after an iteration in which it broke down. -/
theorem breaksDown_of_run (inputs : List Input) (running : session.ending = none)
    (aborted : (session.run inputs).ending = some .aborted) :
    ∃ early late, inputs = early ++ .iterate :: late ∧ (session.run early).BreaksDown := by
  induction inputs generalizing session with
  | nil => exact nomatch running.symm.trans aborted
  | cons input rest ih =>
    cases goes : (session.react input).ending with
    | none =>
      obtain ⟨early, late, parts, breaks⟩ := ih goes aborted
      exact ⟨input :: early, late, by rw [parts, List.cons_append], breaks⟩
    | some ending =>
      have still : (session.react input).ending = some .aborted :=
        (outlives_run goes rest).ending.symm.trans aborted
      by_cases iterates : input = .iterate
      · subst iterates
        exact ⟨[], rest, rfl, breaksDown_of_aborted running still⟩
      · rw [(session.untouched_react input iterates).ending, running] at goes
        cases goes

end Run

end Session

open Session

/-- Over every run of a session: as long as its runner is at work the bus is not closed. A runner
that stopped or failed closed the bus once, and nothing was asked of the bus later: the application
took notifications, that is all. A runner that broke down left the bus open, and did so only where
the bus broke down under it or the clock overflowed. Letting the session go is such a run as well,
and the runner has ended after it. -/
theorem bus_is_released_unless_the_runner_breaks_down (config : Config) (origin : Nat)
    (inputs : List Session.Input) :
    let start := Session.ofNode (Node.start config origin).value origin
    let session := start.run inputs
    (session.ending = none ∨ session.ending = some .aborted → .closed ∉ session.journal) ∧
      (∀ ending, session.ending = some ending → ending ≠ .aborted →
        ∃ (past : List Occurrence) (events : List Notification),
          session.journal = past ++ .closed :: events.map .taken ∧ .closed ∉ past) ∧
      (session.ending = some .aborted → ∃ early late, inputs = early ++ .iterate :: late ∧
        (start.run early).BreaksDown) ∧
      session.release = start.run (inputs ++ [.requestStop, .iterate]) ∧
      session.release.ending = some (session.ending.getD .stopped) := by
  intro start session
  have begun : start.Sealed := ⟨[], [], rfl, List.not_mem_nil, fun _ => rfl⟩
  have safe : session.Sealed := begun.run inputs
  have released : session.release = start.run (inputs ++ [.requestStop, .iterate]) :=
    (start.run_append inputs [.requestStop, .iterate]).symm
  refine ⟨fun unended => ?_, fun ending ended orderly => ?_, breaksDown_of_run inputs rfl,
    released, session.ending_release⟩
  · obtain running | aborted := unended
    · exact safe.unclosed running
    · obtain ⟨past, events, journal, unclosed, -⟩ := safe
      rw [journal]
      simp [closing, aborted, Ending.closing, unclosed]
  · obtain ⟨past, events, journal, unclosed, -⟩ := safe
    refine ⟨past, events, ?_, unclosed⟩
    cases ending with
    | aborted => exact absurd rfl orderly
    | stopped | transport =>
      rw [journal]
      simp [closing, ended, Ending.closing]

/-- A bus that breaks down as it is asked for a frame is never closed, not even when the session is
let go. -/
theorem broken_bus_stays_open :
    let opened := Session.ofNode (Node.start (Config.candidate 10 (by decide)) 0).value 0
    let last := (opened.run [.expectDeliveries [.crash], .iterate]).release
    last.ending = some .aborted ∧ Journal.closes last.journal = 0 := by
  decide +kernel

/-- A sound bus stays open when the clock overflows under the runner. -/
example :
    let opened := Session.ofNode (Node.start (Config.candidate 10 (by decide)) 0).value 0
    let last := (opened.run [.advance (Clock.limit - 1), .iterate]).release
    last.ending = some .aborted ∧ Journal.closes last.journal = 0 := by
  decide +kernel

end VehicleBus
