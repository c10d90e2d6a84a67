import VehicleBus.Clock
import VehicleBus.Notification

/-!
A reaction is what a node computes at one instant: a value, the frames it asks to
be transmitted and the notifications it makes on the way, both in order. It also
keeps the latest instant that it computed. A reaction whose latest instant lies
outside the clock did not happen: `settle` turns it into an overflow and yields
nothing else.
-/
namespace VehicleBus

/-- The frames and notifications of a reaction, each in order. -/
structure Outbox where
  transmit : List Frame := []
  events : List Notification := []
  deriving DecidableEq, Repr

/-- The second outbox behind the first. -/
def Outbox.append (first second : Outbox) : Outbox where
  transmit := first.transmit ++ second.transmit
  events := first.events ++ second.events

structure Reaction (α : Type) where
  value : α
  transmit : List Frame := []
  events : List Notification := []
  /-- The latest instant computed by adding a span to an instant. -/
  horizon : Nat := 0

namespace Reaction

/-- The second reaction, begun with the value of the first, after the first. -/
def andThen (first : Reaction α) (second : α → Reaction β) : Reaction β where
  value := (second first.value).value
  transmit := first.transmit ++ (second first.value).transmit
  events := first.events ++ (second first.value).events
  horizon := max first.horizon (second first.value).horizon

instance : Monad Reaction where
  pure value := { value }
  bind := andThen

/-- Hands a frame over for transmission. -/
def send (frame : Frame) : Reaction Unit := { value := (), transmit := [frame] }

/-- Makes notifications. -/
def notify (events : List Notification) : Reaction Unit := { value := (), events }

/-- The instant that lies a span after another. -/
def after (start span : Nat) : Reaction Nat := { value := start + span, horizon := start + span }

def outbox (reaction : Reaction α) : Outbox where
  transmit := reaction.transmit
  events := reaction.events

/-- Whether every instant of the reaction fits the clock. -/
def InRange (reaction : Reaction α) : Prop := reaction.horizon < Clock.limit

instance (reaction : Reaction α) : Decidable reaction.InRange :=
  inferInstanceAs (Decidable (_ < _))

/-- The outcome of a reaction, or nothing when the clock overflowed in it. -/
def settle (reaction : Reaction α) : Option (α × Outbox) :=
  if reaction.InRange then some (reaction.value, reaction.outbox) else none

section Projections

variable {α β : Type} (value : α) (first : Reaction α) (second : α → Reaction β)

@[simp] theorem value_pure : (pure value : Reaction α).value = value := rfl

@[simp] theorem transmit_pure : (pure value : Reaction α).transmit = [] := rfl

@[simp] theorem events_pure : (pure value : Reaction α).events = [] := rfl

@[simp] theorem horizon_pure : (pure value : Reaction α).horizon = 0 := rfl

@[simp] theorem value_bind : (first >>= second).value = (second first.value).value := rfl

@[simp] theorem transmit_bind :
    (first >>= second).transmit = first.transmit ++ (second first.value).transmit := rfl

@[simp] theorem events_bind :
    (first >>= second).events = first.events ++ (second first.value).events := rfl

@[simp] theorem horizon_bind :
    (first >>= second).horizon = max first.horizon (second first.value).horizon := rfl

variable (change : α → β)

@[simp] theorem value_map : (change <$> first).value = change first.value := rfl

@[simp] theorem transmit_map : (change <$> first).transmit = first.transmit := List.append_nil _

@[simp] theorem events_map : (change <$> first).events = first.events := List.append_nil _

@[simp] theorem horizon_map : (change <$> first).horizon = first.horizon := Nat.max_zero _

@[simp] theorem value_after (start span : Nat) : (after start span).value = start + span := rfl

@[simp] theorem transmit_after (start span : Nat) : (after start span).transmit = [] := rfl

@[simp] theorem events_after (start span : Nat) : (after start span).events = [] := rfl

@[simp] theorem horizon_after (start span : Nat) : (after start span).horizon = start + span := rfl

@[simp] theorem transmit_send (frame : Frame) : (send frame).transmit = [frame] := rfl

@[simp] theorem events_send (frame : Frame) : (send frame).events = [] := rfl

@[simp] theorem horizon_send (frame : Frame) : (send frame).horizon = 0 := rfl

@[simp] theorem transmit_notify (events : List Notification) : (notify events).transmit = [] := rfl

@[simp] theorem events_notify (events : List Notification) : (notify events).events = events := rfl

@[simp] theorem horizon_notify (events : List Notification) : (notify events).horizon = 0 := rfl

end Projections

theorem ext_fields {first second : Reaction α} (value : first.value = second.value)
    (transmit : first.transmit = second.transmit) (events : first.events = second.events)
    (horizon : first.horizon = second.horizon) : first = second := by
  cases first
  cases second
  simp_all

/-- What follows a reaction matters at its value only. -/
theorem bind_congr_value {first : Reaction α} {second third : α → Reaction β}
    (same : second first.value = third first.value) : (first >>= second) = (first >>= third) := by
  apply ext_fields <;> simp [same]

instance : LawfulMonad Reaction :=
  LawfulMonad.mk' Reaction
    (fun reaction => ext_fields rfl (List.append_nil _) (List.append_nil _) (Nat.max_zero _))
    (fun value second => ext_fields rfl (by simp) (by simp) (by simp))
    (fun reaction second third =>
      ext_fields rfl (by simp [List.append_assoc]) (by simp [List.append_assoc])
        (by simp [Nat.max_assoc]))

/-- A reaction settles exactly when all of its instants fit the clock, and then to
its value and outbox. -/
theorem settle_eq_some_iff (reaction : Reaction α) (outcome : α × Outbox) :
    reaction.settle = some outcome ↔
      reaction.InRange ∧ outcome = (reaction.value, reaction.outbox) := by
  unfold settle
  split <;> simp_all [eq_comm]

end Reaction

end VehicleBus
