/-!
The three choices of a node's owner, as a set of flags.
-/
namespace VehicleBus

/-- One choice. -/
inductive Flag where
  /-- Take part in the election of the sync master. -/
  | syncMaster
  /-- Deliver the frames of this node to its own application. -/
  | echoOwn
  /-- Deliver control frames to the application as well. -/
  | deliverControl
  deriving DecidableEq, Repr

def Flag.all : List Flag := [.syncMaster, .echoOwn, .deliverControl]

/-- A set of flags. -/
structure Options where
  syncMaster : Bool := false
  echoOwn : Bool := false
  deliverControl : Bool := false
  deriving DecidableEq, Repr

namespace Options

def none : Options := {}

def has (options : Options) : Flag → Bool
  | .syncMaster => options.syncMaster
  | .echoOwn => options.echoOwn
  | .deliverControl => options.deliverControl

/-- Puts one flag in or takes it out. -/
def set (options : Options) (flag : Flag) (on : Bool) : Options :=
  match flag with
  | .syncMaster => { options with syncMaster := on }
  | .echoOwn => { options with echoOwn := on }
  | .deliverControl => { options with deliverControl := on }

def ofList (flags : List Flag) : Options :=
  flags.foldl (fun options flag => options.set flag true) none

def toList (options : Options) : List Flag := Flag.all.filter options.has

def union (a b : Options) : Options where
  syncMaster := a.syncMaster || b.syncMaster
  echoOwn := a.echoOwn || b.echoOwn
  deliverControl := a.deliverControl || b.deliverControl

/-- The flags of the first set that the second lacks. -/
def remove (a b : Options) : Options where
  syncMaster := a.syncMaster && !b.syncMaster
  echoOwn := a.echoOwn && !b.echoOwn
  deliverControl := a.deliverControl && !b.deliverControl

/-- Whether the first set has every flag of the second. -/
def contains (a b : Options) : Bool := Flag.all.all fun flag => !b.has flag || a.has flag

theorem ext_has {a b : Options} (same : ∀ flag, a.has flag = b.has flag) : a = b := by
  obtain ⟨a₁, a₂, a₃⟩ := a
  obtain ⟨b₁, b₂, b₃⟩ := b
  have first : a₁ = b₁ := same .syncMaster
  have second : a₂ = b₂ := same .echoOwn
  have third : a₃ = b₃ := same .deliverControl
  subst first second third
  rfl

@[simp] theorem has_set (options : Options) (flag other : Flag) (on : Bool) :
    (options.set flag on).has other = if other = flag then on else options.has other := by
  cases flag <;> cases other <;> rfl

@[simp] theorem has_union (a b : Options) (flag : Flag) :
    (a.union b).has flag = (a.has flag || b.has flag) := by
  cases flag <;> rfl

@[simp] theorem has_remove (a b : Options) (flag : Flag) :
    (a.remove b).has flag = (a.has flag && !b.has flag) := by
  cases flag <;> rfl

theorem contains_iff (a b : Options) :
    a.contains b = true ↔ ∀ flag, b.has flag = true → a.has flag = true := by
  simp only [contains, List.all_eq_true, Bool.or_eq_true, Bool.not_eq_true']
  constructor
  · intro all flag present
    have known : flag ∈ Flag.all := by cases flag <;> decide
    rcases all flag known with absent | held
    · rw [present] at absent
      cases absent
    · exact held
  · intro all flag _
    cases present : b.has flag with
    | false => exact .inl rfl
    | true => exact .inr (all flag present)

end Options

end VehicleBus
