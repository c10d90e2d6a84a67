import VehicleBus.TransmitQueue.Entry

/-!
The queue of frames that wait for the bus: one lane per priority, each ordered by
identifier, with frames of equal identifiers in the order in which they came.
Expired frames are dropped when they are met, not when they expire.

Memory for one more entry is taken to be there whenever a frame comes. Where it gives out the
frame would be refused and the queue stay as it was, and that answer is left out.
-/
namespace VehicleBus

/-- What a search for a frame to send finds in the lanes and leaves in them. -/
structure Pull where
  /-- The first live entry. -/
  found : Option Entry
  /-- The expired entries before it, in order. -/
  expired : List Entry
  lanes : List (List Entry)
  deriving DecidableEq, Repr

namespace Pull

/-- The search after a lane in which everything was expired. -/
def behind (lane : List Entry) (others : Pull) : Pull where
  found := others.found
  expired := lane ++ others.expired
  lanes := [] :: others.lanes

/-- Searches the lanes in order. -/
def search (now : Nat) : List (List Entry) → Pull
  | [] => { found := none, expired := [], lanes := [] }
  | lane :: rest =>
    match lane.dropWhile fun entry => !entry.live now with
    | next :: tail =>
      { found := some next
        expired := lane.takeWhile fun entry => !entry.live now
        lanes := tail :: rest }
    | [] => (search now rest).behind lane

theorem length_search (now : Nat) (lanes : List (List Entry)) :
    (search now lanes).lanes.length = lanes.length := by
  induction lanes with
  | nil => rfl
  | cons lane rest ih =>
    unfold search
    split <;> simp [behind, ih]

/-- A search neither loses nor invents entries, and keeps their order. -/
theorem search_conserves (now : Nat) (lanes : List (List Entry)) :
    (search now lanes).expired ++ (search now lanes).found.toList ++
      (search now lanes).lanes.flatten = lanes.flatten := by
  induction lanes with
  | nil => rfl
  | cons lane rest ih =>
    have whole := List.takeWhile_append_dropWhile (p := fun entry => !entry.live now) (l := lane)
    unfold search
    split
    · rename_i next tail remainder
      rw [remainder] at whole
      conv => rhs; rw [List.flatten_cons, ← whole]
      simp
    · simp [behind, ← ih, List.append_assoc]

/-- What a search drops is expired. -/
theorem not_live_of_mem_expired (now : Nat) (lanes : List (List Entry)) (entry : Entry)
    (member : entry ∈ (search now lanes).expired) : entry.live now = false := by
  induction lanes with
  | nil => cases member
  | cons lane rest ih =>
    have dropped := List.all_takeWhile (p := fun entry => !entry.live now) (l := lane)
    have whole := List.takeWhile_append_dropWhile (p := fun entry => !entry.live now) (l := lane)
    unfold search at member
    split at member
    · simpa using List.all_eq_true.mp dropped entry member
    · rename_i exhausted
      rw [exhausted, List.append_nil] at whole
      rw [whole] at dropped
      rcases List.mem_append.mp member with present | later
      · simpa using List.all_eq_true.mp dropped entry present
      · exact ih later

/-- What a search finds is live. -/
theorem live_of_found (now : Nat) (lanes : List (List Entry)) (entry : Entry)
    (found : (search now lanes).found = some entry) : entry.live now = true := by
  induction lanes with
  | nil => cases found
  | cons lane rest ih =>
    unfold search at found
    split at found
    · rename_i next tail remainder
      cases found
      have first := List.head?_dropWhile_not (fun entry => !entry.live now) lane
      rw [remainder] at first
      simpa using first
    · exact ih found

/-- Where nothing is found, nothing is left. -/
theorem flatten_eq_nil_of_not_found (now : Nat) (lanes : List (List Entry))
    (missing : (search now lanes).found = none) : (search now lanes).lanes.flatten = [] := by
  induction lanes with
  | nil => rfl
  | cons lane rest ih =>
    unfold search at missing ⊢
    split at missing
    · cases missing
    · simpa [behind] using ih missing

end Pull

/-- One lane for each priority. -/
structure TransmitQueue where
  lanes : List (List Entry)
  length_lanes : lanes.length = 8
  deriving DecidableEq, Repr

namespace TransmitQueue

/-- The number of lanes, one for each value of the priority. -/
def laneCount : Nat := 8

def empty : TransmitQueue := ⟨List.replicate laneCount [], rfl⟩

/-- All waiting entries, expired ones included, in the order in which they leave. -/
def toList (queue : TransmitQueue) : List Entry := queue.lanes.flatten

/-- The number of waiting entries, expired ones included. -/
def size (queue : TransmitQueue) : Nat := queue.toList.length

def isEmpty (queue : TransmitQueue) : Bool := queue.lanes.all List.isEmpty

/-- Puts an entry into the lane of its priority. -/
def insert (queue : TransmitQueue) (entry : Entry) : TransmitQueue where
  lanes := queue.lanes.modify entry.frame.id.priority.val (Entry.insert entry)
  length_lanes := by rw [List.length_modify, queue.length_lanes]

/-- Lets a frame wait from now on. -/
def enqueue (queue : TransmitQueue) (outgoing : Outgoing) (now : Nat) : TransmitQueue :=
  queue.insert (.ofOutgoing outgoing now)

/-- The search for a frame to send now. -/
def pull (queue : TransmitQueue) (now : Nat) : Pull := .search now queue.lanes

/-- The queue that a search leaves behind. -/
def afterPull (queue : TransmitQueue) (now : Nat) : TransmitQueue where
  lanes := (queue.pull now).lanes
  length_lanes := (Pull.length_search now queue.lanes).trans queue.length_lanes

/-- The most urgent live frame, and the queue without it and without what had expired
before it. -/
def dequeue (queue : TransmitQueue) (now : Nat) : Option Frame × TransmitQueue :=
  ((queue.pull now).found.map Entry.frame, queue.afterPull now)

/-- All live frames, taken out one after another until none is left. -/
def drain (queue : TransmitQueue) (now : Nat) : List Frame × TransmitQueue :=
  ((queue.toList.filter fun entry => entry.live now).map Entry.frame, empty)

theorem isEmpty_iff (queue : TransmitQueue) : queue.isEmpty = true ↔ queue.toList = [] := by
  simp [isEmpty, toList]

private theorem filter_expired (queue : TransmitQueue) (now : Nat) :
    (queue.pull now).expired.filter (fun entry => entry.live now) = [] := by
  apply List.filter_eq_nil_iff.mpr
  intro entry member
  simp [Pull.not_live_of_mem_expired now queue.lanes entry member]

/-- Draining is over where dequeuing finds nothing. -/
theorem drain_of_dequeue_none (queue : TransmitQueue) (now : Nat)
    (missing : (queue.dequeue now).1 = none) : (queue.drain now).1 = [] := by
  have none_found : (queue.pull now).found = none := Option.map_eq_none_iff.mp missing
  have parts := Pull.search_conserves now queue.lanes
  have nothing := Pull.flatten_eq_nil_of_not_found now queue.lanes none_found
  change (queue.pull now).expired ++ (queue.pull now).found.toList ++ _ = _ at parts
  rw [none_found, nothing] at parts
  simp [drain, toList, ← parts, filter_expired]

/-- Otherwise it goes on after the frame that dequeuing finds. -/
theorem drain_of_dequeue_some (queue : TransmitQueue) (now : Nat) (frame : Frame)
    (found : (queue.dequeue now).1 = some frame) :
    (queue.drain now).1 = frame :: ((queue.dequeue now).2.drain now).1 := by
  obtain ⟨entry, entry_found, rfl⟩ := Option.map_eq_some_iff.mp found
  have parts := Pull.search_conserves now queue.lanes
  have alive := Pull.live_of_found now queue.lanes entry entry_found
  change (queue.pull now).expired ++ (queue.pull now).found.toList ++ _ = _ at parts
  rw [entry_found] at parts
  simp only [drain, dequeue, toList, ← parts, List.filter_append, filter_expired]
  simp [afterPull, pull, alive]

end TransmitQueue

end VehicleBus
