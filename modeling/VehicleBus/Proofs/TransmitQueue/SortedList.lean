import Mathlib.Data.List.Basic
import VehicleBus.TransmitQueue

/-!
The lanes of the transmit queue against a reference that has no lanes: one list of
entries, sorted stably by identifier after every insertion. The reference is written
with the sort of the standard library and an explicit mask, not with the insertion of
the lanes, so agreement of the two is a statement about both.

The main statement is that no sequence of calls, at whatever instants, tells the two
queues apart.
-/
namespace VehicleBus

/-- A call on a transmit queue. -/
inductive QueueCall where
  | enqueue (outgoing : Outgoing) (now : Nat)
  | dequeue (now : Nat)
  | size
  | isEmpty
  deriving DecidableEq, Repr

/-- What a call returns. -/
inductive QueueResult where
  | accepted
  | left (frame : Option Frame)
  | size (count : Nat)
  | isEmpty (answer : Bool)
  deriving DecidableEq, Repr

namespace TransmitQueue

def serve (queue : TransmitQueue) : QueueCall → QueueResult × TransmitQueue
  | .enqueue outgoing now => (.accepted, queue.enqueue outgoing now)
  | .dequeue now => (.left (queue.dequeue now).1, (queue.dequeue now).2)
  | .size => (.size queue.size, queue)
  | .isEmpty => (.isEmpty queue.isEmpty, queue)

/-- The results of a sequence of calls. -/
def answers (queue : TransmitQueue) : List QueueCall → List QueueResult
  | [] => []
  | call :: rest => (queue.serve call).1 :: (queue.serve call).2.answers rest

end TransmitQueue

/-- All waiting entries in the order in which they leave. -/
structure SortedQueue where
  waiting : List Entry
  deriving DecidableEq, Repr

namespace SortedQueue

/-- The identifier with nothing but its 29 low bits. -/
def maskedId (id : Identifier) : Identifier := ⟨id.word &&& 0x1FFFFFFF⟩

/-- The end of a lifetime that begins now, if the clock can hold it. -/
def expiry (now : Nat) : Option Nat → Option Nat
  | none => none
  | some lifetime =>
    if now + lifetime ≤ 18446744073709551615 then some (now + lifetime) else none

def entry (outgoing : Outgoing) (now : Nat) : Entry where
  frame := { outgoing.frame with id := maskedId outgoing.frame.id }
  deadline := expiry now outgoing.lifetime

/-- Waits behind everything that waits already, as far as the identifiers allow. -/
def enqueue (queue : SortedQueue) (outgoing : Outgoing) (now : Nat) : SortedQueue where
  waiting := (queue.waiting ++ [entry outgoing now]).mergeSort fun a b =>
    decide (a.frame.id.word ≤ b.frame.id.word)

/-- Removes entries from the front until one has no deadline or a later one than now. -/
def pop (now : Nat) : List Entry → Option Frame × List Entry
  | [] => (none, [])
  | first :: rest =>
    if ∀ deadline ∈ first.deadline, now < deadline then (some first.frame, rest)
    else pop now rest

def serve (queue : SortedQueue) : QueueCall → QueueResult × SortedQueue
  | .enqueue outgoing now => (.accepted, queue.enqueue outgoing now)
  | .dequeue now => (.left (pop now queue.waiting).1, ⟨(pop now queue.waiting).2⟩)
  | .size => (.size queue.waiting.length, queue)
  | .isEmpty => (.isEmpty queue.waiting.isEmpty, queue)

def answers (queue : SortedQueue) : List QueueCall → List QueueResult
  | [] => []
  | call :: rest => (queue.serve call).1 :: (queue.serve call).2.answers rest

end SortedQueue

theorem SortedQueue.maskedId_eq (id : Identifier) : maskedId id = id.masked := by
  have width : (0x1FFFFFFF : UInt32).toNat = 2 ^ 29 - 1 := rfl
  have words : (maskedId id).word.toNat = id.masked.word.toNat := by
    rw [Identifier.toNat_masked, Identifier.raw_eq, maskedId, UInt32.toNat_and, width,
      Nat.and_two_pow_sub_one_eq_mod]
  have same := UInt32.toNat_inj.mp words
  cases masked : maskedId id
  cases kept : id.masked
  simp_all

theorem SortedQueue.expiry_eq (now : Nat) (lifetime : Option Nat) :
    expiry now lifetime = Entry.deadlineOf lifetime now := by
  cases lifetime with
  | none => rfl
  | some span =>
    by_cases held : now + span ≤ 18446744073709551615
    · have inside : now + span < Clock.limit := by unfold Clock.limit; omega
      simp [expiry, Entry.deadlineOf, Option.filter, held, inside]
    · have outside : ¬ now + span < Clock.limit := by unfold Clock.limit; omega
      simp [expiry, Entry.deadlineOf, Option.filter, held, outside]

theorem SortedQueue.entry_eq (outgoing : Outgoing) (now : Nat) :
    entry outgoing now = Entry.ofOutgoing outgoing now := by
  rw [entry, Entry.ofOutgoing, maskedId_eq, expiry_eq]

namespace Entry

/-- Insertion passes everything of a smaller or equal key. -/
theorem insert_append_of_le (entry : Entry) (before after : List Entry)
    (le : ∀ other ∈ before, other.key ≤ entry.key) :
    insert entry (before ++ after) = before ++ insert entry after := by
  induction before with
  | nil => rfl
  | cons head tail ih =>
    rw [List.cons_append, insert, if_pos (le head (by simp)),
      ih (fun other member => le other (by simp [member])), List.cons_append]

/-- Insertion never comes to entries behind a greater key. -/
theorem insert_append_of_lt (entry : Entry) (before after : List Entry)
    (lt : ∀ other ∈ after, entry.key < other.key) :
    insert entry (before ++ after) = insert entry before ++ after := by
  induction before with
  | nil =>
    cases after with
    | nil => rfl
    | cons head tail =>
      have first := lt head (by simp)
      simp [insert, Nat.not_le.mpr first]
  | cons head tail ih =>
    rw [List.cons_append, insert, insert, ih]
    split <;> rfl

/-- Appending and sorting stably is insertion. -/
theorem mergeSort_append_singleton (entry : Entry) (entries : List Entry)
    (ordered : entries.Pairwise fun a b => a.key ≤ b.key) :
    ((entries ++ [entry]).mergeSort fun a b => decide (a.key ≤ b.key)) =
      insert entry entries := by
  have trans (a b c : Entry) (first : decide (a.key ≤ b.key) = true)
      (second : decide (b.key ≤ c.key) = true) : decide (a.key ≤ c.key) = true := by
    simp only [decide_eq_true_eq] at *
    omega
  have total (a b : Entry) : (decide (a.key ≤ b.key) || decide (b.key ≤ a.key)) = true := by
    simp only [Bool.or_eq_true, decide_eq_true_eq]
    omega
  induction entries with
  | nil => simp [insert]
  | cons head tail ih =>
    obtain ⟨first, rest⟩ := List.pairwise_cons.mp ordered
    obtain ⟨left, right, sorted, parts, smaller⟩ :=
      List.mergeSort_cons trans total head (tail ++ [entry])
    rw [ih rest] at parts
    simp only [Bool.not_eq_true', decide_eq_false_iff_not, Nat.not_le] at smaller
    -- What the sort puts before the head is smaller than it, so it is not of the tail.
    have before_head : ∀ other ∈ left, other = entry := by
      intro other member
      have known : other ∈ insert entry tail := by
        rw [parts]
        exact List.mem_append_left right member
      rcases List.mem_cons.mp ((insert_perm entry tail).mem_iff.mp known) with new | old
      · exact new
      · have later := first other old
        have sooner := smaller other member
        omega
    rw [List.cons_append, sorted, insert]
    by_cases passes : head.key ≤ entry.key
    · have none_before : left = [] := by
        apply List.eq_nil_iff_forall_not_mem.mpr
        intro other member
        have sooner := smaller other member
        rw [before_head other member] at sooner
        omega
      rw [if_pos passes, parts, none_before]
      rfl
    · have stops : insert entry tail = entry :: tail :=
        insert_append_of_lt entry [] tail fun other member => by
          have later := first other member
          omega
      have ordered_sort := List.pairwise_mergeSort trans total (head :: (tail ++ [entry]))
      rw [stops] at parts
      rw [if_neg passes]
      cases left with
      | nil =>
        rw [sorted, List.nil_append, ← List.nil_append right, ← parts] at ordered_sort
        have wrong := (List.pairwise_cons.mp ordered_sort).1 entry (by simp)
        simp only [decide_eq_true_eq] at wrong
        exact absurd wrong passes
      | cons next others =>
        obtain ⟨rfl, remainder⟩ := List.cons_eq_cons.mp parts
        have alone : others = [] := by
          apply List.eq_nil_iff_forall_not_mem.mpr
          intro other member
          have repeated := before_head other (by simp [member])
          have later := first other (by simp [remainder, member])
          rw [repeated] at later
          exact passes later
        rw [remainder, alone]
        rfl

/-- In an identifier of 29 bits the priority leads. -/
theorem priority_eq_div (entry : Entry) (masked : entry.key < 0x20000000) :
    entry.frame.id.priority.val = entry.key / 0x4000000 := by
  rw [Identifier.priority_eq]
  unfold key at *
  omega

end Entry

/-- What the lanes keep: their concatenation is ordered, the identifiers are masked,
and each entry is in the lane of its priority. -/
structure Arranged (lanes : List (List Entry)) : Prop where
  ordered : lanes.flatten.Pairwise fun a b => a.key ≤ b.key
  masked : ∀ entry ∈ lanes.flatten, entry.key < 0x20000000
  home : ∀ (i : Nat) (lane : List Entry), lanes[i]? = some lane →
    ∀ entry ∈ lane, entry.frame.id.priority.val = i

namespace Arranged

variable {lanes : List (List Entry)}

/-- An entry finds its place in the whole list by going to the lane of its priority:
the lanes before hold smaller identifiers only and the lanes behind greater ones. -/
theorem flatten_modify (arranged : Arranged lanes) (full : lanes.length = 8) (entry : Entry)
    (masked : entry.key < 0x20000000) :
    (lanes.modify entry.frame.id.priority.val (Entry.insert entry)).flatten =
      Entry.insert entry lanes.flatten := by
  have own := entry.priority_eq_div masked
  have inside : entry.frame.id.priority.val < lanes.length := by
    rw [full]
    exact entry.frame.id.priority.isLt
  generalize place : entry.frame.id.priority.val = i at own inside ⊢
  have split : lanes = lanes.take i ++ lanes[i] :: lanes.drop (i + 1) := by
    rw [List.getElem_cons_drop, List.take_append_drop]
  have before : ∀ other ∈ (lanes.take i).flatten, other.key ≤ entry.key := by
    intro other member
    obtain ⟨lane, listed, waits⟩ := List.mem_flatten.mp member
    obtain ⟨j, at_j⟩ := List.mem_iff_getElem?.mp listed
    rw [List.getElem?_take] at at_j
    split at at_j
    · have priority := arranged.home j lane at_j other waits
      have known : other ∈ lanes.flatten :=
        List.mem_flatten.mpr ⟨lane, List.mem_of_getElem? at_j, waits⟩
      rw [other.priority_eq_div (arranged.masked other known)] at priority
      omega
    · cases at_j
  have behind : ∀ other ∈ (lanes.drop (i + 1)).flatten, entry.key < other.key := by
    intro other member
    obtain ⟨lane, listed, waits⟩ := List.mem_flatten.mp member
    obtain ⟨j, at_j⟩ := List.mem_iff_getElem?.mp listed
    rw [List.getElem?_drop] at at_j
    have priority := arranged.home (i + 1 + j) lane at_j other waits
    have known : other ∈ lanes.flatten :=
      List.mem_flatten.mpr ⟨lane, List.mem_of_getElem? at_j, waits⟩
    rw [other.priority_eq_div (arranged.masked other known)] at priority
    omega
  rw [List.modify_eq_take_cons_drop inside, List.flatten_append, List.flatten_cons]
  conv => rhs; rw [split, List.flatten_append, List.flatten_cons]
  rw [Entry.insert_append_of_le entry _ _ before, Entry.insert_append_of_lt entry _ _ behind]

theorem insert (arranged : Arranged lanes) (full : lanes.length = 8) (entry : Entry)
    (masked : entry.key < 0x20000000) :
    Arranged (lanes.modify entry.frame.id.priority.val (Entry.insert entry)) where
  ordered := by
    rw [arranged.flatten_modify full entry masked]
    exact Entry.insert_pairwise entry _ arranged.ordered
  masked := by
    intro other member
    rw [arranged.flatten_modify full entry masked] at member
    rcases List.mem_cons.mp ((Entry.insert_perm entry _).mem_iff.mp member) with rfl | old
    · exact masked
    · exact arranged.masked other old
  home := by
    intro i lane at_i other member
    rw [List.getElem?_modify] at at_i
    obtain ⟨old, at_old, result⟩ := Option.map_eq_some_iff.mp at_i
    split at result
    · rename_i chosen
      subst result
      rcases List.mem_cons.mp ((Entry.insert_perm entry old).mem_iff.mp member) with rfl | known
      · exact chosen
      · exact arranged.home i old at_old other known
    · subst result
      exact arranged.home i _ at_old other member

/-- A search leaves in each lane a part of what was there. -/
private theorem subset_of_search (now : Nat) (lanes : List (List Entry)) (i : Nat)
    (lane : List Entry) (left : (Pull.search now lanes).lanes[i]? = some lane) :
    ∃ old, lanes[i]? = some old ∧ ∀ entry ∈ lane, entry ∈ old := by
  induction lanes generalizing i with
  | nil => simp [Pull.search] at left
  | cons head rest ih =>
    unfold Pull.search at left
    split at left
    · rename_i next tail remainder
      cases i with
      | zero =>
        cases left
        refine ⟨head, rfl, fun entry member => ?_⟩
        apply (List.dropWhile_sublist (fun entry : Entry => !entry.live now)).subset
        rw [remainder]
        exact List.mem_cons_of_mem next member
      | succ i => exact ⟨lane, left, fun entry member => member⟩
    · cases i with
      | zero =>
        cases left
        exact ⟨head, rfl, fun entry member => absurd member List.not_mem_nil⟩
      | succ i => exact ih i left

theorem search (arranged : Arranged lanes) (now : Nat) :
    Arranged (Pull.search now lanes).lanes := by
  have part : (Pull.search now lanes).lanes.flatten.Sublist lanes.flatten := by
    rw [← Pull.search_conserves now lanes]
    exact List.sublist_append_right _ _
  refine ⟨arranged.ordered.sublist part, fun entry member => ?_, fun i lane at_i entry member => ?_⟩
  · exact arranged.masked entry (part.subset member)
  · obtain ⟨old, at_old, kept⟩ := subset_of_search now lanes i lane at_i
    exact arranged.home i old at_old entry (kept entry member)

theorem empty : Arranged TransmitQueue.empty.lanes where
  ordered := .nil
  masked := fun _ member => absurd member List.not_mem_nil
  home := by
    intro i lane at_i entry member
    have blank := List.eq_of_mem_replicate (List.mem_of_getElem? at_i)
    rw [blank] at member
    exact absurd member List.not_mem_nil

end Arranged

namespace SortedQueue

/-- Expired entries at the front do not count. -/
theorem pop_append_of_expired (now : Nat) (expired rest : List Entry)
    (dead : ∀ entry ∈ expired, entry.live now = false) :
    pop now (expired ++ rest) = pop now rest := by
  induction expired with
  | nil => rfl
  | cons head tail ih =>
    have gone : ¬ ∀ deadline ∈ head.deadline, now < deadline := by
      rw [← Entry.live_iff, dead head (by simp)]
      decide
    rw [List.cons_append, pop, if_neg gone]
    exact ih (fun entry member => dead entry (by simp [member]))

/-- Searching lane after lane is searching their concatenation. -/
theorem pop_flatten (now : Nat) (lanes : List (List Entry)) :
    pop now lanes.flatten =
      ((Pull.search now lanes).found.map Entry.frame, (Pull.search now lanes).lanes.flatten) := by
  have whole := Pull.search_conserves now lanes
  rw [List.append_assoc] at whole
  rw [← whole, pop_append_of_expired now _ _ (Pull.not_live_of_mem_expired now lanes)]
  cases found : (Pull.search now lanes).found with
  | none =>
    have nothing := Pull.flatten_eq_nil_of_not_found now lanes found
    rw [nothing]
    rfl
  | some entry =>
    have alive := (Entry.live_iff entry now).mp (Pull.live_of_found now lanes entry found)
    rw [Option.toList_some, List.singleton_append, pop, if_pos alive, Option.map_some]

/-- One list stands for the lanes. -/
structure Represents (sorted : SortedQueue) (queue : TransmitQueue) : Prop where
  same : sorted.waiting = queue.toList
  arranged : Arranged queue.lanes

theorem key_ofOutgoing_lt (outgoing : Outgoing) (now : Nat) :
    (Entry.ofOutgoing outgoing now).key < 0x20000000 := by
  have bound := outgoing.frame.id.raw_lt
  rw [← Identifier.toNat_masked] at bound
  exact bound

theorem Represents.enqueue {sorted : SortedQueue} {queue : TransmitQueue}
    (represents : Represents sorted queue) (outgoing : Outgoing) (now : Nat) :
    Represents (sorted.enqueue outgoing now) (queue.enqueue outgoing now) where
  same := by
    have words (a b : Entry) : a.frame.id.word ≤ b.frame.id.word ↔ a.key ≤ b.key :=
      UInt32.le_iff_toNat_le
    have masked := key_ofOutgoing_lt outgoing now
    simp only [SortedQueue.enqueue, entry_eq, words, represents.same]
    rw [Entry.mergeSort_append_singleton _ queue.toList represents.arranged.ordered]
    exact (represents.arranged.flatten_modify queue.length_lanes _ masked).symm
  arranged :=
    represents.arranged.insert queue.length_lanes _ (key_ofOutgoing_lt outgoing now)

theorem Represents.dequeue {sorted : SortedQueue} {queue : TransmitQueue}
    (represents : Represents sorted queue) (now : Nat) :
    (pop now sorted.waiting).1 = (queue.dequeue now).1 ∧
      Represents ⟨(pop now sorted.waiting).2⟩ (queue.dequeue now).2 := by
  have found := pop_flatten now queue.lanes
  rw [represents.same, TransmitQueue.toList, found]
  exact ⟨rfl, rfl, represents.arranged.search now⟩

theorem Represents.isEmpty_eq {sorted : SortedQueue} {queue : TransmitQueue}
    (represents : Represents sorted queue) : queue.isEmpty = sorted.waiting.isEmpty := by
  rw [Bool.eq_iff_iff, TransmitQueue.isEmpty_iff, represents.same, List.isEmpty_iff]

/-- One call returns the same from both and keeps the representation. -/
theorem Represents.serve {sorted : SortedQueue} {queue : TransmitQueue}
    (represents : Represents sorted queue) (call : QueueCall) :
    (queue.serve call).1 = (sorted.serve call).1 ∧
      Represents (sorted.serve call).2 (queue.serve call).2 := by
  cases call with
  | enqueue outgoing now => exact ⟨rfl, represents.enqueue outgoing now⟩
  | dequeue now =>
    obtain ⟨frame, rest⟩ := represents.dequeue now
    exact ⟨congrArg QueueResult.left frame.symm, rest⟩
  | size =>
    have same : queue.size = sorted.waiting.length := by
      rw [represents.same]
      rfl
    exact ⟨congrArg QueueResult.size same, represents⟩
  | isEmpty => exact ⟨congrArg QueueResult.isEmpty represents.isEmpty_eq, represents⟩

theorem Represents.answers {sorted : SortedQueue} {queue : TransmitQueue}
    (represents : Represents sorted queue) (calls : List QueueCall) :
    queue.answers calls = sorted.answers calls := by
  induction calls generalizing sorted queue with
  | nil => rfl
  | cons call rest ih =>
    obtain ⟨result, after⟩ := represents.serve call
    rw [TransmitQueue.answers, SortedQueue.answers, result, ih after]

end SortedQueue

/-- Whatever is enqueued and dequeued at whatever instants, a new queue of eight lanes
answers as one list that is stably sorted by identifier. -/
theorem lanes_answer_as_one_sorted_list (calls : List QueueCall) :
    TransmitQueue.empty.answers calls = (SortedQueue.mk []).answers calls := by
  have begins : SortedQueue.Represents ⟨[]⟩ TransmitQueue.empty := ⟨rfl, .empty⟩
  exact begins.answers calls

end VehicleBus
