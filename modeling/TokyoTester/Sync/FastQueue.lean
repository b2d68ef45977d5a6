import TokyoTester.Library.Circular
import TokyoTester.Library.Simulation

set_option autoImplicit false

/-! # The queue of unsent changes (`fast-queue.ts`)

`FastQueue` is a double-ended queue in a circular buffer that doubles its capacity when it is full.
It answers every sequence of calls as a list does: the buffer holds the list from its head on, and
the copy of a resize lays it out from the first cell of a new buffer. -/

namespace TokyoTester

open Circular

/-- `FastQueue`. A cell is empty or has an item. -/
structure FastQueue (α : Type) where
  buffer : List (Option α)
  head : Nat := 0
  tail : Nat := 0
  size : Nat := 0
  capacity : Nat
deriving DecidableEq, Repr

namespace FastQueue

variable {α : Type}

/-- The constructor. -/
def new (initialCapacity : Nat) : FastQueue α where
  capacity := initialCapacity
  buffer := List.replicate initialCapacity none

/-- The value of a cell; outside the buffer it is `undefined`. -/
def cell (q : FastQueue α) (index : Nat) : Option α := q.buffer[index]?.join

/-- The loop of `resize`, with `n` items to go. -/
def copyInto (q : FastQueue α) : Nat → Nat → Nat → List (Option α) → List (Option α)
  | 0, _, _, newBuffer => newBuffer
  | n + 1, i, index, newBuffer =>
    q.copyInto n (i + 1) ((index + 1) % q.capacity) (newBuffer.set i (q.cell index))

def resize (q : FastQueue α) : FastQueue α where
  buffer := q.copyInto q.size 0 q.head (List.replicate (q.capacity * 2) none)
  head := 0
  tail := q.size
  size := q.size
  capacity := q.capacity * 2

/-- The queue, resized when it is full. -/
def withRoom (q : FastQueue α) : FastQueue α := if q.size = q.capacity then q.resize else q

def enqueue (item : α) (q : FastQueue α) : FastQueue α :=
  let q := q.withRoom
  { q with
    buffer := q.buffer.set q.tail (some item)
    tail := (q.tail + 1) % q.capacity
    size := q.size + 1 }

/-- The head is a number of JavaScript, whose difference with one is never below minus one. -/
def unshift (item : α) (q : FastQueue α) : FastQueue α :=
  let q := q.withRoom
  let head := (q.head + q.capacity - 1) % q.capacity
  { q with buffer := q.buffer.set head (some item), head, size := q.size + 1 }

def unshiftMany (items : List α) (q : FastQueue α) : FastQueue α :=
  items.reverse.foldl (fun q item => q.unshift item) q

def dequeue (q : FastQueue α) : Option α × FastQueue α :=
  if q.size = 0 then (none, q)
  else
    (q.cell q.head, { q with
      buffer := q.buffer.set q.head none
      head := (q.head + 1) % q.capacity
      size := q.size - 1 })

/-- The loop of `dequeueMany`. -/
def dequeueLoop : Nat → List α → FastQueue α → List α × FastQueue α
  | 0, items, q => (items, q)
  | n + 1, items, q =>
    let (item, q) := q.dequeue
    dequeueLoop n (items ++ item.toList) q

def dequeueMany (count : Int) (q : FastQueue α) : List α × FastQueue α :=
  dequeueLoop (min count q.size).toNat [] q

def peek (q : FastQueue α) : Option α := if q.size = 0 then none else q.cell q.head

def getSize (q : FastQueue α) : Nat := q.size

def isEmpty (q : FastQueue α) : Bool := q.size = 0

def clear (q : FastQueue α) : FastQueue α where
  buffer := List.replicate q.capacity none
  head := 0
  tail := 0
  size := 0
  capacity := q.capacity

/-- The loop of `toArray`. -/
def collect (q : FastQueue α) : Nat → Nat → List α → List α
  | 0, _, items => items
  | n + 1, index, items =>
    q.collect n ((index + 1) % q.capacity) (items ++ (q.cell index).toList)

def toArray (q : FastQueue α) : List α := q.collect q.size q.head []

end FastQueue

/-! ## Calls -/

/-- A call of a queue. -/
inductive QueueCall (α : Type) where
  | enqueue (item : α)
  | unshift (item : α)
  | unshiftMany (items : List α)
  | dequeue
  | dequeueMany (count : Int)
  | peek
  | getSize
  | isEmpty
  | clear
  | toArray
deriving DecidableEq, Repr

/-- What a call returns. -/
inductive QueueValue (α : Type) where
  | nothing
  | item (item : Option α)
  | items (items : List α)
  | size (size : Nat)
  | flag (flag : Bool)
deriving DecidableEq, Repr

section Calls

variable {α : Type}

/-- A call of a `FastQueue`. -/
def FastQueue.call : QueueCall α → FastQueue α → QueueValue α × FastQueue α
  | .enqueue item, q => (.nothing, q.enqueue item)
  | .unshift item, q => (.nothing, q.unshift item)
  | .unshiftMany items, q => (.nothing, q.unshiftMany items)
  | .dequeue, q => (.item q.dequeue.1, q.dequeue.2)
  | .dequeueMany count, q => (.items (q.dequeueMany count).1, (q.dequeueMany count).2)
  | .peek, q => (.item q.peek, q)
  | .getSize, q => (.size q.getSize, q)
  | .isEmpty, q => (.flag q.isEmpty, q)
  | .clear, q => (.nothing, q.clear)
  | .toArray, q => (.items q.toArray, q)

/-- The call of a list that stands for the queue. -/
def listCall : QueueCall α → List α → QueueValue α × List α
  | .enqueue item, l => (.nothing, l ++ [item])
  | .unshift item, l => (.nothing, item :: l)
  | .unshiftMany items, l => (.nothing, items ++ l)
  | .dequeue, l => (.item l.head?, l.tail)
  | .dequeueMany count, l => (.items (l.take count.toNat), l.drop count.toNat)
  | .peek, l => (.item l.head?, l)
  | .getSize, l => (.size l.length, l)
  | .isEmpty, l => (.flag l.isEmpty, l)
  | .clear, _ => (.nothing, [])
  | .toArray, l => (.items l, l)

end Calls

namespace FastQueue

variable {α : Type}

/-- The queue stands for the list. -/
structure Represents (q : FastQueue α) (items : List α) : Prop where
  cells : q.buffer.length = q.capacity
  head : q.head < q.capacity
  tail : q.tail = slot q.capacity q.head q.size
  size : q.size = items.length
  fits : q.size ≤ q.capacity
  holds : Holds q.buffer q.capacity q.head items

variable {q : FastQueue α} {items : List α} {x : α}

theorem represents_new {initialCapacity : Nat} (h : 1 ≤ initialCapacity) :
    (new initialCapacity : FastQueue α).Represents [] where
  cells := List.length_replicate
  head := h
  tail := (slot_zero h).symm
  size := rfl
  fits := Nat.zero_le _
  holds := holds_nil

theorem represents_clear (h : q.Represents items) : q.clear.Represents [] where
  cells := List.length_replicate
  head := Nat.zero_lt_of_lt h.head
  tail := (slot_zero (Nat.zero_lt_of_lt h.head)).symm
  size := rfl
  fits := Nat.zero_le _
  holds := holds_nil

/-- An item is read from its cell. -/
theorem Represents.cell_slot (h : q.Represents items) {i : Nat} (hi : items[i]? = some x) :
    q.cell (slot q.capacity q.head i) = some x := by
  unfold cell
  rw [h.holds i x hi]
  rfl

/-! ## Resizing -/

theorem length_copyInto {n i index : Nat} {newBuffer : List (Option α)} :
    (q.copyInto n i index newBuffer).length = newBuffer.length := by
  induction n generalizing i index newBuffer with
  | zero => rfl
  | succ n ih =>
      unfold copyInto
      rw [ih, List.length_set]

/-- After some items the first cells of the new buffer hold them. -/
theorem Represents.copyInto (h : q.Represents items) {n i : Nat} {newBuffer : List (Option α)}
    (hlength : items.length ≤ newBuffer.length) (hn : i + n = items.length)
    (hcopied : ∀ j < i, ∀ y : α, items[j]? = some y → newBuffer[j]? = some (some y)) :
    ∀ (j : Nat) (y : α), items[j]? = some y →
      (q.copyInto n i (slot q.capacity q.head i) newBuffer)[j]? = some (some y) := by
  induction n generalizing i newBuffer with
  | zero =>
      intro j y hy
      have hj := lt_of_item hy
      exact hcopied j (by omega) y hy
  | succ n ih =>
      unfold FastQueue.copyInto
      rw [slot_succ]
      refine ih (by rwa [List.length_set]) (by omega) fun j hj y hy => ?_
      rcases Nat.lt_or_ge j i with hlt | hge
      · rw [List.getElem?_set_ne (by omega)]
        exact hcopied j hlt y hy
      · obtain rfl : j = i := by omega
        rw [List.getElem?_set_self (by omega), h.cell_slot hy]

theorem Represents.resize (h : q.Represents items) : q.resize.Represents items := by
  have hpositive := Nat.zero_lt_of_lt h.head
  have hfits := h.size ▸ h.fits
  refine ⟨?_, by simpa [FastQueue.resize] using hpositive, ?_, h.size, ?_, ?_⟩
  · unfold FastQueue.resize
    rw [length_copyInto, List.length_replicate]
  · have hlt : q.size < q.capacity * 2 := by have := h.fits; omega
    simp [FastQueue.resize, slot, Nat.mod_eq_of_lt hlt]
  · have := h.fits
    show q.size ≤ q.capacity * 2
    omega
  · intro i y hy
    have hi := lt_of_item hy
    have hslot : slot (q.capacity * 2) 0 i = i := by
      rw [slot, Nat.zero_add]
      exact Nat.mod_eq_of_lt (by omega)
    show (q.copyInto q.size 0 q.head _)[slot (q.capacity * 2) 0 i]? = some (some y)
    rw [hslot, ← slot_zero h.head]
    have hnew : items.length ≤ (List.replicate (q.capacity * 2) (none : Option α)).length := by
      rw [List.length_replicate]
      omega
    exact h.copyInto hnew (by rw [h.size, Nat.zero_add]) (fun j hj => absurd hj (by omega)) i y hy

/-- After it there is room for an item. -/
theorem Represents.withRoom (h : q.Represents items) :
    q.withRoom.Represents items ∧ q.withRoom.size < q.withRoom.capacity := by
  unfold FastQueue.withRoom
  split_ifs with hfull
  · refine ⟨h.resize, ?_⟩
    have := h.head
    show q.size < q.capacity * 2
    omega
  · exact ⟨h, by have := h.fits; omega⟩

/-! ## One call -/

theorem Represents.enqueue (h : q.Represents items) (item : α) :
    (q.enqueue item).Represents (items ++ [item]) := by
  obtain ⟨hr, hroom⟩ := h.withRoom
  refine ⟨?_, hr.head, ?_, ?_, hroom, ?_⟩
  · simp only [FastQueue.enqueue, List.length_set]
    exact hr.cells
  · simp only [FastQueue.enqueue]
    rw [hr.tail, slot_succ]
  · simp [FastQueue.enqueue, hr.size]
  · simp only [FastQueue.enqueue]
    rw [hr.tail, hr.size]
    exact hr.holds.push hr.cells hr.head (hr.size ▸ hroom)

theorem Represents.unshift (h : q.Represents items) (item : α) :
    (q.unshift item).Represents (item :: items) := by
  obtain ⟨hr, hroom⟩ := h.withRoom
  refine ⟨?_, Nat.mod_lt _ (Nat.zero_lt_of_lt hr.head), ?_, ?_, hroom, ?_⟩
  · simp only [FastQueue.unshift, List.length_set]
    exact hr.cells
  · simp only [FastQueue.unshift]
    rw [slot_back hr.head]
    exact hr.tail
  · simp [FastQueue.unshift, hr.size]
  · exact hr.holds.unshift hr.cells hr.head (hr.size ▸ hroom)

/-- The items are put in front from the last one to the first one. -/
theorem Represents.unshiftMany (h : q.Represents items) (more : List α) :
    (q.unshiftMany more).Represents (more ++ items) := by
  unfold FastQueue.unshiftMany
  induction more generalizing q items with
  | nil => exact h
  | cons item more ih =>
      rw [List.reverse_cons, List.foldl_append]
      exact (ih h).unshift item

theorem Represents.dequeue (h : q.Represents items) :
    q.dequeue.1 = items.head? ∧ q.dequeue.2.Represents items.tail := by
  unfold FastQueue.dequeue
  cases items with
  | nil =>
      have hempty : q.size = 0 := h.size
      rw [if_pos hempty]
      exact ⟨rfl, h⟩
  | cons x rest =>
      have hsize : q.size = rest.length + 1 := h.size
      rw [if_neg (by omega)]
      have hfirst : q.cell q.head = some x := by
        unfold cell
        rw [h.holds.first h.head]
        rfl
      refine ⟨hfirst, ?_, Nat.mod_lt _ (Nat.zero_lt_of_lt h.head), ?_, ?_, ?_, ?_⟩
      · rw [List.length_set]
        exact h.cells
      · show q.tail = slot q.capacity ((q.head + 1) % q.capacity) (q.size - 1)
        rw [slot_forward, h.tail]
        congr 1
        omega
      · show q.size - 1 = rest.length
        omega
      · have := h.fits
        show q.size - 1 ≤ q.capacity
        omega
      · exact h.holds.shift h.head (h.size ▸ h.fits)

/-- The loop takes items away as long as there are some. -/
theorem Represents.dequeueLoop (h : q.Represents items) {n : Nat} (taken : List α)
    (hn : n ≤ items.length) :
    (FastQueue.dequeueLoop n taken q).1 = taken ++ items.take n ∧
      (FastQueue.dequeueLoop n taken q).2.Represents (items.drop n) := by
  induction n generalizing q items taken with
  | zero =>
      rw [List.take_zero, List.append_nil, List.drop_zero]
      exact ⟨rfl, h⟩
  | succ n ih =>
      cases items with
      | nil => exact absurd hn (by simp)
      | cons x rest =>
          obtain ⟨hvalue, hrest⟩ := h.dequeue
          obtain ⟨htaken, hend⟩ := ih hrest (taken ++ q.dequeue.1.toList) (by simpa using hn)
          refine ⟨?_, hend⟩
          show (FastQueue.dequeueLoop n (taken ++ q.dequeue.1.toList) q.dequeue.2).1 = _
          rw [htaken, hvalue]
          simp

theorem Represents.dequeueMany (h : q.Represents items) (count : Int) :
    (q.dequeueMany count).1 = items.take count.toNat ∧
      (q.dequeueMany count).2.Represents (items.drop count.toNat) := by
  have hcount : (min count q.size).toNat = min count.toNat items.length := by
    rw [h.size]
    omega
  unfold FastQueue.dequeueMany
  rw [hcount]
  obtain ⟨htaken, hend⟩ := h.dequeueLoop (n := min count.toNat items.length) [] (min_le_right _ _)
  refine ⟨?_, ?_⟩
  · rw [htaken, List.nil_append, List.take_eq_take_iff]
    omega
  · have hdrop : items.drop (min count.toNat items.length) = items.drop count.toNat := by
      rw [List.drop_eq_drop_iff]
      omega
    rwa [hdrop] at hend

theorem Represents.peek (h : q.Represents items) : q.peek = items.head? := by
  unfold FastQueue.peek
  rw [← h.dequeue.1, FastQueue.dequeue]
  split_ifs <;> rfl

/-- What `toArray` has collected after some items. -/
theorem Represents.collect (h : q.Represents items) {n i : Nat} (collected : List α)
    (hn : i + n = items.length) :
    q.collect n (slot q.capacity q.head i) collected = collected ++ items.drop i := by
  induction n generalizing i collected with
  | zero => simp [FastQueue.collect, List.drop_eq_nil_of_le (show items.length ≤ i by omega)]
  | succ n ih =>
      have hi : i < items.length := by omega
      unfold FastQueue.collect
      rw [slot_succ, ih _ (by omega), h.cell_slot (List.getElem?_eq_getElem hi),
        List.drop_eq_getElem_cons hi]
      simp

theorem Represents.toArray (h : q.Represents items) : q.toArray = items := by
  have hall := h.collect (n := q.size) (i := 0) [] (by rw [h.size, Nat.zero_add])
  rwa [slot_zero h.head] at hall

/-! ## All calls -/

theorem simulates_list :
    Simulation.Simulates (FastQueue.call (α := α)) listCall Represents := by
  intro call q items h
  cases call with
  | enqueue item => exact ⟨rfl, h.enqueue item⟩
  | unshift item => exact ⟨rfl, h.unshift item⟩
  | unshiftMany more => exact ⟨rfl, h.unshiftMany more⟩
  | dequeue => exact ⟨congrArg QueueValue.item h.dequeue.1, h.dequeue.2⟩
  | dequeueMany count =>
      exact ⟨congrArg QueueValue.items (h.dequeueMany count).1, (h.dequeueMany count).2⟩
  | peek => exact ⟨congrArg QueueValue.item h.peek, h⟩
  | getSize => exact ⟨congrArg QueueValue.size h.size, h⟩
  | isEmpty =>
      refine ⟨congrArg QueueValue.flag ?_, h⟩
      unfold FastQueue.isEmpty
      rw [h.size]
      cases items <;> rfl
  | clear => exact ⟨rfl, represents_clear h⟩
  | toArray => exact ⟨congrArg QueueValue.items h.toArray, h⟩

/-- **`FastQueue` refines a list**: from any capacity on, every sequence of calls is answered as a
    list answers it. -/
theorem answers_eq_list {initialCapacity : Nat} (h : 1 ≤ initialCapacity)
    (calls : List (QueueCall α)) :
    (Simulation.answers FastQueue.call calls (new initialCapacity)).1 =
      (Simulation.answers listCall calls []).1 :=
  (simulates_list.answers calls (represents_new h)).1

/-- A capacity of one, which is doubled twice while the items wrap around. -/
theorem answers_eq_list_small :
    (Simulation.answers FastQueue.call
        [.enqueue "b", .unshift "a", .dequeue, .unshiftMany ["x", "y"], .toArray]
        (new 1)).1 =
      [.nothing, .nothing, .item (some "a"), .nothing, .items ["x", "y", "b"]] :=
  answers_eq_list (by decide) _

end FastQueue

end TokyoTester
