import Mathlib.Tactic

set_option autoImplicit false

/-! # Lists in circular buffers

A buffer of cells holds a list from a head on: its elements are in the cells that follow the head,
and after the last cell comes the first one. -/

namespace Circular

variable {α : Type}

/-- The cell of a position. -/
def slot (capacity head i : Nat) : Nat := (head + i) % capacity

variable {capacity head i j : Nat}

theorem slot_lt (h : head < capacity) (i : Nat) : slot capacity head i < capacity :=
  Nat.mod_lt _ (Nat.zero_lt_of_lt h)

@[simp] theorem slot_zero (h : head < capacity) : slot capacity head 0 = head :=
  Nat.mod_eq_of_lt h

/-- The next position is in the next cell. -/
theorem slot_succ : (slot capacity head i + 1) % capacity = slot capacity head (i + 1) :=
  Nat.mod_add_mod ..

/-- A head that moves forward. -/
theorem slot_forward : slot capacity ((head + 1) % capacity) i = slot capacity head (i + 1) := by
  unfold slot
  rw [Nat.mod_add_mod, Nat.add_assoc, Nat.add_comm 1 i]

/-- A head that moves back. -/
theorem slot_back (h : head < capacity) :
    slot capacity ((head + capacity - 1) % capacity) (i + 1) = slot capacity head i := by
  unfold slot
  rw [Nat.mod_add_mod]
  have hsum : head + capacity - 1 + (i + 1) = head + i + capacity := by omega
  rw [hsum, Nat.add_mod_right]

/-- Positions that are less than one round apart have cells of their own. -/
theorem slot_inj (hi : i < capacity) (hj : j < capacity)
    (h : slot capacity head i = slot capacity head j) : i = j := by
  have hmod : i ≡ j [MOD capacity] := Nat.ModEq.add_left_cancel' head h
  exact Nat.ModEq.eq_of_lt_of_lt hmod hi hj

/-- The cells hold the list from the head on. -/
def Holds (cells : List (Option α)) (capacity head : Nat) (items : List α) : Prop :=
  ∀ i x, items[i]? = some x → cells[slot capacity head i]? = some (some x)

variable {cells : List (Option α)} {items : List α} {x : α}

theorem holds_nil : Holds cells capacity head ([] : List α) := by
  intro i x h
  simp at h

theorem lt_of_item (h : items[i]? = some x) : i < items.length :=
  (List.getElem?_eq_some_iff.1 h).1

/-- A cell that holds none of the items may be written. -/
theorem Holds.set_free (h : Holds cells capacity head items) {value : Option α}
    (hj : j < capacity) (hfree : items.length ≤ j) :
    Holds (cells.set (slot capacity head j) value) capacity head items := by
  intro i y hy
  have hi := lt_of_item hy
  have hne : slot capacity head j ≠ slot capacity head i := by
    intro heq
    have := slot_inj hj (by omega) heq
    omega
  rw [List.getElem?_set_ne hne]
  exact h i y hy

/-- **An item at the end.** -/
theorem Holds.push (h : Holds cells capacity head items) (hcells : cells.length = capacity)
    (hhead : head < capacity) (hsize : items.length < capacity) :
    Holds (cells.set (slot capacity head items.length) (some x)) capacity head
      (items ++ [x]) := by
  intro i y hy
  rcases Nat.lt_or_ge i items.length with hi | hi
  · rw [List.getElem?_append_left hi] at hy
    exact h.set_free hsize le_rfl i y hy
  · have hlen := lt_of_item hy
    simp only [List.length_append, List.length_singleton] at hlen
    obtain rfl : i = items.length := by omega
    rw [List.getElem?_concat_length] at hy
    rw [List.getElem?_set_self (by rw [hcells]; exact slot_lt hhead _), hy]

/-- **An item at the front.** -/
theorem Holds.unshift (h : Holds cells capacity head items) (hcells : cells.length = capacity)
    (hhead : head < capacity) (hsize : items.length < capacity) :
    Holds (cells.set ((head + capacity - 1) % capacity) (some x)) capacity
      ((head + capacity - 1) % capacity) (x :: items) := by
  have hback : (head + capacity - 1) % capacity < capacity :=
    Nat.mod_lt _ (Nat.zero_lt_of_lt hhead)
  intro i y hy
  cases i with
  | zero =>
      obtain rfl : x = y := Option.some.inj hy
      rw [slot_zero hback, List.getElem?_set_self (by omega)]
  | succ i =>
      have hitem : items[i]? = some y := hy
      have hi := lt_of_item hitem
      have hne : (head + capacity - 1) % capacity ≠
          slot capacity ((head + capacity - 1) % capacity) (i + 1) := by
        intro heq
        have := slot_inj (i := 0) (j := i + 1) (by omega) (by omega)
          ((slot_zero hback).trans heq)
        omega
      rw [List.getElem?_set_ne hne, slot_back hhead]
      exact h i y hitem

/-- The first item is in the cell of the head. -/
theorem Holds.first (h : Holds cells capacity head (x :: items)) (hhead : head < capacity) :
    cells[head]? = some (some x) := by
  have hfirst := h 0 x rfl
  rwa [slot_zero hhead] at hfirst

/-- **The front item taken away.** -/
theorem Holds.shift (h : Holds cells capacity head (x :: items)) (hhead : head < capacity)
    (hsize : (x :: items).length ≤ capacity) :
    Holds (cells.set head none) capacity ((head + 1) % capacity) items := by
  intro i y hy
  have hi := lt_of_item hy
  simp only [List.length_cons] at hsize
  have hne : head ≠ slot capacity head (i + 1) := by
    intro heq
    have := slot_inj (i := 0) (j := i + 1) (by omega) (by omega) ((slot_zero hhead).trans heq)
    omega
  rw [slot_forward, List.getElem?_set_ne hne]
  exact h (i + 1) y hy

end Circular
