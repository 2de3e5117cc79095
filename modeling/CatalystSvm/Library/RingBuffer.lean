import Mathlib.Data.List.Basic

/-!
# Buffers that overwrite their oldest item

A buffer of fixed capacity is written at a cursor that goes round. The `i`-th item
stays in slot `i % capacity` until the cursor comes back, so in storage order the
items written since the last wrap stand before the older ones.
-/

namespace CatalystSvm.Library.RingBuffer

set_option autoImplicit false

variable {Item : Type*} {capacity : Nat} {blank : Item} {slots : List Item} {cursor : Nat}
variable {written : List Item}

/-- The buffer after these writes; slots that none of them reached are blank. -/
structure Holds (capacity : Nat) (blank : Item) (slots : List Item) (cursor : Nat)
    (written : List Item) : Prop where
  length : slots.length = capacity
  cursor : cursor = written.length % capacity
  recent : ∀ place, place < written.length → written.length ≤ place + capacity →
    slots[place % capacity]? = written[place]?
  fresh : ∀ slot, written.length ≤ slot → slot < capacity → slots[slot]? = some blank

theorem holds_nothing (capacity : Nat) (blank : Item) :
    Holds capacity blank (List.replicate capacity blank) 0 [] where
  length := List.length_replicate
  cursor := (Nat.zero_mod capacity).symm
  recent := fun place inside _ => absurd inside (Nat.not_lt_zero place)
  fresh := fun _ _ inside => List.getElem?_replicate_of_lt inside

theorem cursor_lt (positive : 0 < capacity) (holds : Holds capacity blank slots cursor written) :
    cursor < slots.length := by
  rw [holds.length, holds.cursor]
  exact Nat.mod_lt _ positive

theorem slots_apart {place next capacity : Nat} (earlier : place < next) (within : next < place + capacity) :
    next % capacity ≠ place % capacity := by
  intro same
  have divides : capacity ∣ next - place :=
    Nat.dvd_of_mod_eq_zero (Nat.sub_mod_eq_zero_of_mod_eq same)
  have far := Nat.le_of_dvd (by omega) divides
  omega

theorem holds_write (positive : 0 < capacity) (holds : Holds capacity blank slots cursor written)
    (item : Item) :
    Holds capacity blank (slots.set cursor item) ((cursor + 1) % capacity) (written ++ [item]) where
  length := by rw [List.length_set, holds.length]
  cursor := by
    rw [List.length_append, List.length_singleton, holds.cursor, Nat.mod_add_mod]
  recent := by
    intro place inside within
    rw [List.length_append, List.length_singleton] at inside within
    by_cases last : place = written.length
    · subst last
      rw [← holds.cursor, List.getElem?_set_self (cursor_lt positive holds),
        List.getElem?_concat_length]
    · have earlier : place < written.length := by omega
      have apart : written.length % capacity ≠ place % capacity :=
        slots_apart earlier (by omega)
      rw [holds.cursor, List.getElem?_set_ne apart, holds.recent place earlier (by omega),
        List.getElem?_append_left earlier]
  fresh := by
    intro slot beyond inside
    rw [List.length_append, List.length_singleton] at beyond
    have other : cursor ≠ slot := by
      rw [holds.cursor, Nat.mod_eq_of_lt (by omega)]
      omega
    rw [List.getElem?_set_ne other]
    exact holds.fresh slot (by omega) inside

/-! ## Storage order -/

def lastItems (capacity : Nat) (written : List Item) : List Item :=
  written.drop (written.length - capacity)

/-- The items written since the cursor was last at the first slot. -/
def newest (capacity : Nat) (written : List Item) : List Item :=
  written.drop (written.length - written.length % capacity)

def older (capacity : Nat) (written : List Item) : List Item :=
  (lastItems capacity written).take
    ((lastItems capacity written).length - written.length % capacity)

theorem last_items_length (capacity : Nat) (written : List Item) :
    (lastItems capacity written).length = min written.length capacity := by
  rw [lastItems, List.length_drop]
  omega

theorem older_append_newest (positive : 0 < capacity) (written : List Item) :
    older capacity written ++ newest capacity written = lastItems capacity written := by
  have remainder := Nat.mod_le written.length capacity
  have small := Nat.mod_lt written.length positive
  have rest : newest capacity written = (lastItems capacity written).drop
      ((lastItems capacity written).length - written.length % capacity) := by
    rw [newest, last_items_length, lastItems, List.drop_drop]
    congr 1
    by_cases full : capacity ≤ written.length
    · omega
    · rw [Nat.mod_eq_of_lt (by omega)]
      omega
  rw [rest, older, List.take_append_drop]

theorem newest_length (capacity : Nat) (written : List Item) :
    (newest capacity written).length = written.length % capacity := by
  have remainder := Nat.mod_le written.length capacity
  rw [newest, List.length_drop]
  omega

theorem older_length (capacity : Nat) (written : List Item) :
    (older capacity written).length =
      min written.length capacity - written.length % capacity := by
  rw [older, List.length_take, last_items_length]
  omega

theorem slot_newest (positive : 0 < capacity)
    (holds : Holds capacity blank slots cursor written) {slot : Nat}
    (behind : slot < written.length % capacity) :
    slots[slot]? = (newest capacity written)[slot]? := by
  have small := Nat.mod_lt written.length positive
  have remainder := Nat.mod_le written.length capacity
  have wraps : written.length - written.length % capacity =
      capacity * (written.length / capacity) :=
    Nat.sub_eq_of_eq_add (Nat.div_add_mod written.length capacity).symm
  have place : (written.length - written.length % capacity + slot) % capacity = slot := by
    rw [wraps, Nat.mul_add_mod, Nat.mod_eq_of_lt (by omega)]
  have held := holds.recent (written.length - written.length % capacity + slot)
    (by omega) (by omega)
  rw [place] at held
  rw [held, newest, List.getElem?_drop]

theorem slot_older (positive : 0 < capacity)
    (holds : Holds capacity blank slots cursor written) (full : capacity ≤ written.length)
    {offset : Nat} (inside : written.length % capacity + offset < capacity) :
    slots[written.length % capacity + offset]? = (older capacity written)[offset]? := by
  have rounds : 0 < written.length / capacity := Nat.div_pos full positive
  have start : written.length - capacity + offset =
      capacity * (written.length / capacity - 1) + (written.length % capacity + offset) := by
    have whole := Nat.div_add_mod written.length capacity
    have round : capacity * (written.length / capacity) =
        capacity * (written.length / capacity - 1) + capacity := by
      rw [← Nat.mul_succ, Nat.succ_eq_add_one, Nat.sub_add_cancel rounds]
    omega
  have place : (written.length - capacity + offset) % capacity =
      written.length % capacity + offset := by
    rw [start, Nat.mul_add_mod, Nat.mod_eq_of_lt inside]
  have held := holds.recent (written.length - capacity + offset) (by omega) (by omega)
  rw [place] at held
  have taken : offset < (lastItems capacity written).length - written.length % capacity := by
    rw [last_items_length]
    omega
  rw [held, older, List.getElem?_take_of_lt taken, lastItems, List.getElem?_drop]

/-- In storage order the newest items come first. -/
theorem holds_layout (positive : 0 < capacity)
    (holds : Holds capacity blank slots cursor written) :
    slots = newest capacity written ++
      (older capacity written ++ List.replicate (capacity - written.length) blank) := by
  have newestLength := newest_length capacity written
  have olderLength := older_length capacity written
  apply List.ext_getElem?
  intro slot
  by_cases behind : slot < written.length % capacity
  · rw [List.getElem?_append_left (by omega), slot_newest positive holds behind]
  · obtain ⟨offset, rfl⟩ := Nat.exists_eq_add_of_le (Nat.not_lt.mp behind)
    rw [List.getElem?_append_right (by omega), newestLength, Nat.add_sub_cancel_left]
    by_cases full : capacity ≤ written.length
    · have filled : capacity - written.length = 0 := by omega
      rw [filled, List.replicate_zero, List.append_nil]
      by_cases inside : written.length % capacity + offset < capacity
      · exact slot_older positive holds full inside
      · rw [List.getElem?_eq_none (by rw [holds.length]; omega), List.getElem?_eq_none (by omega)]
    · have short : written.length % capacity = written.length := Nat.mod_eq_of_lt (by omega)
      rw [List.getElem?_append_right (by omega), olderLength, short]
      by_cases inside : written.length + offset < capacity
      · rw [holds.fresh _ (by omega) inside, List.getElem?_replicate_of_lt (by omega)]
      · rw [List.getElem?_eq_none (by rw [holds.length]; omega),
          List.getElem?_eq_none (by rw [List.length_replicate]; omega)]

end CatalystSvm.Library.RingBuffer
