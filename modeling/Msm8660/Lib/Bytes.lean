import Mathlib.Algebra.Ring.Int.Defs
import Mathlib.Algebra.Ring.Nat
import Mathlib.Data.List.Basic

/-!
# Words and blocks of bytes

A word is written with its least significant byte first (`leBytes`, `leValue`); reading
what has been written gives the word back (`leValue_leBytes`). A block of a memory is
read and written as a list: what has been written is read back (`readAt_overwrite`), and
the rest of the memory is as before (`overwrite_outside`). Writing in parts is writing at
once (`overwrite_append`).
-/

set_option autoImplicit false

namespace Msm8660

/-- The lowest bytes of a number, the least significant one first. -/
def leBytes : ℕ → ℕ → List UInt8
  | 0, _ => []
  | width + 1, value => UInt8.ofNat value :: leBytes width (value / 256)

/-- The number that bytes hold, the least significant one first. -/
def leValue : List UInt8 → ℕ
  | [] => 0
  | byte :: rest => byte.toNat + 256 * leValue rest

@[simp] theorem length_leBytes (width value : ℕ) : (leBytes width value).length = width := by
  induction width generalizing value with
  | zero => rfl
  | succ width ih => simp only [leBytes, List.length_cons, ih]

/-- Reading a word that has been written. -/
theorem leValue_leBytes {width value : ℕ} (fits : value < 256 ^ width) :
    leValue (leBytes width value) = value := by
  induction width generalizing value with
  | zero =>
      rw [Nat.pow_zero] at fits
      rw [leBytes, leValue]
      omega
  | succ width ih =>
      rw [Nat.pow_succ] at fits
      have rest : value / 256 < 256 ^ width := by omega
      rw [leBytes, leValue, ih rest, UInt8.toNat_ofNat']
      omega

theorem leValue_lt (bytes : List UInt8) : leValue bytes < 256 ^ bytes.length := by
  induction bytes with
  | nil => simp [leValue]
  | cons byte rest ih =>
      have small : byte.toNat < 256 := byte.toNat_lt
      rw [leValue, List.length_cons, Nat.pow_succ]
      omega

theorem leValue_append (low high : List UInt8) :
    leValue (low ++ high) = leValue low + 256 ^ low.length * leValue high := by
  induction low with
  | nil => simp [leValue]
  | cons byte rest ih =>
      rw [List.cons_append, leValue, leValue, ih, List.length_cons, Nat.pow_succ,
        Nat.mul_comm (256 ^ rest.length) 256, Nat.mul_assoc, Nat.mul_add, Nat.add_assoc]

/-! ## Blocks -/

section Blocks

variable {α : Type*}

/-- Writing values into a memory from an address on. -/
def overwrite (memory : ℕ → α) (start : ℕ) (values : List α) (address : ℕ) : α :=
  if start ≤ address ∧ address < start + values.length then
    values.getD (address - start) (memory address)
  else memory address

/-- Reading so many values from an address on. -/
def readAt (memory : ℕ → α) (start count : ℕ) : List α :=
  (List.range count).map fun offset => memory (start + offset)

@[simp] theorem length_readAt (memory : ℕ → α) (start count : ℕ) :
    (readAt memory start count).length = count := by
  simp [readAt]

theorem overwrite_outside {memory : ℕ → α} {start address : ℕ} {values : List α}
    (outside : address < start ∨ start + values.length ≤ address) :
    overwrite memory start values address = memory address := by
  rw [overwrite, if_neg (by omega)]

theorem overwrite_inside (memory : ℕ → α) (start : ℕ) {values : List α} {offset : ℕ}
    (inside : offset < values.length) :
    overwrite memory start values (start + offset) = values[offset] := by
  rw [overwrite, if_pos (by omega), Nat.add_sub_cancel_left, List.getD_eq_getElem?_getD,
    List.getElem?_eq_getElem inside, Option.getD_some]

/-- Writing from the start on. -/
theorem overwrite_zero (memory : ℕ → α) (values : List α) (address : ℕ) :
    overwrite memory 0 values address = values.getD address (memory address) := by
  by_cases inside : address < values.length
  · have written := overwrite_inside memory 0 inside
    rw [Nat.zero_add] at written
    rw [written, List.getD_eq_getElem?_getD, List.getElem?_eq_getElem inside, Option.getD_some]
  · rw [overwrite_outside (by omega), List.getD_eq_getElem?_getD,
      List.getElem?_eq_none (by omega), Option.getD_none]

/-- What has been written is read back. -/
theorem readAt_overwrite (memory : ℕ → α) (start : ℕ) (values : List α) :
    readAt (overwrite memory start values) start values.length = values := by
  apply List.ext_getElem (length_readAt _ _ _)
  intro offset _ inside
  simp only [readAt, List.getElem_map, List.getElem_range]
  exact overwrite_inside memory start inside

/-- A block in front of what is written is as before. -/
theorem readAt_overwrite_behind (memory : ℕ → α) {start count place : ℕ} (values : List α)
    (behind : start + count ≤ place) :
    readAt (overwrite memory place values) start count = readAt memory start count := by
  apply List.map_congr_left
  intro offset inside
  have within := List.mem_range.mp inside
  exact overwrite_outside (by omega)

/-- Writing what is there. -/
theorem overwrite_readAt (memory : ℕ → α) (start count : ℕ) :
    overwrite memory start (readAt memory start count) = memory := by
  funext address
  by_cases inside : start ≤ address ∧ address < start + count
  · obtain ⟨offset, rfl⟩ := Nat.exists_eq_add_of_le inside.1
    rw [overwrite_inside memory start (by rw [length_readAt]; omega)]
    simp only [readAt, List.getElem_map, List.getElem_range]
  · rw [overwrite_outside (by rw [length_readAt]; omega)]

/-- A value copied to another address is still where it was copied from. -/
theorem overwrite_copied (memory : ℕ → α) (target source : ℕ) :
    overwrite memory target [memory source] source = memory source := by
  by_cases same : source = target
  · subst same
    have here : 0 < [memory source].length := Nat.one_pos
    exact overwrite_inside memory source here
  · rw [overwrite_outside (by rw [List.length_singleton]; omega)]

/-- Writing in two parts. -/
theorem overwrite_append (memory : ℕ → α) (start : ℕ) (values more : List α) :
    overwrite memory start (values ++ more) =
      overwrite (overwrite memory start values) (start + values.length) more := by
  funext address
  by_cases late : start + values.length ≤ address
  · by_cases inside : address < start + values.length + more.length
    · obtain ⟨offset, rfl⟩ := Nat.exists_eq_add_of_le late
      have here : offset < more.length := by omega
      rw [overwrite_inside _ _ here, Nat.add_assoc,
        overwrite_inside _ _ (by rw [List.length_append]; omega),
        List.getElem_append_right (by omega)]
      simp
    · rw [overwrite_outside (by rw [List.length_append]; omega), overwrite_outside (by omega),
        overwrite_outside (by omega)]
  · by_cases early : address < start
    · rw [overwrite_outside (by omega), overwrite_outside (by omega), overwrite_outside (by omega)]
    · obtain ⟨offset, rfl⟩ := Nat.exists_eq_add_of_le (Nat.le_of_not_lt early)
      have here : offset < values.length := by omega
      rw [overwrite_inside _ _ (by rw [List.length_append]; omega), overwrite_outside (by omega),
        overwrite_inside _ _ here, List.getElem_append_left here]

/-- Writing over what has just been written. -/
theorem overwrite_overwrite (memory : ℕ → α) (start : ℕ) {values more : List α}
    (longer : values.length ≤ more.length) :
    overwrite (overwrite memory start values) start more = overwrite memory start more := by
  funext address
  by_cases inside : start ≤ address ∧ address < start + more.length
  · obtain ⟨offset, rfl⟩ := Nat.exists_eq_add_of_le inside.1
    have here : offset < more.length := by omega
    rw [overwrite_inside _ _ here, overwrite_inside _ _ here]
  · rw [overwrite_outside (by omega), overwrite_outside (by omega), overwrite_outside (by omega)]

/-- A block in two parts. -/
theorem readAt_add (memory : ℕ → α) (start count more : ℕ) :
    readAt memory start (count + more) =
      readAt memory start count ++ readAt memory (start + count) more := by
  simp only [readAt, List.range_add, List.map_append, List.map_map, Function.comp_def,
    Nat.add_assoc]

/-- Memories with the same block have the same values there. -/
theorem eq_of_readAt_eq {first second : ℕ → α} {start count offset : ℕ}
    (same : readAt first start count = readAt second start count) (inside : offset < count) :
    first (start + offset) = second (start + offset) :=
  List.map_inj_left.mp same offset (List.mem_range.mpr inside)

/-- A block that is the beginning of another. -/
theorem take_readAt (memory : ℕ → α) (start : ℕ) {count whole : ℕ} (within : count ≤ whole) :
    (readAt memory start whole).take count = readAt memory start count := by
  obtain ⟨more, rfl⟩ := Nat.exists_eq_add_of_le within
  rw [readAt_add, List.take_left' (length_readAt _ _ _)]

end Blocks

end Msm8660
