import Mathlib.Data.List.Basic
import Mathlib.Logic.Function.Basic

/-!
# Checksums that are folded

A checksum is computed element by element. If each step tells different sums apart and
different elements apart, the checksum of a list tells it from every list that differs from it
in one place (`Telling.foldl_set_eq_iff`). The exclusive or of bytes is such a step
(`telling_xor`).
-/

set_option autoImplicit false

namespace Msm8660

variable {α β : Type*} {f : β → α → β}

/-- A step that tells the sums before it apart, and the elements. -/
structure Telling (f : β → α → β) : Prop where
  sum : ∀ element, Function.Injective fun sum => f sum element
  element : ∀ sum, Function.Injective (f sum)

namespace Telling

variable (telling : Telling f)

include telling

/-- The same elements take different sums to different sums. -/
theorem foldl_injective (elements : List α) :
    Function.Injective fun start => elements.foldl f start := by
  induction elements with
  | nil => exact Function.injective_id
  | cons element rest ih =>
      intro first second same
      exact telling.sum element (ih same)

/-- **A list is told from the lists that differ from it in one place.** -/
theorem foldl_set_eq_iff {elements : List α} {place : ℕ} (inside : place < elements.length)
    (start : β) (other : α) :
    (elements.set place other).foldl f start = elements.foldl f start ↔
      other = elements[place] := by
  induction elements generalizing start place with
  | nil => cases inside
  | cons element rest ih =>
      cases place with
      | zero =>
          rw [List.set_cons_zero, List.foldl_cons, List.foldl_cons, List.getElem_cons_zero]
          exact ((telling.foldl_injective rest).eq_iff).trans (telling.element start).eq_iff
      | succ place =>
          rw [List.set_cons_succ, List.foldl_cons, List.foldl_cons, List.getElem_cons_succ]
          exact ih (Nat.lt_of_succ_lt_succ inside) (f start element)

end Telling

/-- The exclusive or is undone by itself. -/
theorem telling_xor : Telling fun sum byte : UInt8 => sum ^^^ byte where
  sum byte := fun _ _ same => (UInt8.xor_left_inj byte).mp same
  element sum := fun _ _ same => (UInt8.xor_right_inj sum).mp same

end Msm8660
