import Mathlib.Data.List.Basic
import Mathlib.Data.Int.Notation

/-!
# Strings ended by a zero byte

A buffer of bytes read as a C string is the part before its first zero byte.
`strncmp` compares two buffers as such strings, so it is zero exactly when the
strings held by the first `n` bytes are the same (`strncmp_eq_zero_iff`). It is
not equality of the buffers: bytes behind a common zero byte are never read
(`cString_eq_cString_iff`).
-/

set_option autoImplicit false

namespace Msm8660

/-- The string that the first `n` bytes of a buffer hold. -/
def cString (n : ℕ) (buffer : List UInt8) : List UInt8 :=
  (buffer.take n).takeWhile (· ≠ 0)

/-- `strncmp` on buffers of at least `n` bytes. -/
def strncmp : List UInt8 → List UInt8 → ℕ → ℤ
  | x :: xs, y :: ys, n + 1 =>
      if x ≠ y then (x.toNat : ℤ) - y.toNat
      else if x = 0 then 0
      else strncmp xs ys n
  | _, _, _ => 0

theorem strncmp_self (buffer : List UInt8) (n : ℕ) : strncmp buffer buffer n = 0 := by
  induction buffer generalizing n with
  | nil => simp [strncmp]
  | cons x xs ih =>
      cases n with
      | zero => simp [strncmp]
      | succ n => simp [strncmp, ih]

/-- **`strncmp` is zero exactly on buffers that hold the same string.** -/
theorem strncmp_eq_zero_iff {n : ℕ} {first second : List UInt8}
    (enough : n ≤ first.length) (enough' : n ≤ second.length) :
    strncmp first second n = 0 ↔ cString n first = cString n second := by
  induction n generalizing first second with
  | zero => simp [strncmp, cString]
  | succ n ih =>
      cases first with
      | nil => simp at enough
      | cons x xs =>
        cases second with
        | nil => simp at enough'
        | cons y ys =>
          simp only [List.length_cons, Nat.add_le_add_iff_right] at enough enough'
          have tails := ih enough enough'
          simp only [cString] at tails
          by_cases same : x = y
          · subst same
            by_cases zero : x = 0
            · simp [strncmp, cString, zero]
            · simp [strncmp, cString, zero, tails]
          · have apart : (x.toNat : ℤ) - y.toNat ≠ 0 := by
              intro equal
              exact same (UInt8.toNat_inj.mp (by omega))
            simp only [strncmp, ne_eq, same, not_false_eq_true, if_true, apart, false_iff]
            intro strings
            by_cases zero : x = 0
            · subst zero
              have : y ≠ 0 := fun h => same h.symm
              simp [cString, this] at strings
            · by_cases zero' : y = 0
              · simp [cString, zero, zero'] at strings
              · simp [cString, zero, zero', same] at strings

/-- What is behind a zero byte is not read. -/
theorem takeWhile_append_of_zero_mem {buffer : List UInt8} (ended : 0 ∈ buffer)
    (behind : List UInt8) :
    (buffer ++ behind).takeWhile (· ≠ 0) = buffer.takeWhile (· ≠ 0) := by
  induction buffer with
  | nil => cases ended
  | cons byte rest ih =>
      by_cases zero : byte = 0
      · simp [zero]
      · have later : 0 ∈ rest := by
          rcases List.mem_cons.mp ended with same | later
          · exact absurd same.symm zero
          · exact later
        simp only [List.cons_append, ne_eq, zero, not_false_eq_true, decide_true,
          List.takeWhile_cons_of_pos]
        rw [ih later]

/-- A full buffer is read to its first zero byte. -/
theorem cString_eq_takeWhile {n : ℕ} {buffer : List UInt8} (full : buffer.length = n) :
    cString n buffer = buffer.takeWhile (· ≠ 0) := by
  rw [cString, List.take_of_length_le (Nat.le_of_eq full)]

/-- **Full buffers hold the same string when they are the same or agree up to a
common zero byte.** -/
theorem cString_eq_cString_iff {n : ℕ} {first second : List UInt8} (full : first.length = n)
    (full' : second.length = n) :
    cString n first = cString n second ↔
      first = second ∨ ∃ shared rest rest',
        first = shared ++ 0 :: rest ∧ second = shared ++ 0 :: rest' := by
  rw [cString_eq_takeWhile full, cString_eq_takeWhile full']
  constructor
  · have lengths : first.length = second.length := full.trans full'.symm
    clear full full'
    intro strings
    induction first generalizing second with
    | nil => exact Or.inl (List.length_eq_zero_iff.mp lengths.symm).symm
    | cons x xs ih =>
        cases second with
        | nil => simp at lengths
        | cons y ys =>
            by_cases zero : x = 0
            · have zero' : y = 0 := by
                by_contra other
                simp [zero, other] at strings
              exact Or.inr ⟨[], xs, ys, by rw [zero]; rfl, by rw [zero']; rfl⟩
            · have zero' : y ≠ 0 := by
                rintro rfl
                simp [zero] at strings
              obtain ⟨rfl, tails⟩ : x = y ∧
                  xs.takeWhile (· ≠ 0) = ys.takeWhile (· ≠ 0) := by
                simpa [zero, zero'] using strings
              rcases ih (Nat.succ.inj lengths) tails with
                rfl | ⟨shared, rest, rest', rfl, rfl⟩
              · exact Or.inl rfl
              · exact Or.inr ⟨x :: shared, rest, rest', rfl, rfl⟩
  · rintro (rfl | ⟨shared, rest, rest', rfl, rfl⟩)
    · rfl
    · simp [List.takeWhile_append]

/-- `strlcpy` into a buffer of `size` bytes keeps at most `size - 1` characters
of the string and ends it. -/
def strlcpy (source : List UInt8) (size : ℕ) : List UInt8 := source.take (size - 1)

end Msm8660
