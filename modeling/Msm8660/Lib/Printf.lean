import Mathlib.Data.Nat.Log
import Mathlib.Data.Rat.Floor

/-!
# Formatted text

The texts of the conversions `%0*d`, `%.*d`, `%02X` and `%0*.*f`, and text that is put
together in a buffer, piece by piece. A piece that does not fit ends the text where its
length is looked at (`printChecked`), and is cut off where it is not (`printLast`). What is
put together with its lengths looked at is all there and leaves room for the byte that ends
it (`printChecked_eq_some`), and what leaves that room is put together
(`printChecked_of_fits`).

The width of a number is known from the number (`length_formatInt`, `length_formatFixed`).
-/

set_option autoImplicit false

namespace Msm8660

/-- The bytes of a text without special characters. -/
def ascii (text : String) : List UInt8 := text.toList.map fun char => UInt8.ofNat char.toNat

/-- The digits of a number. -/
def decimal (n : ℕ) : List UInt8 :=
  (Nat.toDigits 10 n).map fun digit => UInt8.ofNat digit.toNat

/-- Zeros in front, up to a width. -/
def padZero (width : ℕ) (text : List UInt8) : List UInt8 :=
  List.replicate (width - text.length) 48 ++ text

/-- `%0*d`: the width counts the sign. -/
def formatInt (width : ℕ) (n : ℤ) : List UInt8 :=
  if n < 0 then 45 :: padZero (width - 1) (decimal n.natAbs) else padZero width (decimal n.natAbs)

/-- `%.*d`: the precision does not count the sign. -/
def formatDigits (precision : ℕ) (n : ℤ) : List UInt8 :=
  if n < 0 then 45 :: padZero precision (decimal n.natAbs) else padZero precision (decimal n.natAbs)

/-- `%02X` of a byte. -/
def formatHex (byte : UInt8) : List UInt8 :=
  [byte / 16, byte % 16].map fun digit => if digit < 10 then 48 + digit else 55 + digit

/-- The nearest number to one that is not negative, the even one of two. -/
def roundEven (q : ℚ) : ℕ :=
  let below := q.floor.toNat
  if q - below < 1 / 2 ∨ q - below = 1 / 2 ∧ below % 2 = 0 then below else below + 1

/-- `%0*.*f`. -/
def formatFixed (width precision : ℕ) (q : ℚ) : List UInt8 :=
  let scaled := roundEven (|q| * 10 ^ precision)
  let text := decimal (scaled / 10 ^ precision) ++
    46 :: padZero precision (decimal (scaled % 10 ^ precision))
  if q < 0 then 45 :: padZero (width - 1) text else padZero width text

example : formatFixed 9 6 (5 / 2) = ascii "02.500000" := by decide +kernel

example : formatFixed 0 1 (-1 / 4) = ascii "-0.2" := by decide +kernel

/-! ## Widths -/

/-- How many digits a number has. -/
def digitCount (n : ℕ) : ℕ := Nat.log 10 n + 1

theorem digitCount_le_iff {n k : ℕ} (some_ : 0 < k) : digitCount n ≤ k ↔ n < 10 ^ k := by
  rcases Nat.eq_zero_or_pos n with rfl | positive
  · simp only [digitCount, Nat.log_zero_right, Nat.pow_pos (by decide : 0 < 10), iff_true]
    omega
  · rw [digitCount, Nat.add_one_le_iff, Nat.log_lt_iff_lt_pow (by decide) positive.ne']

@[simp] theorem length_decimal (n : ℕ) : (decimal n).length = digitCount n := by
  rw [decimal, List.length_map]
  refine eq_of_forall_ge_iff fun k => ?_
  rcases Nat.eq_zero_or_pos k with rfl | positive
  · have some_ : 0 < (Nat.toDigits 10 n).length := Nat.length_toDigits_pos
    rw [digitCount]
    omega
  · rw [Nat.length_toDigits_le_iff (by decide) positive, digitCount_le_iff positive]

@[simp] theorem length_padZero (width : ℕ) (text : List UInt8) :
    (padZero width text).length = max width text.length := by
  rw [padZero, List.length_append, List.length_replicate]
  omega

/-- The width of `%0*d`. -/
def intWidth (width : ℕ) (n : ℤ) : ℕ :=
  if n < 0 then max (width - 1) (digitCount n.natAbs) + 1 else max width (digitCount n.natAbs)

@[simp] theorem length_formatInt (width : ℕ) (n : ℤ) :
    (formatInt width n).length = intWidth width n := by
  unfold formatInt intWidth
  split <;> simp

/-- The width of `%0*.*f`. -/
def fixedWidth (width precision : ℕ) (q : ℚ) : ℕ :=
  let scaled := roundEven (|q| * 10 ^ precision)
  let text := digitCount (scaled / 10 ^ precision) +
    (max precision (digitCount (scaled % 10 ^ precision)) + 1)
  if q < 0 then max (width - 1) text + 1 else max width text

@[simp] theorem length_formatFixed (width precision : ℕ) (q : ℚ) :
    (formatFixed width precision q).length = fixedWidth width precision q := by
  unfold formatFixed fixedWidth
  split <;> simp

/-- A number below a power of ten is not wider than that. -/
theorem intWidth_le {width k : ℕ} {n : ℤ} (some_ : 0 < k) (fits : width ≤ k) (nonneg : 0 ≤ n)
    (below : n < 10 ^ k) : intWidth width n ≤ k := by
  have magnitude : n.natAbs < 10 ^ k := by
    zify
    rwa [abs_of_nonneg nonneg]
  rw [intWidth, if_neg (not_lt.mpr nonneg)]
  exact max_le fits ((digitCount_le_iff some_).mpr magnitude)

/-- A number below the power of ten of the width has that width. -/
theorem intWidth_eq {width : ℕ} {n : ℤ} (some_ : 0 < width) (nonneg : 0 ≤ n)
    (below : n < 10 ^ width) : intWidth width n = width := by
  refine le_antisymm (intWidth_le some_ (Nat.le_refl width) nonneg below) ?_
  rw [intWidth, if_neg (not_lt.mpr nonneg)]
  exact le_max_left _ _

/-- The width of `%.*d`, with one character for a sign. -/
theorem length_formatDigits_le {precision k : ℕ} {n : ℤ} (some_ : 0 < k) (fits : precision ≤ k)
    (below : n.natAbs < 10 ^ k) : (formatDigits precision n).length ≤ k + 1 := by
  have digits : max precision (digitCount n.natAbs) ≤ k :=
    max_le fits ((digitCount_le_iff some_).mpr below)
  unfold formatDigits
  split
  · simpa using digits
  · simpa using Nat.le_succ_of_le digits

/-- Rounding does not lead over a bound. -/
theorem roundEven_le {q : ℚ} {n : ℕ} (nonneg : 0 ≤ q) (below : q ≤ n) : roundEven q ≤ n := by
  have floor : (q.floor.toNat : ℤ) = q.floor := Int.toNat_of_nonneg (Int.floor_nonneg.mpr nonneg)
  have under : q.floor ≤ (n : ℤ) := by
    have mono : ⌊q⌋ ≤ ⌊(n : ℚ)⌋ := Int.floor_mono below
    rwa [Int.floor_natCast] at mono
  have castFloor : ((q.floor.toNat : ℕ) : ℚ) = (q.floor : ℚ) := by exact_mod_cast floor
  unfold roundEven
  dsimp only
  split
  · omega
  · next up =>
      -- at the bound itself there is nothing to round
      rcases lt_or_eq_of_le under with less | same
      · omega
      · refine absurd (Or.inl ?_) up
        rw [castFloor, same, Int.cast_natCast]
        linarith

/-- Nor below one. -/
theorem le_roundEven {q : ℚ} {n : ℕ} (above : (n : ℚ) ≤ q) : n ≤ roundEven q := by
  have floor : (n : ℤ) ≤ q.floor := Int.le_floor.mpr (by exact_mod_cast above)
  unfold roundEven
  dsimp only
  split <;> omega

/-- A rounded number is next to the number. -/
theorem abs_roundEven_sub_le {q : ℚ} (nonneg : 0 ≤ q) : |(roundEven q : ℚ) - q| ≤ 1 / 2 := by
  have floor : (q.floor.toNat : ℤ) = q.floor := Int.toNat_of_nonneg (Int.floor_nonneg.mpr nonneg)
  have castFloor : ((q.floor.toNat : ℕ) : ℚ) = (q.floor : ℚ) := by exact_mod_cast floor
  have above : (q.floor : ℚ) ≤ q := Int.floor_le q
  have under : q < (q.floor : ℚ) + 1 := Int.lt_floor_add_one q
  unfold roundEven
  dsimp only
  rw [abs_le]
  split
  · next down =>
      rw [castFloor] at down ⊢
      constructor
      · rcases down with less | ⟨tie, -⟩ <;> linarith
      · linarith
  · next up =>
      have half : 1 / 2 ≤ q - q.floor := by
        rw [castFloor] at up
        exact not_lt.mp fun less => up (Or.inl less)
      push_cast
      rw [castFloor]
      constructor <;> linarith

/-- What is rounded below an even number is below it by more than a half. -/
theorem roundEven_lt_iff {q : ℚ} {n : ℕ} (nonneg : 0 ≤ q) (even : n % 2 = 0) :
    roundEven q < n ↔ q < n - 1 / 2 := by
  have near := abs_le.mp (abs_roundEven_sub_le nonneg)
  constructor
  · intro less
    by_contra far
    have next : roundEven q + 1 ≤ n := less
    have next' : ((roundEven q : ℕ) : ℚ) + 1 ≤ n := by exact_mod_cast next
    -- only the odd number in front of `n` is left, and its half is rounded up
    have tie : q = n - 1 / 2 := le_antisymm (by linarith [near.1]) (not_lt.mp far)
    have place : ⌊q⌋ = (n : ℤ) - 1 := by
      rw [Int.floor_eq_iff]
      push_cast
      constructor <;> linarith
    rw [show ⌊q⌋ = q.floor from rfl] at place
    have positive : 0 < n := by omega
    have below : q.floor.toNat = n - 1 := by omega
    have castBelow : ((n - 1 : ℕ) : ℚ) = n - 1 := by
      rw [Nat.cast_sub positive, Nat.cast_one]
    have up : roundEven q = n := by
      unfold roundEven
      dsimp only
      rw [below, castBelow, if_neg]
      · omega
      · rintro (short | ⟨-, evenBelow⟩)
        · linarith
        · omega
    omega
  · intro less
    have rounded : ((roundEven q : ℕ) : ℚ) < n := by linarith [near.2]
    exact_mod_cast rounded

/-- The width of `%0*.*f`, with one character for the sign of a negative number. -/
theorem fixedWidth_le {width precision k bound : ℕ} {q : ℚ} (some_ : 0 < k)
    (places : 0 < precision) (fits : width ≤ k + (precision + 1)) (within : |q| ≤ bound)
    (below : bound < 10 ^ k) :
    fixedWidth width precision q ≤ k + (precision + 1) + if q < 0 then 1 else 0 := by
  have scaled : roundEven (|q| * 10 ^ precision) ≤ bound * 10 ^ precision := by
    refine roundEven_le (by positivity) ?_
    push_cast
    exact mul_le_mul_of_nonneg_right within (by positivity)
  have power : 0 < 10 ^ precision := Nat.pow_pos (by decide)
  have whole : digitCount (roundEven (|q| * 10 ^ precision) / 10 ^ precision) ≤ k :=
    (digitCount_le_iff some_).mpr
      (lt_of_le_of_lt (Nat.div_le_of_le_mul (scaled.trans_eq (mul_comm _ _))) below)
  have fraction : digitCount (roundEven (|q| * 10 ^ precision) % 10 ^ precision) ≤ precision :=
    (digitCount_le_iff places).mpr (Nat.mod_lt _ power)
  unfold fixedWidth
  dsimp only
  split <;> omega

/-- A number that is not negative takes its width at least. -/
theorem le_fixedWidth (width precision : ℕ) {q : ℚ} (nonneg : 0 ≤ q) :
    width ≤ fixedWidth width precision q := by
  unfold fixedWidth
  dsimp only
  rw [if_neg (not_lt.mpr nonneg)]
  exact le_max_left _ _

/-! ## Text in a buffer -/

/-- Pieces put one behind the other into a buffer, each with a look at its length. -/
def printChecked (size : ℕ) (pieces : List (List UInt8)) : Option (List UInt8) :=
  pieces.foldlM
    (fun text piece => if piece.length < size - text.length then some (text ++ piece) else none) []

/-- A last piece, whose length nobody looks at. -/
def printLast (size : ℕ) (text piece : List UInt8) : List UInt8 :=
  text ++ piece.take (size - text.length - 1)

/-- **A text whose lengths were looked at is made of all its pieces**, and there is room
for the byte that ends it. -/
theorem printChecked_eq_some {size : ℕ} (room : 0 < size) {pieces : List (List UInt8)}
    {text : List UInt8} (printed : printChecked size pieces = some text) :
    text = pieces.flatten ∧ text.length < size := by
  have prefixed : ∀ start : List UInt8, start.length < size →
      pieces.foldlM (fun text piece =>
        if piece.length < size - text.length then some (text ++ piece) else none) start =
          some text → text = start ++ pieces.flatten ∧ text.length < size := by
    clear printed
    induction pieces with
    | nil =>
        intro start fits same
        cases same
        exact ⟨(List.append_nil _).symm, fits⟩
    | cons piece rest ih =>
        intro start fits same
        rw [List.foldlM_cons] at same
        by_cases short : piece.length < size - start.length
        · rw [if_pos short] at same
          have longer : (start ++ piece).length < size := by
            rw [List.length_append]
            omega
          obtain ⟨whole, within⟩ := ih (start ++ piece) longer same
          exact ⟨by rw [whole, List.flatten_cons, List.append_assoc], within⟩
        · rw [if_neg short] at same
          cases same
  exact prefixed [] room printed

/-- **Pieces that leave room for the byte that ends them are put together.** -/
theorem printChecked_of_fits {size : ℕ} {pieces : List (List UInt8)}
    (fits : pieces.flatten.length < size) : printChecked size pieces = some pieces.flatten := by
  have prefixed : ∀ start : List UInt8, start.length + pieces.flatten.length < size →
      pieces.foldlM (fun text piece =>
        if piece.length < size - text.length then some (text ++ piece) else none) start =
          some (start ++ pieces.flatten) := by
    clear fits
    induction pieces with
    | nil => exact fun start _ => congrArg some (List.append_nil start).symm
    | cons piece rest ih =>
        intro start fits
        rw [List.flatten_cons, List.length_append] at fits
        have short : piece.length < size - start.length := by omega
        have longer : (start ++ piece).length + rest.flatten.length < size := by
          rw [List.length_append]
          omega
        rw [List.foldlM_cons, if_pos short]
        exact (ih (start ++ piece) longer).trans (by rw [List.flatten_cons, List.append_assoc])
  exact prefixed [] (by rwa [List.length_nil, Nat.zero_add])

/-- A last piece is cut where the byte that ends it must be. -/
theorem length_printLast {size : ℕ} {text piece : List UInt8} (fits : text.length < size) :
    (printLast size text piece).length = min (size - 1) (text.length + piece.length) := by
  rw [printLast, List.length_append, List.length_take]
  omega

end Msm8660
