import Mathlib.Data.List.Basic
import Msm8660.Lib.Printf

/-!
# Fields that are read back

A text of fields with a separator between any two, and the numbers that its fields tell. What
`%0*d` prints is read back as the number (`readInt_formatInt`), and fields without the separator
are read back as they are (`splitOn_fields`).
-/

set_option autoImplicit false

namespace Msm8660

/-! ## Separators -/

/-- A text of fields is the first one, and then each with a separator in front of it. -/
theorem intercalate_eq_append_flatMap (separator : UInt8) (field : List UInt8)
    (fields : List (List UInt8)) :
    [separator].intercalate (field :: fields) = field ++ fields.flatMap (separator :: ·) := by
  induction fields generalizing field with
  | nil => simp [List.intercalate_singleton]
  | cons next rest ih =>
      rw [List.intercalate_cons_cons, ih next, List.flatMap_cons, List.append_assoc]
      rfl

/-- **Fields without the separator are read back.** -/
theorem splitOn_fields {separator : UInt8} {field : List UInt8} {fields : List (List UInt8)}
    (clean : ∀ text ∈ field :: fields, separator ∉ text) :
    (field ++ fields.flatMap (separator :: ·)).splitOn separator = field :: fields := by
  rw [← intercalate_eq_append_flatMap]
  exact List.splitOn_intercalate separator clean (List.cons_ne_nil _ _)

/-- A byte that is in no field, and is not the separator, is not in the text. -/
theorem notMem_fields {separator byte : UInt8} {field : List UInt8} {fields : List (List UInt8)}
    (other : byte ≠ separator) (clean : ∀ text ∈ field :: fields, byte ∉ text) :
    byte ∉ field ++ fields.flatMap (separator :: ·) := by
  intro member
  rcases List.mem_append.mp member with first | behind
  · exact clean field (List.mem_cons_self ..) first
  · obtain ⟨text, listed, inside⟩ := List.mem_flatMap.mp behind
    rcases List.mem_cons.mp inside with same | inside
    · exact other same
    · exact clean text (List.mem_cons_of_mem _ listed) inside

/-! ## Numbers -/

/-- The digits from 0 to 9. -/
def IsDigit (byte : UInt8) : Prop := 48 ≤ byte ∧ byte ≤ 57

instance (byte : UInt8) : Decidable (IsDigit byte) := inferInstanceAs (Decidable (_ ∧ _))

/-- The number that digits tell. -/
def readNat (field : List UInt8) : Option ℕ :=
  if !field.isEmpty && field.all fun byte => decide (IsDigit byte) then
    some (field.foldl (fun value byte => 10 * value + (byte.toNat - 48)) 0)
  else none

/-- The number that digits tell, with a sign in front of them or without. -/
def readInt : List UInt8 → Option ℤ
  | [] => none
  | byte :: rest =>
      if byte = 45 then (readNat rest).map fun n : ℕ => -(n : ℤ)
      else (readNat (byte :: rest)).map fun n : ℕ => (n : ℤ)

/-- The code of a digit is kept in a byte. -/
theorem toNat_ofNat_digit {digit : Char} (isDigit : digit.isDigit = true) :
    (UInt8.ofNat digit.toNat).toNat = digit.toNat ∧ 48 ≤ digit.toNat ∧ digit.toNat ≤ 57 := by
  have range : 48 ≤ digit.toNat ∧ digit.toNat ≤ 57 := by
    simpa [Char.isDigit, UInt32.le_iff_toNat_le] using isDigit
  refine ⟨?_, range⟩
  rw [UInt8.toNat_ofNat']
  exact Nat.mod_eq_of_lt (by omega)

theorem isDigit_of_mem_decimal {n : ℕ} {byte : UInt8} (member : byte ∈ decimal n) :
    IsDigit byte := by
  obtain ⟨digit, listed, rfl⟩ := List.mem_map.mp member
  have code := toNat_ofNat_digit (Nat.isDigit_of_mem_toDigits (by decide) (by decide) listed)
  rw [IsDigit, UInt8.le_iff_toNat_le, UInt8.le_iff_toNat_le, code.1]
  exact code.2

theorem isDigit_of_mem_padZero {width n : ℕ} {byte : UInt8}
    (member : byte ∈ padZero width (decimal n)) : IsDigit byte := by
  rcases List.mem_append.mp member with zero | digit
  · rw [List.eq_of_mem_replicate zero]
    decide
  · exact isDigit_of_mem_decimal digit

/-- Zeros in front do not count. -/
theorem foldl_padZero (width n : ℕ) :
    (padZero width (decimal n)).foldl (fun value byte => 10 * value + (byte.toNat - 48)) 0 = n := by
  have zeros (k : ℕ) :
      (List.replicate k 48).foldl (fun value (byte : UInt8) => 10 * value + (byte.toNat - 48)) 0 =
        0 := by
    induction k with
    | zero => rfl
    | succ k ih => exact ih
  rw [padZero, List.foldl_append, zeros, decimal, List.foldl_map]
  calc (Nat.toDigits 10 n).foldl
        (fun value digit => 10 * value + ((UInt8.ofNat digit.toNat).toNat - 48)) 0
      = (Nat.toDigits 10 n).foldl
          (fun value digit => 10 * value + (digit.toNat - '0'.toNat)) 0 := by
        refine List.foldl_ext _ _ 0 fun value digit listed => ?_
        rw [(toNat_ofNat_digit (Nat.isDigit_of_mem_toDigits (by decide) (by decide) listed)).1]
        rfl
    _ = n := Nat.ofDigitChars_ten_toDigits

theorem padZero_ne_nil (width n : ℕ) : padZero width (decimal n) ≠ [] := by
  intro empty
  have short := congrArg List.length empty
  rw [length_padZero, length_decimal, List.length_nil, digitCount] at short
  omega

theorem readNat_padZero (width n : ℕ) : readNat (padZero width (decimal n)) = some n := by
  have isNumber : (!(padZero width (decimal n)).isEmpty &&
      (padZero width (decimal n)).all fun byte => decide (IsDigit byte)) = true := by
    rw [Bool.and_eq_true, Bool.not_eq_true', List.isEmpty_eq_false_iff, List.all_eq_true]
    refine ⟨padZero_ne_nil width n, fun byte member => ?_⟩
    exact decide_eq_true (isDigit_of_mem_padZero member)
  rw [readNat, if_pos isNumber, foldl_padZero]

/-- **What `%0*d` prints is read back**, for every width. -/
@[simp] theorem readInt_formatInt (width : ℕ) (n : ℤ) :
    readInt (formatInt width n) = some n := by
  unfold formatInt
  split
  · next negative =>
      rw [readInt, if_pos rfl, readNat_padZero, Option.map_some, Option.some.injEq]
      omega
  · next nonneg =>
      cases text : padZero width (decimal n.natAbs) with
      | nil => exact absurd text (padZero_ne_nil width n.natAbs)
      | cons byte rest =>
          have digit : IsDigit byte := isDigit_of_mem_padZero (text ▸ List.mem_cons_self ..)
          have unsigned : byte ≠ 45 := by
            rintro rfl
            exact absurd digit (by decide)
          rw [readInt, if_neg unsigned, ← text, readNat_padZero, Option.map_some,
            Option.some.injEq]
          omega

/-- A printed number consists of digits, and perhaps a sign. -/
theorem isDigit_of_mem_formatInt {width : ℕ} {n : ℤ} {byte : UInt8}
    (member : byte ∈ formatInt width n) : byte = 45 ∨ IsDigit byte := by
  unfold formatInt at member
  split at member
  · rcases List.mem_cons.mp member with sign | digit
    · exact Or.inl sign
    · exact Or.inr (isDigit_of_mem_padZero digit)
  · exact Or.inr (isDigit_of_mem_padZero member)

/-- Digits tell a number with no more digits. -/
theorem readNat_lt {field : List UInt8} {n : ℕ} (read : readNat field = some n) :
    n < 10 ^ field.length := by
  unfold readNat at read
  split at read
  · next isNumber =>
      rw [Bool.and_eq_true, List.all_eq_true] at isNumber
      have bound (digits : List UInt8) (value : ℕ) (all : ∀ byte ∈ digits, IsDigit byte) :
          digits.foldl (fun value byte => 10 * value + (byte.toNat - 48)) value <
            (value + 1) * 10 ^ digits.length := by
        induction digits generalizing value with
        | nil => simp
        | cons byte rest ih =>
            obtain ⟨digit, others⟩ := List.forall_mem_cons.mp all
            have most : byte.toNat ≤ 57 := UInt8.le_iff_toNat_le.mp digit.2
            calc (byte :: rest).foldl (fun value byte => 10 * value + (byte.toNat - 48)) value
                < (10 * value + (byte.toNat - 48) + 1) * 10 ^ rest.length := ih _ others
              _ ≤ (10 * (value + 1)) * 10 ^ rest.length := Nat.mul_le_mul_right _ (by omega)
              _ = (value + 1) * 10 ^ (byte :: rest).length := by
                rw [List.length_cons, pow_succ]
                ring
      have below := bound field 0 fun byte member => of_decide_eq_true (isNumber.2 byte member)
      rw [Nat.zero_add, Nat.one_mul] at below
      exact Option.some.inj read ▸ below
  · exact absurd read (by simp)

/-- Digits that are cut off are not read as the number. -/
theorem readNat_take_decimal {n k : ℕ} (short : k < (decimal n).length) :
    readNat ((decimal n).take k) ≠ some n := by
  intro read
  rcases Nat.eq_zero_or_pos k with rfl | positive
  · exact absurd read (by simp [readNat])
  · have below := readNat_lt read
    rw [List.length_take, min_eq_left (Nat.le_of_lt short), ← digitCount_le_iff positive,
      ← length_decimal] at below
    omega

/-- **What `%d` prints and is cut off is not read back.** -/
theorem readInt_take_formatInt {n : ℤ} {k : ℕ} (short : k < (formatInt 0 n).length) :
    readInt ((formatInt 0 n).take k) ≠ some n := by
  have plain (text : List UInt8) : padZero 0 text = text := by simp [padZero]
  intro read
  cases k with
  | zero => exact absurd read (by simp [readInt])
  | succ k =>
      unfold formatInt at short read
      split at read
      · next negative =>
          rw [if_pos negative, Nat.zero_sub, plain, List.length_cons] at short
          rw [Nat.zero_sub, plain, List.take_succ_cons, readInt, if_pos rfl,
            Option.map_eq_some_iff] at read
          obtain ⟨value, told, same⟩ := read
          have number : value = n.natAbs := by omega
          exact readNat_take_decimal (Nat.lt_of_succ_lt_succ short) (number ▸ told)
      · next negative =>
          rw [if_neg negative, plain] at short
          rw [plain] at read
          cases digits : decimal n.natAbs with
          | nil => exact absurd short (by simp [digits])
          | cons first rest =>
              have noSign : first ≠ 45 := by
                intro sign
                have digit : IsDigit first :=
                  isDigit_of_mem_decimal (digits ▸ List.mem_cons_self ..)
                exact absurd (sign ▸ digit) (by decide)
              rw [digits, List.take_succ_cons, readInt, if_neg noSign, ← List.take_succ_cons,
                ← digits, Option.map_eq_some_iff] at read
              obtain ⟨value, told, same⟩ := read
              have number : value = n.natAbs := by omega
              exact readNat_take_decimal short (number ▸ told)

/-- A printed number is not empty. -/
theorem formatInt_ne_nil (width : ℕ) (n : ℤ) : formatInt width n ≠ [] := by
  intro empty
  have read := readInt_formatInt width n
  rw [empty] at read
  cases read

/-! ## Decimals -/

/-- The number that digits with a point among them tell. -/
def readFixed (field : List UInt8) : Option ℚ :=
  match field.splitOn 46 with
  | [whole, fraction] => do
      return (← readNat whole) + (← readNat fraction) / 10 ^ fraction.length
  | _ => none

theorem notMem_padZero {width n : ℕ} {byte : UInt8} (other : ¬ IsDigit byte) :
    byte ∉ padZero width (decimal n) := fun member => other (isDigit_of_mem_padZero member)

theorem replicate_append_eq_padZero (count : ℕ) (text : List UInt8) :
    List.replicate count 48 ++ text = padZero (count + text.length) text := by
  rw [padZero, Nat.add_sub_cancel]

/-- The text of a number that is not negative: digits, a point, digits. -/
theorem formatFixed_of_nonneg (width precision : ℕ) {q : ℚ} (nonneg : 0 ≤ q) :
    ∃ zeros, formatFixed width precision q =
      padZero zeros (decimal (roundEven (q * 10 ^ precision) / 10 ^ precision)) ++
        46 :: padZero precision (decimal (roundEven (q * 10 ^ precision) % 10 ^ precision)) := by
  unfold formatFixed
  dsimp only
  rw [if_neg (not_lt.mpr nonneg), abs_of_nonneg nonneg]
  generalize roundEven (q * 10 ^ precision) = scaled
  have padded (text behind : List UInt8) : padZero width (text ++ behind) =
      padZero (width - (text ++ behind).length + text.length) text ++ behind := by
    rw [padZero, ← List.append_assoc, replicate_append_eq_padZero]
  exact ⟨_, padded _ _⟩

/-- **What `%0*.*f` prints is read back**, rounded to its places. -/
theorem readFixed_formatFixed (width : ℕ) {precision : ℕ} {q : ℚ} (places : 0 < precision)
    (nonneg : 0 ≤ q) :
    readFixed (formatFixed width precision q) =
      some ((roundEven (q * 10 ^ precision) : ℚ) / 10 ^ precision) := by
  obtain ⟨zeros, text⟩ := formatFixed_of_nonneg width precision nonneg
  have power : 0 < 10 ^ precision := Nat.pow_pos (by decide)
  have noPoint {width n : ℕ} : (46 : UInt8) ∉ padZero width (decimal n) :=
    notMem_padZero (by decide)
  have fields : (formatFixed width precision q).splitOn 46 =
      [padZero zeros (decimal (roundEven (q * 10 ^ precision) / 10 ^ precision)),
        padZero precision (decimal (roundEven (q * 10 ^ precision) % 10 ^ precision))] := by
    rw [text, List.splitOn_append_cons_self_of_not_mem noPoint, List.splitOn_eq_singleton noPoint]
  have digits : digitCount (roundEven (q * 10 ^ precision) % 10 ^ precision) ≤ precision :=
    (digitCount_le_iff places).mpr (Nat.mod_lt _ power)
  have width_ : (padZero precision
      (decimal (roundEven (q * 10 ^ precision) % 10 ^ precision))).length = precision := by
    rw [length_padZero, length_decimal, max_eq_left digits]
  simp only [readFixed, fields, readNat_padZero, width_, Option.pure_def, Option.bind_eq_bind,
    Option.bind_some, Option.some.injEq]
  have division : ((10 ^ precision * (roundEven (q * 10 ^ precision) / 10 ^ precision) +
      roundEven (q * 10 ^ precision) % 10 ^ precision : ℕ) : ℚ) =
        roundEven (q * 10 ^ precision) := by
    rw [Nat.div_add_mod]
  push_cast at division ⊢
  rw [eq_div_iff (by positivity), add_mul, div_mul_cancel₀ _ (by positivity)]
  linarith

/-- Numbers that are not negative are printed alike exactly if they are rounded alike. -/
theorem formatFixed_eq_iff (width : ℕ) {precision : ℕ} {q r : ℚ} (places : 0 < precision)
    (nonneg : 0 ≤ q) (nonneg' : 0 ≤ r) :
    formatFixed width precision q = formatFixed width precision r ↔
      roundEven (q * 10 ^ precision) = roundEven (r * 10 ^ precision) := by
  constructor
  · intro same
    have read := readFixed_formatFixed width places nonneg
    rw [same, readFixed_formatFixed width places nonneg', Option.some.injEq,
      div_left_inj' (by positivity)] at read
    exact_mod_cast read.symm
  · intro same
    unfold formatFixed
    simp only [abs_of_nonneg nonneg, abs_of_nonneg nonneg', same, not_lt.mpr nonneg,
      not_lt.mpr nonneg', if_false]

end Msm8660
