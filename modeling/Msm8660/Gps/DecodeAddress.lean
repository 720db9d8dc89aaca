import Mathlib.Data.List.Basic
import Msm8660.Lib.Bytes

/-!
# `LocApiAdapter::decodeAddress`

The address of a network-initiated request comes as a prefix byte and
semi-octets: two digits a byte, the low nibble first, with `0xF` where a digit is
missing. `decodeAddress` writes one character for each nibble that is a digit,
as long as the string has room for it and for the terminator.

The loop keeps `DecodedAddress.Holds`: the string begins with the digits met so
far, cut to the room. So the output is the cut of all the digits, and it inverts
`encodeAddress` (`decodeAddress_inverts`).
-/

set_option autoImplicit false

namespace Msm8660.Gps

/-- `addr_prefix`. -/
def addrPrefix : UInt8 := 0x91

/-- The string under construction: `addr_string` and `idxOutput`. -/
structure DecodedAddress where
  addrString : ℕ → UInt8
  idxOutput : ℕ

/-- `if (nibble <= 9 && idxOutput < string_size - 1) { .. }` -/
def DecodedAddress.append (stringSize : ℤ) (out : DecodedAddress) (nibble : UInt8) :
    DecodedAddress :=
  if nibble ≤ 9 ∧ (out.idxOutput : ℤ) < stringSize - 1 then
    ⟨overwrite out.addrString out.idxOutput [nibble + 0x30], out.idxOutput + 1⟩
  else out

/-- The body of the loop: the low nibble of `ch`, then the high one. -/
def DecodedAddress.appendByte (stringSize : ℤ) (out : DecodedAddress) (ch : UInt8) :
    DecodedAddress :=
  (out.append stringSize (ch &&& 0x0F)).append stringSize (ch >>> 4)

/-- `addr_string[idxOutput] = '\0'`. -/
def DecodedAddress.terminated (out : DecodedAddress) : ℕ → UInt8 :=
  overwrite out.addrString out.idxOutput [0]

/-- `decodeAddress`: what `addr_string` points at afterwards and the number
returned. The bytes of `data` from the second on are read up to `data_size`. -/
def decodeAddress (addrString : Option (ℕ → UInt8)) (stringSize : ℤ)
    (data : Option (ℕ → UInt8)) (dataSize : ℤ) : Option (ℕ → UInt8) × ℕ :=
  match data, addrString with
  | some data, some addrString =>
      if data 0 ≠ addrPrefix then (some (overwrite addrString 0 [0]), 0)
      else
        let out := (readAt data 1 (dataSize - 1).toNat).foldl
          (DecodedAddress.appendByte stringSize) ⟨addrString, 0⟩
        (some out.terminated, out.idxOutput)
  | _, _ => (addrString, 0)

/-! ## Semi-octets -/

/-- The nibbles of bytes, the low one of each byte first. -/
def nibbles (bytes : List UInt8) : List UInt8 :=
  bytes.flatMap fun ch => [ch &&& 0x0F, ch >>> 4]

/-- The nibbles that are digits. -/
def nibbleDigits (bytes : List UInt8) : List UInt8 := (nibbles bytes).filter (· ≤ 9)

/-- The semi-octet encoding of decimal digits, with `0xF` after an odd end. -/
def semiOctets : List (Fin 10) → List UInt8
  | [] => []
  | [last] => [0xF0 ||| UInt8.ofNat last.val]
  | low :: high :: rest =>
      (UInt8.ofNat high.val <<< 4 ||| UInt8.ofNat low.val) :: semiOctets rest

/-- An address as it is sent. -/
def encodeAddress (digits : List (Fin 10)) : List UInt8 := addrPrefix :: semiOctets digits

/-- The characters of digits. -/
def digitCharacters (digits : List UInt8) : List UInt8 := digits.map (· + 0x30)

theorem nibbles_pair (low high : Fin 10) :
    nibbles [UInt8.ofNat high.val <<< 4 ||| UInt8.ofNat low.val] =
      [UInt8.ofNat low.val, UInt8.ofNat high.val] := by
  decide +revert

theorem nibbles_last (last : Fin 10) :
    nibbles [0xF0 ||| UInt8.ofNat last.val] = [UInt8.ofNat last.val, 0xF] := by
  decide +revert

theorem digit_le (digit : Fin 10) : UInt8.ofNat digit.val ≤ 9 := by
  decide +revert

theorem nibbles_cons (ch : UInt8) (bytes : List UInt8) :
    nibbles (ch :: bytes) = nibbles [ch] ++ nibbles bytes := by
  simp [nibbles]

theorem nibbleDigits_cons (ch : UInt8) (bytes : List UInt8) :
    nibbleDigits (ch :: bytes) =
      [ch &&& 0x0F].filter (· ≤ 9) ++ [ch >>> 4].filter (· ≤ 9) ++ nibbleDigits bytes := by
  rw [nibbleDigits, nibbles_cons, List.filter_append, ← nibbleDigits, ← List.filter_append]
  rfl

/-- The digits are found again in their encoding. -/
theorem nibbleDigits_semiOctets (digits : List (Fin 10)) :
    nibbleDigits (semiOctets digits) = digits.map fun digit => UInt8.ofNat digit.val := by
  induction digits using semiOctets.induct with
  | case1 => rfl
  | case2 last =>
      have digit := digit_le last
      rw [semiOctets, nibbleDigits, nibbles_last, List.filter_cons_of_pos (by simpa using digit)]
      rfl
  | case3 low high rest ih =>
      have lowDigit := digit_le low
      have highDigit := digit_le high
      rw [semiOctets, nibbleDigits, nibbles_cons, nibbles_pair, List.filter_append,
        ← nibbleDigits, ih, List.filter_cons_of_pos (by simpa using lowDigit),
        List.filter_cons_of_pos (by simpa using highDigit)]
      rfl

/-! ## The loop -/

/-- The string begins with the digits met so far, as many as there is room for,
and is as it was from there on. -/
structure DecodedAddress.Holds (before : ℕ → UInt8) (stringSize : ℤ) (digits : List UInt8)
    (out : DecodedAddress) : Prop where
  idxOutput : out.idxOutput = min digits.length (stringSize - 1).toNat
  addrString : out.addrString =
    overwrite before 0 (digitCharacters (digits.take (stringSize - 1).toNat))

section Loop

variable {before : ℕ → UInt8} {stringSize : ℤ} {digits : List UInt8} {out : DecodedAddress}

theorem DecodedAddress.Holds.start (before : ℕ → UInt8) (stringSize : ℤ) :
    Holds before stringSize [] ⟨before, 0⟩ where
  idxOutput := by simp
  addrString := by
    funext address
    simp [digitCharacters, overwrite]

/-- One guarded append. -/
theorem DecodedAddress.Holds.append (holds : Holds before stringSize digits out)
    (nibble : UInt8) :
    Holds before stringSize (digits ++ [nibble].filter (· ≤ 9))
      (out.append stringSize nibble) := by
  have count := holds.idxOutput
  by_cases digit : nibble ≤ 9
  · rw [List.filter_cons_of_pos (by simpa using digit), List.filter_nil]
    by_cases room : (out.idxOutput : ℤ) < stringSize - 1
    · have fits : digits.length + 1 ≤ (stringSize - 1).toNat := by omega
      have whole : digits.take (stringSize - 1).toNat = digits :=
        List.take_of_length_le (by omega)
      have longer : (digits ++ [nibble]).take (stringSize - 1).toNat = digits ++ [nibble] :=
        List.take_of_length_le (by simpa using fits)
      have place : out.idxOutput = digits.length := by omega
      rw [DecodedAddress.append, if_pos ⟨digit, room⟩]
      refine ⟨?_, ?_⟩
      · show out.idxOutput + 1 = _
        rw [place, List.length_append, List.length_singleton]
        omega
      · show overwrite out.addrString out.idxOutput [nibble + 0x30] = _
        rw [longer, holds.addrString, whole, place, digitCharacters, digitCharacters,
          List.map_append, overwrite_append, List.length_map, Nat.zero_add]
        rfl
    · have full : (stringSize - 1).toNat ≤ digits.length := by omega
      rw [DecodedAddress.append, if_neg fun both => room both.2]
      refine ⟨by rw [count, List.length_append, List.length_singleton]; omega, ?_⟩
      rw [holds.addrString, List.take_append_of_le_length full]
  · rw [DecodedAddress.append, if_neg fun both => digit both.1,
      List.filter_cons_of_neg (by simpa using digit), List.filter_nil, List.append_nil]
    exact holds

/-- One byte. -/
theorem DecodedAddress.Holds.appendByte (holds : Holds before stringSize digits out)
    (ch : UInt8) :
    Holds before stringSize (digits ++ ([ch &&& 0x0F].filter (· ≤ 9) ++
      [ch >>> 4].filter (· ≤ 9))) (out.appendByte stringSize ch) := by
  rw [← List.append_assoc]
  exact (holds.append _).append _

/-- All bytes. -/
theorem DecodedAddress.Holds.foldl (holds : Holds before stringSize digits out)
    (bytes : List UInt8) :
    Holds before stringSize (digits ++ nibbleDigits bytes)
      (bytes.foldl (DecodedAddress.appendByte stringSize) out) := by
  induction bytes generalizing digits out with
  | nil => simpa [nibbleDigits, nibbles] using holds
  | cons ch bytes ih =>
      rw [List.foldl_cons, nibbleDigits_cons, ← List.append_assoc]
      exact ih (holds.appendByte ch)

end Loop

/-! ## The result -/

/-- What a call leaves in a string of the given size, when the digits to write
are these: as many as there is room for, a terminator, and that number returned.
Nothing behind the terminator is written. -/
structure WritesDigits (before : ℕ → UInt8) (stringSize : ℤ) (digits : List UInt8)
    (result : Option (ℕ → UInt8) × ℕ) : Prop where
  returned : result.2 = min digits.length (stringSize - 1).toNat
  written : ∃ after, result.1 = some after ∧
    readAt after 0 (result.2 + 1) =
      digitCharacters (digits.take (stringSize - 1).toNat) ++ [0] ∧
    ∀ address, result.2 < address → after address = before address
  inside : (result.2 : ℤ) < stringSize

/-- The digits of the bytes behind the prefix are written. -/
theorem decodeAddress_writes (before data : ℕ → UInt8) {stringSize : ℤ} (size : 1 ≤ stringSize)
    (dataSize : ℤ) (prefixed : data 0 = addrPrefix) :
    WritesDigits before stringSize (nibbleDigits (readAt data 1 (dataSize - 1).toNat))
      (decodeAddress (some before) stringSize (some data) dataSize) := by
  have holds := (DecodedAddress.Holds.start before stringSize).foldl
    (readAt data 1 (dataSize - 1).toNat)
  rw [List.nil_append] at holds
  simp only [decodeAddress, prefixed, ne_eq, not_true_eq_false, if_false]
  generalize nibbleDigits (readAt data 1 (dataSize - 1).toNat) = digits at holds ⊢
  generalize (readAt data 1 (dataSize - 1).toNat).foldl
    (DecodedAddress.appendByte stringSize) ⟨before, 0⟩ = out at holds ⊢
  have count := holds.idxOutput
  have length : (digitCharacters (digits.take (stringSize - 1).toNat)).length =
      out.idxOutput := by
    rw [digitCharacters, List.length_map, List.length_take, count, Nat.min_comm]
  have terminated : out.terminated = overwrite before 0
      (digitCharacters (digits.take (stringSize - 1).toNat) ++ [0]) := by
    rw [DecodedAddress.terminated, holds.addrString, overwrite_append, length, Nat.zero_add]
  refine ⟨count, ⟨out.terminated, rfl, ?_, fun address behind => ?_⟩, ?_⟩
  · have whole := readAt_overwrite before 0
      (digitCharacters (digits.take (stringSize - 1).toNat) ++ [0])
    rwa [List.length_append, length, List.length_singleton, ← terminated] at whole
  · rw [terminated, overwrite_outside (Or.inr ?_)]
    rw [List.length_append, length, List.length_singleton]
    omega
  · show (out.idxOutput : ℤ) < stringSize
    omega

/-- **`decodeAddress` inverts the semi-octet encoding.** A string of any size
from 1 on receives the first digits, as many as fit before the terminator;
behind the prefix any bytes are decoded to their nibbles that are digits, cut in
the same way. -/
theorem decodeAddress_inverts (before data : ℕ → UInt8) {stringSize : ℤ}
    (size : 1 ≤ stringSize) (dataSize : ℤ) :
    (∀ digits : List (Fin 10),
      readAt data 0 dataSize.toNat = encodeAddress digits →
        WritesDigits before stringSize (digits.map fun digit => UInt8.ofNat digit.val)
          (decodeAddress (some before) stringSize (some data) dataSize)) ∧
    (data 0 = addrPrefix →
      WritesDigits before stringSize (nibbleDigits (readAt data 1 (dataSize - 1).toNat))
        (decodeAddress (some before) stringSize (some data) dataSize)) := by
  refine ⟨fun digits encoded => ?_, decodeAddress_writes before data size dataSize⟩
  have positive : dataSize.toNat = 1 + (dataSize - 1).toNat := by
    have length := congrArg List.length encoded
    rw [length_readAt, encodeAddress, List.length_cons] at length
    omega
  rw [positive, readAt_add, encodeAddress] at encoded
  obtain ⟨prefixed, rest⟩ := List.cons.inj encoded
  rw [← nibbleDigits_semiOctets, ← rest]
  exact decodeAddress_writes before data size dataSize prefixed

/-- The address `+12345` in a string for four characters and one for more. -/
theorem decodeAddress_inverts_five :
    WritesDigits (fun _ => 0xAA) 5 ([1, 2, 3, 4, 5].map fun digit : Fin 10 => UInt8.ofNat digit.val)
      (decodeAddress (some fun _ => 0xAA) 5
        (some fun index => [0x91, 0x21, 0x43, 0xF5].getD index 0) 4) :=
  (decodeAddress_inverts (fun _ => 0xAA) (fun index => [0x91, 0x21, 0x43, 0xF5].getD index 0)
    (by omega) 4).1 [1, 2, 3, 4, 5] (by decide)

end Msm8660.Gps
