import Msm8660.Gps.Nmea
import Msm8660.Lib.Bytes

/-!
# The checksum of a sentence, in its buffer

`loc_eng_nmea_put_checksum` as it works on the array: a pointer runs over the body while the
checksum and the length are kept beside it, and the suffix is printed where the pointer
stops. What is left in the buffer is the sentence that the model of the generators has
(`putChecksum_written`). The number returned is not its length: the pointer has been moved
over the `$` before anything is counted, so that it is one too small, for every body.
-/

set_option autoImplicit false

namespace Msm8660.Gps

/-- `snprintf` at an address, with the text already formatted. It returns the length of the
text, also where it has to cut it off. -/
def snprintf (memory : ℕ → UInt8) (address size : ℕ) (text : List UInt8) : (ℕ → UInt8) × ℤ :=
  (if size = 0 then memory else overwrite memory address (text.take (size - 1) ++ [0]),
    text.length)

/-- "while (*pNmea != '\0')": the pointer, the checksum and the length behind it. The loop
leaves the array where that has no end within it. -/
def checksumLoop (sentence : ℕ → UInt8) : ℕ → ℕ → UInt8 → ℤ → Option (ℕ × UInt8 × ℤ)
  | 0, _, _, _ => none
  | left + 1, pNmea, checksum, length =>
      if sentence pNmea ≠ 0 then
        checksumLoop sentence left (pNmea + 1) (checksum ^^^ sentence pNmea) (length + 1)
      else some (pNmea, checksum, length)

/-- `loc_eng_nmea_put_checksum` on an array of `maxSize` bytes, with the number that it
returns. -/
def locEngNmeaPutChecksumIn (pNmea : ℕ → UInt8) (maxSize : ℕ) : Option ((ℕ → UInt8) × ℤ) :=
  -- "skip the $"
  (checksumLoop pNmea (maxSize - 1) 1 0 0).map fun (end_, checksum, length) =>
    let (pNmea, checksumLength) :=
      snprintf pNmea end_ maxSize (42 :: formatHex checksum ++ [13, 10])
    (pNmea, length + checksumLength)

/-- A call of `nmea_cb`. -/
structure NmeaCbCall where
  pNmea : ℕ → UInt8
  length : ℤ

/-- `loc_eng_nmea_send`. -/
def locEngNmeaSend (pNmea : ℕ → UInt8) (length : ℤ) : NmeaCbCall := ⟨pNmea, length⟩

/-- The two lines that end every sentence, with the call of `nmea_cb`. -/
def finishSentence (sentence : ℕ → UInt8) (size : ℕ) : Option NmeaCbCall :=
  (locEngNmeaPutChecksumIn sentence size).map fun (sentence, length) =>
    locEngNmeaSend sentence length

/-- A body that `loc_eng_nmea_put_checksum` is made for. -/
structure IsBody (size : ℕ) (body : List UInt8) : Prop where
  start : body.head? = some 36
  noNul : 0 ∉ body
  room : body.length + 6 ≤ size

/-- **`nmea_cb` gets the body with its checksum, and the length of it.** -/
def SendsWhole (size : ℕ) (memory : ℕ → UInt8) (body : List UInt8) : Prop :=
  ∃ call ∈ finishSentence (overwrite memory 0 (body ++ [0])) size,
    readAt call.pNmea 0 (body.length + 6) =
        body ++ 42 :: formatHex ((body.drop 1).foldl (· ^^^ ·) 0) ++ [13, 10, 0] ∧
      call.length = body.length + 5

/-! ## The loop -/

/-- The loop runs over a text and stops at its end. -/
theorem checksumLoop_text {sentence : ℕ → UInt8} {text : List UInt8} {address left : ℕ}
    (held : readAt sentence address (text.length + 1) = text ++ [0]) (noNul : 0 ∉ text)
    (enough : text.length < left) (checksum : UInt8) (length : ℤ) :
    checksumLoop sentence left address checksum length =
      some (address + text.length, text.foldl (· ^^^ ·) checksum, length + text.length) := by
  induction text generalizing address left checksum length with
  | nil =>
      obtain ⟨left, rfl⟩ := Nat.exists_eq_add_of_le' enough
      have nul : sentence address = 0 := by simpa [readAt] using held
      simp [checksumLoop, nul]
  | cons char rest ih =>
      obtain ⟨left, rfl⟩ := Nat.exists_eq_add_of_le' (Nat.lt_of_le_of_lt (Nat.zero_le _) enough)
      rw [List.length_cons, Nat.add_comm (rest.length + 1), readAt_add, List.cons_append] at held
      obtain ⟨here, behind⟩ := List.cons.inj held
      have same : sentence address = char := here
      have more : char ≠ 0 := fun nul => noNul (nul ▸ List.mem_cons_self)
      rw [checksumLoop, same, if_pos more,
        ih behind (fun member => noNul (List.mem_cons_of_mem _ member))
          (by rw [List.length_cons] at enough; omega)]
      simp only [List.length_cons, List.foldl_cons, Option.some.injEq, Prod.mk.injEq, true_and]
      omega

/-- **What ends a sentence**: the sentence is there, and one byte of it is not counted. -/
theorem putChecksum_written {size : ℕ} {body : List UInt8} (isBody : IsBody size body)
    (memory : ℕ → UInt8) :
    finishSentence (overwrite memory 0 (body ++ [0])) size =
      some ⟨overwrite memory 0 (locEngNmeaPutChecksum body ++ [0]), body.length + 4⟩ := by
  obtain ⟨start, noNul, room⟩ := isBody
  cases body with
  | nil => cases start
  | cons dollar text =>
      rw [List.length_cons] at room
      have held : readAt (overwrite memory 0 (dollar :: text ++ [0])) 1 (text.length + 1) =
          text ++ [0] := by
        have whole := readAt_overwrite memory 0 (dollar :: (text ++ [0]))
        rw [List.length_cons, Nat.add_comm, readAt_add, List.length_append] at whole
        exact (List.cons.inj whole).2
      have loop := checksumLoop_text held (fun member => noNul (List.mem_cons_of_mem _ member))
        (show text.length < size - 1 by omega) 0 0
      have suffix : (42 :: formatHex (text.foldl (· ^^^ ·) 0) ++ [13, 10]).length = 5 := rfl
      have cut := List.take_of_length_le
        (show (42 :: formatHex (text.foldl (· ^^^ ·) 0) ++ [13, 10]).length ≤ size - 1 by omega)
      have printed := overwrite_append memory 0 (dollar :: text) [0]
      have written := overwrite_append memory 0 (dollar :: text)
        (42 :: formatHex (text.foldl (· ^^^ ·) 0) ++ [13, 10] ++ [0])
      rw [finishSentence, locEngNmeaPutChecksumIn, loop, Option.map_some, Option.map_some]
      simp only [snprintf, locEngNmeaSend, suffix, cut, if_neg (show ¬ size = 0 by omega)]
      rw [printed, Nat.add_comm 1, ← Nat.zero_add (text.length + 1), ← List.length_cons,
        overwrite_overwrite _ _ (by simp), ← written]
      simp only [locEngNmeaPutChecksum, List.drop_one, List.tail_cons, List.append_assoc,
        List.length_cons, Option.some.injEq, NmeaCbCall.mk.injEq, true_and]
      omega

/-- What is in the buffer is right for every body. -/
theorem putChecksum_text {size : ℕ} {body : List UInt8} (isBody : IsBody size body)
    (memory : ℕ → UInt8) : ∃ call ∈ finishSentence (overwrite memory 0 (body ++ [0])) size,
      readAt call.pNmea 0 (body.length + 6) =
        body ++ 42 :: formatHex ((body.drop 1).foldl (· ^^^ ·) 0) ++ [13, 10, 0] := by
  refine ⟨_, putChecksum_written isBody memory, ?_⟩
  have read := readAt_overwrite memory 0 (locEngNmeaPutChecksum body ++ [0])
  rw [List.length_append, length_locEngNmeaPutChecksum] at read
  rw [show body.length + 6 = body.length + 5 + [(0 : UInt8)].length from rfl, read,
    locEngNmeaPutChecksum, List.append_assoc]
  rfl

/-- **The length is wrong for every body.** -/
theorem sendsWhole_never {size : ℕ} {body : List UInt8} (isBody : IsBody size body)
    (memory : ℕ → UInt8) : ¬ SendsWhole size memory body := by
  rintro ⟨call, finished, -, length⟩
  rw [putChecksum_written isBody memory, Option.mem_some_iff] at finished
  rw [← finished] at length
  dsimp only at length
  omega

/-- The body of the sentence for no satellites. -/
theorem isBody_gpgsv : IsBody nmeaSentenceMaxLength (ascii "$GPGSV,1,1,0,") :=
  ⟨by decide, by decide, by decide⟩

theorem sendsWhole_never_gpgsv :
    ¬ SendsWhole nmeaSentenceMaxLength (fun _ => 0) (ascii "$GPGSV,1,1,0,") :=
  sendsWhole_never isBody_gpgsv fun _ => 0

/-- Not every body is sent with the length of its sentence. -/
theorem not_sendsWhole : ¬ ∀ (size : ℕ) (body : List UInt8) (memory : ℕ → UInt8),
    IsBody size body → SendsWhole size memory body := by
  intro whole
  obtain ⟨call, finished, -, length⟩ := whole nmeaSentenceMaxLength _ (fun _ => 0) isBody_gpgsv
  rw [putChecksum_written isBody_gpgsv, Option.mem_some_iff] at finished
  rw [← finished] at length
  exact absurd length (by decide)

end Msm8660.Gps
