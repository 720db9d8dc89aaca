import Msm8660.Gps.DmnPipe

/-!
# The size in front of a message

`loc_eng_dmn_conn_glue_msgrcv` for a `size_t` of 32 or of 64 bits, with whatever `read`
answers. The size that it reads comes from the peer. It is compared with the buffer, but
not with the size of the size itself, which is then subtracted from it: below that the
difference wraps around, and `read` is asked for more bytes than there is room for.

The body stays in the buffer exactly for the sizes of `staysInside_iff`. Over a pipe of the
module before, a call is one of these (`msgrcv_eq_receipt`).
-/

set_option autoImplicit false

namespace Msm8660.Gps

/-- The width of a `size_t`. -/
inductive WordSize where
  | bits32
  | bits64
deriving DecidableEq, Repr

/-- What `read` does when it is asked for so many bytes: it delivers some, not more than
its result can count, or it fails. -/
structure PipeAnswer (sz : ℕ) where
  bytes : Option (List UInt8)
  fits : ∀ delivered ∈ bytes, delivered.length ≤ sz
  isInt : ∀ delivered ∈ bytes, delivered.length < 2147483648

/-- `len`. -/
def PipeAnswer.len {sz : ℕ} (answer : PipeAnswer sz) : ℤ :=
  match answer.bytes with
  | some delivered => delivered.length
  | none => -1

/-- The buffer behind a `read` that stores from an offset on. -/
def PipeAnswer.stored {sz : ℕ} (answer : PipeAnswer sz) (buf : ℕ → UInt8) (offset : ℕ) :
    ℕ → UInt8 :=
  match answer.bytes with
  | some delivered => overwrite buf offset delivered
  | none => buf

/-- What a call of `loc_eng_dmn_conn_glue_msgrcv` does: the number that it returns, the
number of bytes that it asks for behind the size, if it comes to that, and the buffer. -/
structure Receipt where
  returned : ℤ
  asked : Option ℕ
  msgp : ℕ → UInt8

namespace WordSize

/-- `sizeof(size_t)`. -/
def sizeofSizeT : WordSize → ℕ
  | bits32 => 4
  | bits64 => 8

/-- The number of values of a `size_t`. -/
def modulus : WordSize → ℕ
  | bits32 => 4294967296
  | bits64 => 18446744073709551616

/-- `pmsg->msgsz - sizeof(pmsg->msgsz)`, the difference of two `size_t`. -/
def bodySize (word : WordSize) (msgsz : ℕ) : ℕ :=
  (msgsz + word.modulus - word.sizeofSizeT) % word.modulus

/-- `loc_eng_dmn_conn_glue_msgrcv`, with what the two calls of `read` answer. -/
def locEngDmnConnGlueMsgrcv (word : WordSize) (header : PipeAnswer word.sizeofSizeT)
    (body : (sz : ℕ) → PipeAnswer sz) (msgp : ℕ → UInt8) (msgbufsz : ℕ) : Receipt :=
  let pmsg := header.stored msgp 0
  if header.len ≠ word.sizeofSizeT then ⟨-1, none, pmsg⟩
  else
    let msgsz := leValue (readAt pmsg 0 word.sizeofSizeT)
    if msgbufsz < msgsz then ⟨-1, none, pmsg⟩
    else
      let rest := word.bodySize msgsz
      let pmsg := (body rest).stored pmsg word.sizeofSizeT
      if (body rest).len ≠ toInt rest then ⟨-1, some rest, pmsg⟩
      else ⟨toInt (leValue (readAt pmsg 0 word.sizeofSizeT)), some rest, pmsg⟩

/-- **The body of a message of that size stays in the buffer**, and what is accepted has the
size of a message. Accepted is what `loc_api_server_proc` does not refuse. -/
def StaysInside (word : WordSize) (msgbufsz msgsz : ℕ) : Prop :=
  ∀ (header : PipeAnswer word.sizeofSizeT) (body : (sz : ℕ) → PipeAnswer sz) (msgp : ℕ → UInt8),
    header.bytes = some (leBytes word.sizeofSizeT msgsz) →
      (∀ asked ∈ (word.locEngDmnConnGlueMsgrcv header body msgp msgbufsz).asked,
        asked ≤ msgbufsz - word.sizeofSizeT) ∧
      (0 < (word.locEngDmnConnGlueMsgrcv header body msgp msgbufsz).returned →
        word.sizeofSizeT ≤ (word.locEngDmnConnGlueMsgrcv header body msgp msgbufsz).returned ∧
          (word.locEngDmnConnGlueMsgrcv header body msgp msgbufsz).returned ≤ msgbufsz)

/-! ## Words -/

theorem modulus_eq (word : WordSize) : word.modulus = 256 ^ word.sizeofSizeT := by
  cases word with
  | bits32 => rfl
  | bits64 => rfl

/-- A size that counts itself leaves the rest. -/
theorem bodySize_of_le {word : WordSize} {msgsz : ℕ} (header : word.sizeofSizeT ≤ msgsz)
    (isSize : msgsz < word.modulus) : word.bodySize msgsz = msgsz - word.sizeofSizeT := by
  cases word with
  | bits32 =>
      simp only [sizeofSizeT, modulus, bodySize] at header isSize ⊢
      omega
  | bits64 =>
      simp only [sizeofSizeT, modulus, bodySize] at header isSize ⊢
      omega

/-- A smaller one wraps around, to a number of bytes that no buffer has room for. -/
theorem lt_bodySize_of_lt {word : WordSize} {msgsz msgbufsz : ℕ}
    (short : msgsz < word.sizeofSizeT) (isSize : msgbufsz < word.modulus) :
    msgbufsz - word.sizeofSizeT < word.bodySize msgsz := by
  cases word with
  | bits32 =>
      simp only [sizeofSizeT, modulus, bodySize] at short isSize ⊢
      omega
  | bits64 =>
      simp only [sizeofSizeT, modulus, bodySize] at short isSize ⊢
      omega

/-- The `int` of the rest of a message tells the `int` of its size: it is the one of a
failing `read` only for a size of one byte less than a `size_t`. -/
theorem toInt_bodySize {word : WordSize} {msgsz : ℕ} (header : word.sizeofSizeT ≤ msgsz)
    (isSize : msgsz < word.modulus) (positive : 0 < toInt msgsz)
    (short : toInt msgsz < word.sizeofSizeT) :
    toInt (word.bodySize msgsz) = toInt msgsz - word.sizeofSizeT := by
  rw [bodySize_of_le header isSize]
  cases word with
  | bits32 =>
      simp only [sizeofSizeT] at header short ⊢
      unfold toInt at positive short ⊢
      split at short <;> split <;> omega
  | bits64 =>
      simp only [sizeofSizeT] at header short ⊢
      unfold toInt at positive short ⊢
      split at short <;> split <;> omega

/-! ## A call that reads a size -/

section Calls

variable {word : WordSize} {header : PipeAnswer word.sizeofSizeT}
  (body : (sz : ℕ) → PipeAnswer sz) (msgp : ℕ → UInt8) (msgbufsz : ℕ) {msgsz : ℕ}

/-- The field holds the size that was delivered. -/
theorem msgsz_stored (delivers : header.bytes = some (leBytes word.sizeofSizeT msgsz))
    (isSize : msgsz < word.modulus) :
    leValue (readAt (header.stored msgp 0) 0 word.sizeofSizeT) = msgsz := by
  have read := readAt_overwrite msgp 0 (leBytes word.sizeofSizeT msgsz)
  rw [length_leBytes] at read
  rw [word.modulus_eq] at isSize
  simp only [PipeAnswer.stored, delivers, read, leValue_leBytes isSize]

/-- Storing the body leaves the field alone. -/
theorem msgsz_behind (sz : ℕ) (pmsg : ℕ → UInt8) :
    readAt ((body sz).stored pmsg word.sizeofSizeT) 0 word.sizeofSizeT =
      readAt pmsg 0 word.sizeofSizeT := by
  apply List.map_congr_left
  intro offset member
  have inside := List.mem_range.mp member
  unfold PipeAnswer.stored
  cases (body sz).bytes with
  | none => rfl
  | some delivered => exact overwrite_outside (Or.inl (by omega))

/-- **A call that reads a size** refuses it, or asks for the rest, and returns the size when
it gets what it takes for the rest. -/
theorem msgrcv_cases (delivers : header.bytes = some (leBytes word.sizeofSizeT msgsz))
    (isSize : msgsz < word.modulus) :
    (msgbufsz < msgsz ∧ (word.locEngDmnConnGlueMsgrcv header body msgp msgbufsz).returned = -1 ∧
        (word.locEngDmnConnGlueMsgrcv header body msgp msgbufsz).asked = none) ∨
      msgsz ≤ msgbufsz ∧
        (word.locEngDmnConnGlueMsgrcv header body msgp msgbufsz).asked =
          some (word.bodySize msgsz) ∧
        (word.locEngDmnConnGlueMsgrcv header body msgp msgbufsz).returned =
          if (body (word.bodySize msgsz)).len = toInt (word.bodySize msgsz) then toInt msgsz
          else -1 := by
  have whole : header.len = word.sizeofSizeT := by
    simp only [PipeAnswer.len, delivers, length_leBytes]
  have field := msgsz_stored msgp delivers isSize
  simp only [locEngDmnConnGlueMsgrcv, whole, ne_eq, not_true_eq_false, if_false, msgsz_behind]
  revert field
  generalize leValue (readAt (header.stored msgp 0) 0 word.sizeofSizeT) = size
  rintro rfl
  by_cases large : msgbufsz < size
  · rw [if_pos large]
    exact Or.inl ⟨large, rfl, rfl⟩
  · rw [if_neg large]
    refine Or.inr ⟨by omega, ?_⟩
    by_cases same : (body (word.bodySize size)).len = toInt (word.bodySize size)
    · rw [if_neg (not_not_intro same), if_pos same]
      exact ⟨rfl, rfl⟩
    · rw [if_pos same, if_neg same]
      exact ⟨rfl, rfl⟩

end Calls

/-- A `read` that fails. -/
def failing (sz : ℕ) : PipeAnswer sz := ⟨none, nofun, nofun⟩

/-- A `read` that delivers a size. -/
def delivering (word : WordSize) (msgsz : ℕ) : PipeAnswer word.sizeofSizeT where
  bytes := some (leBytes word.sizeofSizeT msgsz)
  fits := by
    rintro delivered ⟨⟩
    rw [length_leBytes]
  isInt := by
    rintro delivered ⟨⟩
    rw [length_leBytes]
    cases word with
    | bits32 => decide
    | bits64 => decide

theorem neg_one_le_len {sz : ℕ} (answer : PipeAnswer sz) : -1 ≤ answer.len := by
  unfold PipeAnswer.len
  split <;> omega

/-- **The sizes for which the body stays in the buffer**: those that are refused, and those
that count the size itself, less the ones whose `int` is one byte short of it. -/
theorem staysInside_iff (word : WordSize) {msgbufsz msgsz : ℕ}
    (room : word.sizeofSizeT ≤ msgbufsz) (isBuffer : msgbufsz < word.modulus)
    (isSize : msgsz < word.modulus) :
    word.StaysInside msgbufsz msgsz ↔
      msgbufsz < msgsz ∨ word.sizeofSizeT ≤ msgsz ∧ toInt msgsz ≠ word.sizeofSizeT - 1 := by
  constructor
  · intro inside
    by_cases large : msgbufsz < msgsz
    · exact Or.inl large
    · obtain ⟨asked, returned⟩ := inside (word.delivering msgsz) failing (fun _ => 0) rfl
      obtain ⟨refused, -⟩ | ⟨-, asks, returns⟩ :=
        @msgrcv_cases word (word.delivering msgsz) failing (fun _ => 0) msgbufsz msgsz rfl isSize
      · exact absurd refused large
      · have bounded := asked _ asks
        have header : word.sizeofSizeT ≤ msgsz := by
          by_contra short
          have wraps := lt_bodySize_of_lt (Nat.lt_of_not_le short) isBuffer
          omega
        refine Or.inr ⟨header, fun short => ?_⟩
        have four : 4 ≤ word.sizeofSizeT := by cases word <;> decide
        -- the failing `read` is taken for the whole body
        have rest := toInt_bodySize header isSize (by omega) (by omega)
        have failed : (failing (word.bodySize msgsz)).len = -1 := rfl
        rw [rest, short, failed, if_pos (by omega)] at returns
        have least := (returned (by omega)).1
        omega
  · rintro condition header body msgp delivers
    obtain ⟨large, refused, asks⟩ | ⟨fits, asks, returns⟩ :=
      msgrcv_cases body msgp msgbufsz delivers isSize
    · rw [asks, refused]
      exact ⟨nofun, fun positive => absurd positive (by decide)⟩
    · obtain large | ⟨whole, differs⟩ := condition
      · omega
      · rw [asks, returns]
        constructor
        · rintro asked ⟨⟩
          rw [bodySize_of_le whole isSize]
          omega
        · intro positive
          by_cases same : (body (word.bodySize msgsz)).len = toInt (word.bodySize msgsz)
          · rw [if_pos same] at positive ⊢
            have most := toNat_toInt_le msgsz
            refine ⟨?_, by omega⟩
            by_contra short
            have rest := toInt_bodySize whole isSize positive (by omega)
            have least := neg_one_le_len (body (word.bodySize msgsz))
            omega
          · rw [if_neg same] at positive
            exact absurd positive (by decide)

/-- A message without strings, in the buffer of `loc_api_server_proc`. -/
theorem staysInside_iff_request : StaysInside .bits32 368 112 :=
  (staysInside_iff .bits32 (by decide) (by decide) (by decide)).mpr (by decide)

/-- A size of zero is smaller than any buffer, and 4294967292 bytes are asked for. -/
theorem not_staysInside : ¬ StaysInside .bits32 368 0 := by
  intro inside
  have bounded := (inside (delivering .bits32 0) failing (fun _ => 0) rfl).1 4294967292
  exact absurd (bounded (by decide)) (by decide)

end WordSize

/-! ## Over a pipe -/

/-- What `read` answers on a pipe that has enough bytes. -/
def Pipe.answer (pipe : Pipe) (sz : ℕ) : PipeAnswer sz where
  bytes := if 2147483648 ≤ sz then none else some (pipe.take sz)
  fits := by
    intro delivered member
    split at member
    · cases member
    · cases member
      rw [List.length_take]
      omega
  isInt := by
    intro delivered member
    split at member
    · cases member
    · cases member
      rw [List.length_take]
      omega

theorem Pipe.piperead_eq_some {pipe later : Pipe} {buf after : ℕ → UInt8} {offset sz : ℕ}
    {result : ℤ} (read : locEngDmnConnGluePiperead pipe buf offset sz =
      some (result, after, later)) :
    result = (pipe.answer sz).len ∧ after = (pipe.answer sz).stored buf offset ∧
      (sz < 2147483648 → later = pipe.drop sz) := by
  unfold locEngDmnConnGluePiperead at read
  by_cases huge : 2147483648 ≤ sz
  · rw [if_pos huge] at read
    cases read
    simp only [Pipe.answer, PipeAnswer.len, PipeAnswer.stored, if_pos huge, true_and]
    omega
  · rw [if_neg huge] at read
    split at read
    · next enough =>
        cases read
        simp only [Pipe.answer, PipeAnswer.len, PipeAnswer.stored, if_neg huge, List.length_take,
          Nat.min_eq_left enough, implies_true, and_self]
    · cases read

/-- **A call over a pipe is a call with the answers of the pipe.** -/
theorem msgrcv_eq_receipt {pipe later : Pipe} {msgp buffer : ℕ → UInt8} {msgbufsz : ℕ}
    {returned : ℤ} (received : locEngDmnConnGlueMsgrcv pipe msgp msgbufsz =
      some (returned, buffer, later)) :
    (WordSize.bits32.locEngDmnConnGlueMsgrcv (pipe.answer 4) (Pipe.answer (pipe.drop 4)) msgp
        msgbufsz).returned = returned ∧
      (WordSize.bits32.locEngDmnConnGlueMsgrcv (pipe.answer 4) (Pipe.answer (pipe.drop 4)) msgp
        msgbufsz).msgp = buffer := by
  unfold Gps.locEngDmnConnGlueMsgrcv at received
  obtain ⟨⟨result, pmsg, behind⟩, first, rest⟩ := Option.bind_eq_some_iff.mp received
  obtain ⟨len, stored, left⟩ := Pipe.piperead_eq_some first
  rw [left (by decide)] at rest
  obtain ⟨header, answered⟩ :
      ∃ header : PipeAnswer WordSize.bits32.sizeofSizeT, header = pipe.answer 4 := ⟨_, rfl⟩
  rw [← answered]
  replace len : result = header.len := by
    rw [answered]
    exact len
  replace stored : pmsg = header.stored msgp 0 := by
    rw [answered]
    exact stored
  subst stored len
  have four : ((WordSize.bits32.sizeofSizeT : ℕ) : ℤ) = 4 := rfl
  have field : ∀ pmsg : ℕ → UInt8,
      msgszField pmsg = leValue (readAt pmsg 0 WordSize.bits32.sizeofSizeT) := fun _ => rfl
  have wraps : ∀ msgsz : ℕ,
      (msgsz + 4294967296 - 4) % 4294967296 = WordSize.bits32.bodySize msgsz := fun _ => rfl
  unfold WordSize.locEngDmnConnGlueMsgrcv
  simp only [field, wraps] at rest
  dsimp only
  rw [four]
  generalize leValue (readAt (header.stored msgp 0) 0 WordSize.bits32.sizeofSizeT) = msgsz
    at rest ⊢
  generalize WordSize.bits32.bodySize msgsz = sz at rest ⊢
  by_cases whole : header.len ≠ 4
  · rw [if_pos whole] at rest ⊢
    cases rest
    exact ⟨rfl, rfl⟩
  · rw [if_neg whole] at rest ⊢
    by_cases large : msgbufsz < msgsz
    · rw [if_pos large] at rest ⊢
      cases rest
      exact ⟨rfl, rfl⟩
    · rw [if_neg large] at rest ⊢
      obtain ⟨⟨result, pmsg, behind⟩, second, same⟩ := Option.map_eq_some_iff.mp rest
      obtain ⟨len, stored, -⟩ := Pipe.piperead_eq_some second
      dsimp only at same
      rw [len, stored] at same
      split at same
      · next differs =>
          cases same
          rw [if_pos differs]
          exact ⟨rfl, rfl⟩
      · next equal =>
          rw [Prod.mk.injEq, Prod.mk.injEq] at same
          obtain ⟨rfl, rfl, -⟩ := same
          rw [if_neg equal]
          dsimp only
          exact ⟨rfl, rfl⟩

end Msm8660.Gps
