import Mathlib.Algebra.Ring.Int.Defs
import Msm8660.Lib.Machine
import Msm8660.Sensors.AkmSensor

/-!
# Who uses the accelerometer

Accelerometer and significant motion share the accelerometer of the library, and
`mAccRefCount` counts the bits of `mEnabled` that are set among these two. `enable` and
the automatic disable of `readEvents` keep the difference of the count and the number of
the bits (`counts_run`). The constructor sets a bit without counting it where the library
has enabled the accelerometer before, and then the count stays one short for ever
(`mAccRefCount_eq_users_iff`).
-/

set_option autoImplicit false

namespace Msm8660.Sensors

/-- The number of set bits among `Accelerometer` and `SignificantMotion`. -/
def AkmSensor.users (akm : AkmSensor) : ℤ :=
  (if akm.mEnabled .accelerometer then 1 else 0) +
    if akm.mEnabled .significantMotion then 1 else 0

/-- Whether the accelerometer of the library is on after a call. -/
def powerAfter (on : Bool) (call : LibraryCall) : Bool :=
  if call.sensorType = .accelerometer ∧ call.err = 0 then call.enable else on

/-- What happens to the driver: `enable`, with the result of the library, or `readEvents`. -/
inductive AkmOp where
  | enable (handle en library : ℤ)
  | readEvents (count : ℤ) (answers : ReadAnswers)

/-- The driver, with the calls of the library that it makes. A call of `readEvents` that
blocks has not changed the counters, and the next operation comes before it returns. -/
def akmDriver : Machine AkmSensor AkmOp LibraryCall where
  step akm op := match op with
    | .enable handle en library =>
        ((akm.enable handle en library).1, (akm.enable handle en library).2.2)
    | .readEvents count answers => match akm.readEvents count answers with
        | none => (akm, [])
        | some (reading, _, calls) => (reading.sensors, calls)

/-- The count lacks `missing` of the users, and where it lacks none, the accelerometer is on
exactly while there are users. -/
structure Counts (missing : ℤ) (akm : AkmSensor) (on : Bool) : Prop where
  count : akm.mAccRefCount = akm.users - missing
  power : missing = 0 → (on = true ↔ 0 < akm.users)

/-! ## Users -/

section Users

variable (akm : AkmSensor)

theorem users_nonneg : 0 ≤ akm.users := by
  unfold AkmSensor.users
  split <;> split <;> decide

/-- The other sensors are no users. -/
theorem users_switch_other {what : AkmIndex} (other : what.sensorType ≠ .accelerometer)
    (en : Bool) : (akm.switch what en).users = akm.users := by
  cases what with
  | accelerometer => exact absurd rfl other
  | significantMotion => exact absurd rfl other
  | magneticField => rfl
  | orientation => rfl

/-- A bit that changes is a user more or less. -/
theorem users_switch {what : AkmIndex} (shared : what.sensorType = .accelerometer) {en : Bool}
    (changes : en ≠ akm.mEnabled what) :
    (akm.switch what en).users = if en then akm.users + 1 else akm.users - 1 := by
  have before : akm.mEnabled what = !en := by
    cases set : akm.mEnabled what <;> cases en <;> simp_all
  cases what with
  | accelerometer => cases en <;> simp [AkmSensor.users, AkmSensor.switch, before, add_comm]
  | significantMotion => cases en <;> simp [AkmSensor.users, AkmSensor.switch, before]
  | magneticField => cases shared
  | orientation => cases shared

end Users

/-! ## One operation -/

section Operations

variable {missing : ℤ} {akm : AkmSensor} {on : Bool}

/-- A switch of another sensor. -/
theorem Counts.switch_other (counts : Counts missing akm on) {what : AkmIndex}
    (other : what.sensorType ≠ .accelerometer) (en : Bool) :
    Counts missing (akm.switch what en) on :=
  ⟨by rw [users_switch_other akm other]; exact (if_neg other).trans counts.count,
    by rw [users_switch_other akm other]; exact counts.power⟩

/-- The count of a switch of the accelerometer. -/
theorem Counts.switch_count (counts : Counts missing akm on) {what : AkmIndex}
    (shared : what.sensorType = .accelerometer) {en : Bool} (changes : en ≠ akm.mEnabled what) :
    (akm.switch what en).mAccRefCount = (akm.switch what en).users - missing := by
  have count := counts.count
  rw [users_switch akm shared changes, AkmSensor.switch]
  dsimp only
  rw [if_pos shared]
  split <;> omega

/-- A switch without a call: others use the accelerometer before and after. -/
theorem Counts.switch_shared (counts : Counts missing akm on) {what : AkmIndex} {en : Bool}
    (changes : en ≠ akm.mEnabled what) (shares : akm.shares what.sensorType en = true) :
    Counts missing (akm.switch what en) on := by
  obtain ⟨shared, used⟩ := of_decide_eq_true shares
  refine ⟨counts.switch_count shared changes, ?_⟩
  intro none_
  have count := counts.count
  have power := counts.power none_
  rw [users_switch akm shared changes]
  have before : 0 < akm.users := by split at used <;> omega
  have after : 0 < (if en = true then akm.users + 1 else akm.users - 1) := by
    cases en with
    | true =>
        rw [if_pos rfl]
        omega
    | false =>
        simp only [Bool.false_eq_true, if_false] at used ⊢
        omega
  exact iff_of_true (power.mpr before) after

/-- A switch with a call that succeeds: nobody uses the accelerometer before or after. -/
theorem Counts.switch_called (counts : Counts missing akm on) {what : AkmIndex} {en : Bool}
    (changes : en ≠ akm.mEnabled what) (calls : akm.shares what.sensorType en ≠ true) :
    Counts missing (akm.switch what en) (powerAfter on ⟨en, what.sensorType, 0⟩) := by
  by_cases shared : what.sensorType = .accelerometer
  · have powered : powerAfter on ⟨en, what.sensorType, 0⟩ = en := if_pos ⟨shared, rfl⟩
    have unused : ¬ (if en = true then (0 : ℤ) else 1) < akm.mAccRefCount := by
      intro used
      exact calls (decide_eq_true ⟨shared, used⟩)
    refine ⟨counts.switch_count shared changes, ?_⟩
    intro none_
    have count := counts.count
    have nonneg := users_nonneg akm
    rw [users_switch akm shared changes, powered]
    cases en with
    | true =>
        rw [if_pos rfl]
        exact iff_of_true rfl (by omega)
    | false =>
        simp only [Bool.false_eq_true, if_false] at unused
        rw [if_neg Bool.false_ne_true]
        exact iff_of_false Bool.false_ne_true (by omega)
  · have same : powerAfter on ⟨en, what.sensorType, 0⟩ = on := if_neg fun both => shared both.1
    rw [same]
    exact counts.switch_other shared en

/-- **`enable` keeps what the count lacks.** -/
theorem Counts.enable (counts : Counts missing akm on) (handle en library : ℤ) :
    Counts missing (akm.enable handle en library).1
      ((akm.enable handle en library).2.2.foldl powerAfter on) := by
  unfold AkmSensor.enable
  cases AkmIndex.ofHandle handle with
  | none => exact counts
  | some what =>
      dsimp only
      by_cases changes : decide (en ≠ 0) ≠ akm.mEnabled what
      · rw [if_pos changes]
        by_cases shares : akm.shares what.sensorType (decide (en ≠ 0)) = true
        · rw [if_pos shares]
          exact counts.switch_shared changes shares
        · rw [if_neg shares]
          by_cases succeeds : library = 0
          · rw [if_pos succeeds, succeeds]
            exact counts.switch_called changes shares
          · have same : powerAfter on ⟨decide (en ≠ 0), what.sensorType, library⟩ = on :=
              if_neg fun both => succeeds both.2
            rw [if_neg succeeds, List.foldl_cons, same]
            exact counts
      · rw [if_neg changes]
        exact counts

/-- What does not touch the counters. -/
theorem Counts.of_eq {other : AkmSensor} (counts : Counts missing akm on)
    (count : other.mAccRefCount = akm.mAccRefCount) (enabled : other.mEnabled = akm.mEnabled) :
    Counts missing other on := by
  have users : other.users = akm.users := by
    rw [AkmSensor.users, enabled]
    rfl
  exact ⟨by rw [count, users]; exact counts.count, by rw [users]; exact counts.power⟩

theorem Counts.processEvent (counts : Counts missing akm on) (code : ℕ) (value : ℤ) :
    Counts missing (akm.processEvent code value) on :=
  counts.of_eq (akm.processEvent_mAccRefCount code value) (akm.processEvent_mEnabled code value)

/-- The counters of a loop, with the calls that it has made. -/
def LoopCounts (missing : ℤ) (on : Bool) (loop : AkmLoop) : Prop :=
  Counts missing loop.sensor (loop.calls.foldl powerAfter on)

theorem LoopCounts.emit {loop : AkmLoop} (counts : LoopCounts missing on loop)
    (answers : SyncAnswers) (j : AkmIndex) : LoopCounts missing on (loop.emit answers j) := by
  unfold AkmLoop.emit
  split
  · dsimp only
    split
    · split
      · have noted : Counts missing { loop.sensor.setPending j fun event =>
            { event with timestamp := answers.now } with
            mPendingMask := Function.update loop.sensor.mPendingMask j false }
              (loop.calls.foldl powerAfter on) := counts.of_eq rfl rfl
        rw [LoopCounts, List.foldl_append]
        exact noted.enable idSm 0 answers.library
      · exact counts.of_eq rfl rfl
    · exact counts.of_eq rfl rfl
  · exact counts

theorem LoopCounts.emitAll {loop : AkmLoop} (counts : LoopCounts missing on loop)
    (answers : SyncAnswers) : LoopCounts missing on (loop.emitAll answers) := by
  unfold AkmLoop.emitAll
  generalize AkmIndex.all = indices
  induction indices generalizing loop with
  | nil => exact counts
  | cons j rest ih => exact ih (counts.emit answers j)

theorem LoopCounts.readWhile {loop : AkmLoop} (counts : LoopCounts missing on loop) (fuel : ℕ)
    (answers : ℕ → SyncAnswers) : LoopCounts missing on (AkmLoop.readWhile fuel answers loop) := by
  induction fuel generalizing answers loop with
  | zero => exact counts
  | succ fuel ih =>
      unfold AkmLoop.readWhile
      split
      · exact counts
      · split
        · exact counts
        · next event _ =>
            split
            · apply ih
              exact (Counts.processEvent counts event.code event.value).of_eq rfl rfl
            · split
              · apply ih
                have emitted := counts.emitAll (answers 0)
                split
                · exact Counts.of_eq emitted rfl rfl
                · exact emitted
              · apply ih
                exact Counts.of_eq counts rfl rfl

/-- **`readEvents` keeps what the count lacks.** -/
theorem Counts.readEvents (counts : Counts missing akm on) {count : ℤ} {answers : ReadAnswers}
    {reading : Reading AkmSensor SensorsEvent} {rest : List ReadResult} {calls : List LibraryCall}
    (read : akm.readEvents count answers = some (reading, rest, calls)) :
    Counts missing reading.sensors (calls.foldl powerAfter on) := by
  unfold AkmSensor.readEvents at read
  split at read
  · cases read
    exact counts
  · split at read
    · cases read
    · next mInputReader n left _ =>
        dsimp only at read
        split at read
        · cases read
          exact counts.of_eq rfl rfl
        · cases read
          have start : LoopCounts missing on
              ⟨⟨{ akm with mInputReader := mInputReader }, count, []⟩, []⟩ := counts.of_eq rfl rfl
          exact start.readWhile mInputReader.available answers.syncs

/-- **Every operation keeps what the count lacks.** -/
theorem Counts.step (counts : Counts missing akm on) (op : AkmOp) :
    Counts missing (akmDriver.step akm op).1 ((akmDriver.step akm op).2.foldl powerAfter on) := by
  cases op with
  | enable handle en library => exact counts.enable handle en library
  | readEvents count answers =>
      simp only [akmDriver]
      split
      · exact counts
      · next reading rest calls read => exact counts.readEvents read

end Operations

/-! ## Runs -/

/-- What the count lacks, it lacks for ever. -/
theorem counts_run {missing : ℤ} {akm : AkmSensor} {on : Bool} (counts : Counts missing akm on)
    (ops : List AkmOp) :
    Counts missing (akmDriver.run akm ops) ((akmDriver.outputs akm ops).foldl powerAfter on) := by
  have always : ∀ op ∈ ops, (fun _ : AkmOp => True) op := fun _ _ => trivial
  refine Machine.run_observed ?_ counts always
  intro akm on op counts _
  exact counts.step op

/-- The blocks of the constructor count nobody, and set the bit of their sensor. -/
theorem takeOver_counters (isEnabled : AkmSensorType → Bool) (absinfo : ℕ → Option ℤ)
    (j : AkmIndex) (axes : List (ℕ × (ℤ → SensorsEvent → SensorsEvent))) (akm : AkmSensor) :
    (akm.takeOver isEnabled absinfo j axes).mAccRefCount = akm.mAccRefCount ∧
      (akm.takeOver isEnabled absinfo j axes).mEnabled =
        if isEnabled j.sensorType then Function.update akm.mEnabled j true else akm.mEnabled := by
  have general : ∀ (read : AkmSensor → ℕ × (ℤ → SensorsEvent → SensorsEvent) → AkmSensor),
      (∀ akm axis, (read akm axis).mAccRefCount = akm.mAccRefCount ∧
        (read akm axis).mEnabled = akm.mEnabled) →
      ∀ start : AkmSensor, (axes.foldl read start).mAccRefCount = start.mAccRefCount ∧
        (axes.foldl read start).mEnabled = start.mEnabled := by
    intro read still
    induction axes with
    | nil =>
        intro start
        exact ⟨rfl, rfl⟩
    | cons axis rest ih =>
        intro start
        obtain ⟨count, enabled⟩ := ih (read start axis)
        rw [List.foldl_cons, count, enabled]
        exact still start axis
  unfold AkmSensor.takeOver
  by_cases enabled : isEnabled j.sensorType = true
  · rw [if_pos enabled, if_pos enabled]
    apply general
    intro akm axis
    split <;> exact ⟨rfl, rfl⟩
  · rw [if_neg enabled, if_neg enabled]
    exact ⟨rfl, rfl⟩

/-- After the constructor, the count is zero, and the only user is an accelerometer that the
library has enabled. -/
theorem new_counts (mBuffer : ℕ → InputEvent) (isEnabled : AkmSensorType → Bool)
    (absinfo : ℕ → Option ℤ) (library : ℤ) :
    Counts (if isEnabled .accelerometer then 1 else 0)
      (AkmSensor.new mBuffer isEnabled absinfo library).1 (isEnabled .accelerometer) := by
  have count : (AkmSensor.new mBuffer isEnabled absinfo library).1.mAccRefCount = 0 := by
    simp only [AkmSensor.new, (takeOver_counters _ _ _ _ _).1]
    rfl
  have accelerometer : (AkmSensor.new mBuffer isEnabled absinfo library).1.mEnabled .accelerometer =
      isEnabled .accelerometer := by
    simp only [AkmSensor.new, (takeOver_counters _ _ _ _ _).2]
    split <;> split <;> split <;> simp_all [AkmIndex.sensorType, AkmSensor.initial]
  have motion : (AkmSensor.new mBuffer isEnabled absinfo library).1.mEnabled .significantMotion =
      false := by
    simp only [AkmSensor.new, (takeOver_counters _ _ _ _ _).2]
    split <;> split <;> split <;> rfl
  have users : (AkmSensor.new mBuffer isEnabled absinfo library).1.users =
      if isEnabled .accelerometer then 1 else 0 := by
    rw [AkmSensor.users, accelerometer, motion]
    exact add_zero _
  refine ⟨?_, ?_⟩
  · rw [count, users]
    exact (sub_self _).symm
  · rw [users]
    split
    · intro wrong
      cases wrong
    · next disabled => exact fun _ => iff_of_false disabled (by decide)

/-- The accelerometer is counted and powered for those who use it: after these operations,
the count is the number of the bits, and the accelerometer is on if one of them is set. -/
def CountedAndPowered (mBuffer : ℕ → InputEvent) (isEnabled : AkmSensorType → Bool)
    (absinfo : ℕ → Option ℤ) (library : ℤ) (ops : List AkmOp) : Prop :=
  let built := AkmSensor.new mBuffer isEnabled absinfo library
  let akm := akmDriver.run built.1 ops
  let calls := built.2 ++ akmDriver.outputs built.1 ops
  akm.mAccRefCount = akm.users ∧
    (calls.foldl powerAfter (isEnabled .accelerometer) = true ↔
      akm.mEnabled .accelerometer = true ∨ akm.mEnabled .significantMotion = true)

theorem users_pos_iff (akm : AkmSensor) : 0 < akm.users ↔
    akm.mEnabled .accelerometer = true ∨ akm.mEnabled .significantMotion = true := by
  unfold AkmSensor.users
  split <;> split <;> simp_all

/-- **The accelerometer is counted and powered exactly if it was off at construction**,
whatever is done then and whatever fails. -/
theorem countedAndPowered_iff (mBuffer : ℕ → InputEvent) (isEnabled : AkmSensorType → Bool)
    (absinfo : ℕ → Option ℤ) (library : ℤ) (ops : List AkmOp) :
    CountedAndPowered mBuffer isEnabled absinfo library ops ↔ isEnabled .accelerometer = false := by
  have counts := counts_run (new_counts mBuffer isEnabled absinfo library) ops
  have calls : (AkmSensor.new mBuffer isEnabled absinfo library).2.foldl powerAfter
      (isEnabled .accelerometer) = isEnabled .accelerometer := rfl
  constructor
  · rintro ⟨counted, -⟩
    rw [← Bool.not_eq_true]
    intro enabled
    have count := counts.count
    rw [if_pos enabled] at count
    omega
  · intro disabled
    have none_ : (if isEnabled .accelerometer = true then (1 : ℤ) else 0) = 0 := by
      rw [disabled]
      rfl
    have count := counts.count
    rw [none_, sub_zero] at count
    refine ⟨count, ?_⟩
    rw [List.foldl_append, calls, counts.power none_, users_pos_iff]

/-- **An accelerometer that was on at construction is switched off while it is used**: motion
is asked for and no longer, and the count was wrong before. -/
theorem not_countedAndPowered :
    ¬ CountedAndPowered (fun _ => ⟨⟨0, 0⟩, 0, 0, 0⟩) (fun _ => true) (fun _ => none) 0
      [.enable idSm 1 0, .enable idSm 0 0] := by
  rintro ⟨-, powered⟩
  revert powered
  decide

end Msm8660.Sensors
