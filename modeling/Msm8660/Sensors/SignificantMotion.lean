import Msm8660.Sensors.AccelerometerUse

/-!
# Significant motion is reported once

`readEvents` disables significant motion when it has reported it, and ignores whether that
succeeds. Where it does, every report uses up an `enable`: the events reported and the bit of
`mEnabled` add up to the bit at the start of the call (`AkmLoop.Spends`), and between two
reports the framework has enabled the sensor again (`oneShot_run`). Where
`akm_disable_sensor` fails, the sensor stays enabled and motion is reported again
(`not_oneShot`).
-/

set_option autoImplicit false

namespace Msm8660.Sensors

/-- The handle of a sensor. -/
def AkmIndex.handle : AkmIndex → ℤ
  | .accelerometer => idA
  | .magneticField => idM
  | .orientation => idO
  | .significantMotion => idSm

/-- What the framework sees of significant motion: an event, and a call of `enable` that
switches it on. -/
inductive MotionSign where
  | reported
  | enabled
deriving DecidableEq, Repr

/-- The number of events of significant motion. -/
def motions (events : List SensorsEvent) : ℕ := events.countP (·.sensor = idSm)

/-- What the framework sees of an operation. -/
def AkmSensor.motionSigns (akm : AkmSensor) : AkmOp → List MotionSign
  | .enable handle en library =>
      if handle = idSm ∧ en ≠ 0 ∧ akm.mEnabled .significantMotion = false ∧
          (akm.enable handle en library).1.mEnabled .significantMotion = true then [.enabled]
      else []
  | .readEvents count answers => match akm.readEvents count answers with
      | none => []
      | some (reading, _, _) => List.replicate (motions reading.stored) .reported

/-- The driver, with what the framework sees of significant motion. -/
def motionDriver : Machine AkmSensor AkmOp MotionSign where
  step akm op := ((akmDriver.step akm op).1, akm.motionSigns op)

/-- Every call of `akm_disable_sensor` that `readEvents` makes succeeds. -/
def AkmOp.disableSucceeds (akm : AkmSensor) : AkmOp → Bool
  | .enable _ _ _ => true
  | .readEvents count answers =>
      (akmDriver.step akm (.readEvents count answers)).2.all (·.err = 0)

/-- Between any two reports, the sensor is switched on. -/
def OneShot (signs : List MotionSign) : Prop :=
  ∀ earlier between later, signs = earlier ++ .reported :: (between ++ .reported :: later) →
    .enabled ∈ between

/-! ## The names of the events -/

/-- Every pending event names its sensor. -/
def AkmSensor.Named (akm : AkmSensor) : Prop := ∀ j, (akm.mPendingEvents j).sensor = j.handle

section Named

variable {akm : AkmSensor}

theorem AkmSensor.Named.setPending (named : akm.Named) (j : AkmIndex)
    {change : SensorsEvent → SensorsEvent} (keeps : ∀ event, (change event).sensor = event.sensor) :
    (akm.setPending j change).Named := by
  intro k
  rw [AkmSensor.setPending]
  dsimp only
  by_cases same : k = j
  · rw [same, Function.update_self, keeps]
    exact named j
  · rw [Function.update_of_ne same]
    exact named k

theorem AkmSensor.Named.enable (named : akm.Named) (handle en library : ℤ) :
    (akm.enable handle en library).1.Named := by
  rcases akm.enable_cases handle en library with same | ⟨what, newState, same⟩
  · rw [same]
    exact named
  · rw [same]
    exact named

theorem AkmSensor.Named.notePending (named : akm.Named) (j : AkmIndex)
    {change : SensorsEvent → SensorsEvent} (keeps : ∀ event, (change event).sensor = event.sensor) :
    (akm.notePending j change).Named := named.setPending j keeps

theorem AkmSensor.Named.detectMotion (named : akm.Named) : akm.detectMotion.Named := by
  unfold AkmSensor.detectMotion
  dsimp only
  have moved : ∀ motion, AkmSensor.Named { akm with mMotionValue := motion } := fun _ => named
  split
  · exact (moved _).notePending .significantMotion fun _ => rfl
  · exact moved _

theorem AkmSensor.Named.processEvent (named : akm.Named) (code : ℕ) (value : ℤ) :
    (akm.processEvent code value).Named := by
  rcases akm.noted_processEvent code value with same | ⟨j, change, keeps, same | same⟩
  · rwa [same]
  · rw [same]
    exact named.notePending j keeps
  · rw [same]
    exact (named.notePending j keeps).detectMotion

theorem AkmSensor.Named.takeOver (named : akm.Named) (isEnabled : AkmSensorType → Bool)
    (absinfo : ℕ → Option ℤ) (j : AkmIndex)
    {axes : List (ℕ × (ℤ → SensorsEvent → SensorsEvent))}
    (keeps : ∀ axis ∈ axes, ∀ value event, (axis.2 value event).sensor = event.sensor) :
    (akm.takeOver isEnabled absinfo j axes).Named := by
  unfold AkmSensor.takeOver
  split
  · have start : AkmSensor.Named { akm with mEnabled := Function.update akm.mEnabled j true } :=
      named
    revert start
    generalize { akm with mEnabled := Function.update akm.mEnabled j true } = akm
    induction axes generalizing akm with
    | nil => exact id
    | cons axis rest ih =>
        intro named
        obtain ⟨here, later⟩ := List.forall_mem_cons.mp keeps
        rw [List.foldl_cons]
        apply ih later
        split
        · next value _ => exact named.setPending j (here value)
        · exact named
  · exact named

theorem AkmSensor.named_new (mBuffer : ℕ → InputEvent) (isEnabled : AkmSensorType → Bool)
    (absinfo : ℕ → Option ℤ) (library : ℤ) : (new mBuffer isEnabled absinfo library).1.Named := by
  have start : (initial mBuffer).Named := by
    intro j
    cases j <;> rfl
  refine AkmSensor.Named.takeOver (AkmSensor.Named.takeOver (AkmSensor.Named.takeOver start _ _ _
    ?_) _ _ _ ?_) _ _ _ ?_ <;> simp

end Named

/-! ## One call -/

/-- The bit of significant motion. -/
def AkmSensor.motionBit (akm : AkmSensor) : ℕ := (akm.mEnabled .significantMotion).toNat

/-- As long as no call of the library has failed, the reports of a loop have been paid for by
the bit that was set at its start. -/
structure AkmLoop.Spends (bit : ℕ) (loop : AkmLoop) : Prop where
  named : loop.sensor.Named
  balance : (∀ call ∈ loop.calls, call.err = 0) →
    motions loop.received + loop.sensor.motionBit = bit

section Call

variable {akm : AkmSensor} {bit : ℕ} {loop : AkmLoop}

/-- The automatic disable clears the bit, or a call of the library fails. -/
theorem AkmSensor.enable_motion_off (on : akm.mEnabled .significantMotion = true) (library : ℤ) :
    (akm.enable idSm 0 library).1.motionBit = 0 ∨
      ∃ call ∈ (akm.enable idSm 0 library).2.2, call.err ≠ 0 := by
  have what : AkmIndex.ofHandle idSm = some .significantMotion := rfl
  have off : (akm.switch .significantMotion false).motionBit = 0 := by
    simp [motionBit, switch]
  rw [enable, what]
  dsimp only
  rw [if_pos (by rw [on]; decide)]
  split
  · exact Or.inl off
  · split
    · exact Or.inl off
    · next fails => exact Or.inr ⟨_, List.mem_singleton_self _, fails⟩

theorem motions_append (earlier later : List SensorsEvent) :
    motions (earlier ++ later) = motions earlier + motions later := List.countP_append

/-- What touches neither the bit nor the names. -/
theorem AkmLoop.Spends.of_eq (spends : loop.Spends bit) {sensor : AkmSensor}
    (named : sensor.Named) (enabled : sensor.mEnabled = loop.sensor.mEnabled) :
    AkmLoop.Spends bit { loop with sensor := sensor } := by
  refine ⟨named, fun succeed => ?_⟩
  have balance := spends.balance succeed
  rw [AkmSensor.motionBit] at balance ⊢
  rw [enabled]
  exact balance

theorem AkmLoop.Spends.emit (spends : loop.Spends bit) (answers : SyncAnswers) (j : AkmIndex) :
    (loop.emit answers j).Spends bit := by
  unfold AkmLoop.emit
  split
  · generalize noted : ({ loop.sensor.setPending j fun event =>
        { event with timestamp := answers.now } with
      mPendingMask := Function.update loop.sensor.mPendingMask j false } : AkmSensor) = sensor
    have named : sensor.Named := by
      rw [← noted]
      have marked : (loop.sensor.setPending j fun event =>
          { event with timestamp := answers.now }).Named := spends.named.setPending j fun _ => rfl
      exact marked
    have enabled : sensor.mEnabled = loop.sensor.mEnabled := by
      rw [← noted]
      rfl
    have name : (sensor.mPendingEvents j).sensor = j.handle := named j
    dsimp only
    split
    · next on =>
        split
        · next motion =>
            rw [motion] at on name ⊢
            refine ⟨named.enable _ _ _, fun succeed => ?_⟩
            obtain ⟨before, now⟩ := List.forall_mem_append.mp succeed
            have balance := spends.balance before
            rw [AkmSensor.motionBit, ← enabled, on] at balance
            rcases AkmSensor.enable_motion_off on answers.library with off | ⟨call, made, fails⟩
            · dsimp only
              rw [motions_append, off]
              have one : motions [sensor.mPendingEvents .significantMotion] = 1 := by
                rw [motions, List.countP_singleton, name]
                rfl
              rw [one]
              exact balance
            · exact absurd (now call made) fails
        · next other =>
            refine ⟨named, fun succeed => ?_⟩
            have balance := spends.balance succeed
            have zero : motions [sensor.mPendingEvents j] = 0 := by
              rw [motions, List.countP_singleton, name]
              cases j with
              | significantMotion => exact absurd rfl other
              | accelerometer => rfl
              | magneticField => rfl
              | orientation => rfl
            dsimp only
            rw [motions_append, zero, AkmSensor.motionBit, enabled]
            exact balance
    · exact spends.of_eq named enabled
  · exact spends

theorem AkmLoop.Spends.emitAll (spends : loop.Spends bit) (answers : SyncAnswers) :
    (loop.emitAll answers).Spends bit := by
  unfold AkmLoop.emitAll
  generalize AkmIndex.all = indices
  induction indices generalizing loop with
  | nil => exact spends
  | cons j rest ih => exact ih (spends.emit answers j)

theorem AkmLoop.Spends.readWhile (spends : loop.Spends bit) (fuel : ℕ)
    (answers : ℕ → SyncAnswers) : (AkmLoop.readWhile fuel answers loop).Spends bit := by
  induction fuel generalizing answers loop with
  | zero => exact spends
  | succ fuel ih =>
      unfold AkmLoop.readWhile
      split
      · exact spends
      · split
        · exact spends
        · next event _ =>
            split
            · apply ih
              have processed := spends.named.processEvent event.code event.value
              exact spends.of_eq processed
                (AkmSensor.processEvent_mEnabled _ event.code event.value)
            · split
              · apply ih
                have emitted := spends.emitAll (answers 0)
                split
                · exact emitted.of_eq emitted.named rfl
                · exact emitted
              · apply ih
                exact spends.of_eq spends.named rfl

/-- **What a call of `readEvents` reports is paid for by the bit**, unless a call of the
library fails. -/
theorem AkmSensor.readEvents_spends (named : akm.Named) {count : ℤ} {answers : ReadAnswers}
    {reading : Reading AkmSensor SensorsEvent} {rest : List ReadResult} {calls : List LibraryCall}
    (read : akm.readEvents count answers = some (reading, rest, calls)) :
    reading.sensors.Named ∧ ((∀ call ∈ calls, call.err = 0) →
      motions reading.stored + reading.sensors.motionBit = akm.motionBit) := by
  unfold AkmSensor.readEvents at read
  split at read
  · cases read
    exact ⟨named, fun _ => Nat.zero_add _⟩
  · split at read
    · cases read
    · next mInputReader n left _ =>
        dsimp only at read
        split at read
        · cases read
          exact ⟨named, fun _ => Nat.zero_add _⟩
        · cases read
          have start : AkmLoop.Spends akm.motionBit
              ⟨⟨{ akm with mInputReader := mInputReader }, count, []⟩, []⟩ :=
            ⟨named, fun _ => Nat.zero_add _⟩
          have spent := start.readWhile mInputReader.available answers.syncs
          exact ⟨spent.named, spent.balance⟩

/-- `enable` sets the bit only where the framework asks for significant motion. -/
theorem AkmSensor.enable_motion_on {handle en library : ℤ}
    (off : akm.mEnabled .significantMotion = false)
    (on : (akm.enable handle en library).1.mEnabled .significantMotion = true) :
    handle = idSm ∧ en ≠ 0 := by
  have switched : ∀ what newState,
      (akm.switch what newState).mEnabled .significantMotion = true →
        what = .significantMotion ∧ newState = true := by
    intro what newState set
    simp only [switch] at set
    by_cases motion : what = .significantMotion
    · rw [motion, Function.update_self] at set
      exact ⟨motion, set⟩
    · rw [Function.update_of_ne (Ne.symm motion), off] at set
      cases set
  have asked : AkmIndex.ofHandle handle = some .significantMotion ∧ decide (en ≠ 0) = true := by
    unfold enable at on
    split at on
    · rw [off] at on
      cases on
    · next what known =>
        dsimp only at on
        split at on
        · split at on
          · obtain ⟨rfl, set⟩ := switched _ _ on
            exact ⟨known, set⟩
          · split at on
            · obtain ⟨rfl, set⟩ := switched _ _ on
              exact ⟨known, set⟩
            · rw [off] at on
              cases on
        · rw [off] at on
          cases on
  refine ⟨?_, of_decide_eq_true asked.2⟩
  have known := asked.1
  unfold AkmIndex.ofHandle at known
  split at known
  · cases known
  · split at known
    · cases known
    · split at known
      · cases known
      · split at known
        · next motion => exact motion
        · cases known

end Call

/-! ## Runs -/

/-- Whether a report came after the last time that the sensor was switched on. -/
def MotionSign.observe (_ : Bool) : MotionSign → Bool
  | .reported => true
  | .enabled => false

/-- After a report, the bit is clear. -/
structure Spent (akm : AkmSensor) (spent : Bool) : Prop where
  named : akm.Named
  clear : spent = true → akm.motionBit = 0

section Runs

variable {akm : AkmSensor} {spent : Bool}

/-- **A spared operation reports motion only after the sensor has been switched on**, and then
it is off. -/
theorem Spent.step (state : Spent akm spent) (op : AkmOp)
    (succeeds : op.disableSucceeds akm = true) :
    Spent (motionDriver.step akm op).1
        ((motionDriver.step akm op).2.foldl MotionSign.observe spent) ∧
      Machine.OutputsSatisfy MotionSign.observe (fun spent sign => sign = .reported → spent = false)
        spent (motionDriver.step akm op).2 := by
  cases op with
  | enable handle en library =>
      simp only [motionDriver, akmDriver, AkmSensor.motionSigns]
      have named := state.named.enable handle en library
      split
      · have other : MotionSign.enabled ≠ .reported := by decide
        exact ⟨⟨named, fun was => absurd was Bool.false_ne_true⟩,
          fun reported => absurd reported other, trivial⟩
      · next unchanged =>
          refine ⟨⟨named, fun was => ?_⟩, trivial⟩
          have clear := state.clear was
          cases off : akm.mEnabled .significantMotion with
          | true =>
              rw [AkmSensor.motionBit, off] at clear
              cases clear
          | false =>
              cases on : (akm.enable handle en library).1.mEnabled .significantMotion with
              | false => rw [AkmSensor.motionBit, on]; rfl
              | true =>
                  obtain ⟨motion, switched⟩ := AkmSensor.enable_motion_on off on
                  exact absurd ⟨motion, switched, off, on⟩ unchanged
  | readEvents count answers =>
      simp only [AkmOp.disableSucceeds, akmDriver] at succeeds
      simp only [motionDriver, akmDriver, AkmSensor.motionSigns]
      cases read : akm.readEvents count answers with
      | none => exact ⟨state, trivial⟩
      | some result =>
          obtain ⟨reading, rest, calls⟩ := result
          rw [read] at succeeds
          obtain ⟨named, spends⟩ := akm.readEvents_spends state.named read
          have balance := spends (by simpa using succeeds)
          have bit : akm.motionBit ≤ 1 := Bool.toNat_le _
          dsimp only
          obtain none_ | one : motions reading.stored = 0 ∨ motions reading.stored = 1 := by omega
          · rw [none_]
            exact ⟨⟨named, fun was => by have clear := state.clear was; omega⟩, trivial⟩
          · rw [one]
            have fresh : spent = false := by
              cases was : spent with
              | false => rfl
              | true =>
                  have clear := state.clear was
                  omega
            exact ⟨⟨named, fun _ => by omega⟩, fun _ => fresh, trivial⟩

/-- A sensor that has been switched on since, has been so in between. -/
theorem enabled_of_observe {signs : List MotionSign}
    (fresh : signs.foldl MotionSign.observe true = false) : .enabled ∈ signs := by
  by_contra never
  have still : ∀ spent : Bool, spent = true → signs.foldl MotionSign.observe spent = true := by
    clear fresh
    induction signs with
    | nil => exact fun _ => id
    | cons sign rest ih =>
        rw [List.mem_cons, not_or] at never
        intro _ _
        rw [List.foldl_cons]
        cases sign with
        | reported => exact ih never.2 _ rfl
        | enabled => exact absurd rfl never.1
  rw [still true rfl] at fresh
  cases fresh

/-- **Significant motion is one-shot**: in every run of the driver in which the automatic
disable succeeds, the sensor is switched on between any two of its events. -/
theorem oneShot_run (mBuffer : ℕ → InputEvent) (isEnabled : AkmSensorType → Bool)
    (absinfo : ℕ → Option ℤ) (library : ℤ) (ops : List AkmOp)
    (succeeds : ∀ taken ∈ motionDriver.steps
        (AkmSensor.new mBuffer isEnabled absinfo library).1 ops,
      taken.input.disableSucceeds taken.before = true) :
    OneShot (motionDriver.outputs (AkmSensor.new mBuffer isEnabled absinfo library).1 ops) := by
  intro earlier between later split
  have start : Spent (AkmSensor.new mBuffer isEnabled absinfo library).1 false :=
    ⟨AkmSensor.named_new mBuffer isEnabled absinfo library, nofun⟩
  have satisfied := Machine.run_outputsSatisfy_spared
    (fun _ _ op state spared => (Spent.step state op spared).1)
    (fun _ _ op state spared => (Spent.step state op spared).2) start succeeds
  rw [split, ← List.cons_append, ← List.append_assoc] at satisfied
  have fresh := satisfied.at_split rfl
  rw [List.foldl_append, List.foldl_cons] at fresh
  exact enabled_of_observe fresh

end Runs

section Fixed

/-- A read of one value of the axis z, and a sync event. -/
def motionRead (value library : ℤ) : AkmOp :=
  .readEvents 8 ⟨[.events [⟨⟨0, 0⟩, evRel, eventTypeAccelZ, value⟩, ⟨⟨0, 0⟩, evSyn, 0, 0⟩]], 0,
    fun _ => ⟨0, library⟩⟩

/-- Motion is reported and reported again when the framework has switched it on again. -/
theorem oneShot_run_twice : OneShot (motionDriver.outputs
    (AkmSensor.new (fun _ => ⟨⟨0, 0⟩, 0, 0, 0⟩) (fun _ => false) (fun _ => none) 0).1
    [.enable idSm 1 0, motionRead 1000 0, .enable idSm 1 0, motionRead 0 0]) :=
  oneShot_run (fun _ => ⟨⟨0, 0⟩, 0, 0, 0⟩) (fun _ => false) (fun _ => none) 0
    [.enable idSm 1 0, motionRead 1000 0, .enable idSm 1 0, motionRead 0 0] (by decide +kernel)

/-- **Where the automatic disable fails, motion is reported twice** after one `enable`. -/
theorem not_oneShot : ¬ OneShot (motionDriver.outputs
    (AkmSensor.new (fun _ => ⟨⟨0, 0⟩, 0, 0, 0⟩) (fun _ => false) (fun _ => none) 0).1
    [.enable idSm 1 0, motionRead 1000 (-5), motionRead 0 (-5)]) := by
  intro once
  have signs : motionDriver.outputs
      (AkmSensor.new (fun _ => ⟨⟨0, 0⟩, 0, 0, 0⟩) (fun _ => false) (fun _ => none) 0).1
      [.enable idSm 1 0, motionRead 1000 (-5), motionRead 0 (-5)] =
        [.enabled, .reported, .reported] := by decide +kernel
  have between := once [.enabled] [] [] signs
  exact absurd between List.not_mem_nil

end Fixed

end Msm8660.Sensors
