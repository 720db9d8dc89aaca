import Mathlib.Logic.Function.Basic
import Msm8660.Sensors.InputSensors

/-!
# The driver of the AKM library

`AkmSensor` reads four logical sensors from one input device. The library switches
the hardware; accelerometer and significant motion share theirs, so `enable` counts
its users. An event of type `EV_REL` notes a value (`processEvent`), and a sync event
reports the pending sensors, as far as there is room: it stays unread while some are
left.
-/

set_option autoImplicit false

namespace Msm8660.Sensors

/-- The logical sensors, in the order of their indices. -/
inductive AkmIndex where
  | accelerometer
  | magneticField
  | orientation
  | significantMotion
deriving DecidableEq, Repr

/-- The indices below `numSensors`. -/
def AkmIndex.all : List AkmIndex :=
  [.accelerometer, .magneticField, .orientation, .significantMotion]

theorem AkmIndex.mem_all (j : AkmIndex) : j ∈ AkmIndex.all := by
  cases j <;> decide

/-- What the `switch` of `enable` makes of a handle. -/
def AkmIndex.ofHandle (handle : ℤ) : Option AkmIndex :=
  if handle = idA then some .accelerometer
  else if handle = idM then some .magneticField
  else if handle = idO then some .orientation
  else if handle = idSm then some .significantMotion
  else none

/-- The `sensor_type` of a call of the library. -/
inductive AkmSensorType where
  | accelerometer
  | magneticField
  | orientation
  | temperature
deriving DecidableEq, Repr

def AkmIndex.sensorType : AkmIndex → AkmSensorType
  | .accelerometer => .accelerometer
  | .magneticField => .magneticField
  | .orientation => .orientation
  | .significantMotion => .accelerometer

/-- A call of `akm_enable_sensor` or `akm_disable_sensor`, with its result. -/
structure LibraryCall where
  enable : Bool
  sensorType : AkmSensorType
  err : ℤ
deriving DecidableEq, Repr

/-! ## Codes and conversions -/

def eventTypeAccelX : ℕ := 1
def eventTypeAccelY : ℕ := 0
def eventTypeAccelZ : ℕ := 2
def eventTypeYaw : ℕ := 3
def eventTypePitch : ℕ := 4
def eventTypeRoll : ℕ := 5
def eventTypeOrientStatus : ℕ := 8
def eventTypeMagvX : ℕ := 6
def eventTypeMagvY : ℕ := 7
def eventTypeMagvZ : ℕ := 9

/-- `CONVERT_A`, which is `GRAVITY_EARTH / LSB / NUMOFACCDATA`. -/
def convertA : ℚ := 980665 / 100000 / 90 / 8
def convertAX : ℚ := convertA
def convertAY : ℚ := -convertA
def convertAZ : ℚ := -convertA

/-- `CONVERT_M`. -/
def convertM : ℚ := 3 / 50
def convertMX : ℚ := convertM
def convertMY : ℚ := -convertM
def convertMZ : ℚ := -convertM

/-- `CONVERT_O`. -/
def convertO : ℚ := 1 / 64
def convertOA : ℚ := convertO
def convertOP : ℚ := convertO
def convertOR : ℚ := convertO

/-- `SENSOR_STATUS_ACCURACY_HIGH`. -/
def sensorStatusAccuracyHigh : ℕ := 3

/-- `uint8_t(value & SENSOR_STATE_MASK)`. -/
def sensorState (value : ℤ) : ℕ := (value % 32768).toNat % 256

/-- The conversion of a `float` to an `int`. -/
def truncate (q : ℚ) : ℤ := q.num.tdiv q.den

/-! ## The class -/

/-- `AkmSensor`, with its masks read bit by bit. -/
structure AkmSensor where
  mAccRefCount : ℤ
  mMotionValue : ℤ
  mEnabled : AkmIndex → Bool
  mPendingMask : AkmIndex → Bool
  mInputReader : InputEventCircularReader
  mPendingEvents : AkmIndex → SensorsEvent

namespace AkmSensor

/-- "mPendingEvents[j] = ...". -/
def setPending (akm : AkmSensor) (j : AkmIndex) (change : SensorsEvent → SensorsEvent) :
    AkmSensor :=
  { akm with
    mPendingEvents := Function.update akm.mPendingEvents j (change (akm.mPendingEvents j)) }

/-- "mPendingMask |= 1<<j", with a change of the pending event. -/
def notePending (akm : AkmSensor) (j : AkmIndex) (change : SensorsEvent → SensorsEvent) :
    AkmSensor :=
  { akm.setPending j change with mPendingMask := Function.update akm.mPendingMask j true }

/-- The members at the start of the constructor. -/
def initial (mBuffer : ℕ → InputEvent) : AkmSensor where
  mAccRefCount := 0
  mMotionValue := 0
  mEnabled _ := false
  mPendingMask _ := false
  mInputReader := .new 32 mBuffer
  mPendingEvents
    | .accelerometer => ⟨idA, 0, 0, 0, 0, sensorStatusAccuracyHigh⟩
    | .magneticField => ⟨idM, 0, 0, 0, 0, sensorStatusAccuracyHigh⟩
    | .orientation => ⟨idO, 0, 0, 0, 0, sensorStatusAccuracyHigh⟩
    | .significantMotion => ⟨idSm, 0, 0, 0, 0, 0⟩

/-- One of the blocks of the constructor: a sensor that the library has enabled takes
over the values of its axes. -/
def takeOver (isEnabled : AkmSensorType → Bool) (absinfo : ℕ → Option ℤ) (j : AkmIndex)
    (axes : List (ℕ × (ℤ → SensorsEvent → SensorsEvent))) (akm : AkmSensor) : AkmSensor :=
  if isEnabled j.sensorType then
    axes.foldl (fun akm axis => match absinfo axis.1 with
      | some value => akm.setPending j (axis.2 value)
      | none => akm) { akm with mEnabled := Function.update akm.mEnabled j true }
  else akm

/-- The constructor, with the answers of `akm_is_sensor_enabled` and of `EVIOCGABS` and
the call of the library that it makes. -/
def new (mBuffer : ℕ → InputEvent) (isEnabled : AkmSensorType → Bool) (absinfo : ℕ → Option ℤ)
    (library : ℤ) : AkmSensor × List LibraryCall :=
  let akm := (initial mBuffer).takeOver isEnabled absinfo .accelerometer
    [(eventTypeAccelX, fun value event => { event with x := value * convertAX }),
      (eventTypeAccelY, fun value event => { event with y := value * convertAY }),
      (eventTypeAccelZ, fun value event => { event with z := value * convertAZ })]
  let akm := akm.takeOver isEnabled absinfo .magneticField
    [(eventTypeMagvX, fun value event => { event with x := value * convertMX }),
      (eventTypeMagvY, fun value event => { event with y := value * convertMY }),
      (eventTypeMagvZ, fun value event => { event with z := value * convertMZ })]
  let akm := akm.takeOver isEnabled absinfo .orientation
    [(eventTypeYaw, fun value event => { event with x := value }),
      (eventTypePitch, fun value event => { event with y := value }),
      (eventTypeRoll, fun value event => { event with z := -value }),
      (eventTypeOrientStatus, fun value event => { event with status := sensorState value })]
  (akm, [⟨false, .temperature, library⟩])

/-- "Ignore if the accelerometer is already active", or still in use. -/
def shares (akm : AkmSensor) (sensorType : AkmSensorType) (en : Bool) : Bool :=
  sensorType = .accelerometer ∧ (if en then 0 else 1) < akm.mAccRefCount

/-- What `enable` changes when there is no error. -/
def switch (akm : AkmSensor) (what : AkmIndex) (en : Bool) : AkmSensor :=
  { akm with
    mAccRefCount :=
      if what.sensorType = .accelerometer then
        if en then akm.mAccRefCount + 1 else akm.mAccRefCount - 1
      else akm.mAccRefCount
    mEnabled := Function.update akm.mEnabled what en }

/-- `AkmSensor::enable`, with the result of the library, should it be called, and the
calls of it. -/
def enable (akm : AkmSensor) (handle en library : ℤ) : AkmSensor × ℤ × List LibraryCall :=
  match AkmIndex.ofHandle handle with
  | none => (akm, -einval, [])
  | some what =>
      let newState := decide (en ≠ 0)
      if newState ≠ akm.mEnabled what then
        if akm.shares what.sensorType newState then (akm.switch what newState, 0, [])
        else if library = 0 then
          (akm.switch what newState, 0, [⟨newState, what.sensorType, library⟩])
        else (akm, library, [⟨newState, what.sensorType, library⟩])
      else (akm, 0, [])

/-- The detection of significant motion, behind the acceleration that it looks at. -/
def detectMotion (akm : AkmSensor) : AkmSensor :=
  let z := (akm.mPendingEvents .accelerometer).z
  let motionValueDiff := truncate (akm.mMotionValue - z)
  let akm := { akm with mMotionValue := truncate z }
  if akm.mEnabled .significantMotion ∧ (1 < motionValueDiff ∨ motionValueDiff < -1) then
    akm.notePending .significantMotion fun event => { event with x := 1 }
  else akm

/-- `AkmSensor::processEvent`. -/
def processEvent (akm : AkmSensor) (code : ℕ) (value : ℤ) : AkmSensor :=
  if code = eventTypeAccelX then
    akm.notePending .accelerometer fun event => { event with x := value * convertAX }
  else if code = eventTypeAccelY then
    akm.notePending .accelerometer fun event => { event with y := value * convertAY }
  else if code = eventTypeAccelZ then
    (akm.notePending .accelerometer fun event =>
      { event with z := value * convertAZ }).detectMotion
  else if code = eventTypeMagvX then
    akm.notePending .magneticField fun event => { event with x := value * convertMX }
  else if code = eventTypeMagvY then
    akm.notePending .magneticField fun event => { event with y := value * convertMY }
  else if code = eventTypeMagvZ then
    akm.notePending .magneticField fun event => { event with z := value * convertMZ }
  else if code = eventTypeYaw then
    akm.notePending .orientation fun event => { event with x := value * convertOA }
  else if code = eventTypePitch then
    akm.notePending .orientation fun event => { event with y := value * convertOP }
  else if code = eventTypeRoll then
    akm.notePending .orientation fun event => { event with z := value * convertOR }
  else if code = eventTypeOrientStatus then
    let status := if sensorState value = 4 then 0 else sensorState value
    akm.notePending .orientation fun event => { event with status := status }
  else akm

/-- "mInputReader.next()". -/
def next (akm : AkmSensor) : AkmSensor := { akm with mInputReader := akm.mInputReader.next }

/-- "!mPendingMask". -/
def nothingPending (akm : AkmSensor) : Bool := AkmIndex.all.all fun j => !akm.mPendingMask j

end AkmSensor

/-! ## The loops of `readEvents` -/

/-- The variables of `readEvents`, with the calls of the library so far. -/
structure AkmLoop extends ReadLoop AkmSensor where
  calls : List LibraryCall

namespace AkmLoop

/-- The body of the `for` loop behind a sync event. -/
def emit (answers : SyncAnswers) (loop : AkmLoop) (j : AkmIndex) : AkmLoop :=
  if loop.count ≠ 0 ∧ loop.sensor.mPendingMask j = true then
    let sensor := { loop.sensor.setPending j fun event =>
        { event with timestamp := answers.now } with
      mPendingMask := Function.update loop.sensor.mPendingMask j false }
    if sensor.mEnabled j then
      let received := loop.received ++ [sensor.mPendingEvents j]
      if j = .significantMotion then
        let (sensor, _, calls) := sensor.enable idSm 0 answers.library
        ⟨⟨sensor, loop.count - 1, received⟩, loop.calls ++ calls⟩
      else ⟨⟨sensor, loop.count - 1, received⟩, loop.calls⟩
    else { loop with sensor := sensor }
  else loop

/-- The `for` loop. -/
def emitAll (answers : SyncAnswers) (loop : AkmLoop) : AkmLoop :=
  AkmIndex.all.foldl (emit answers) loop

/-- The `while` loop, with the answers to the sync events to come. A turn reads an
event or uses up the room, so the number of unread events is fuel enough. -/
def readWhile : ℕ → (ℕ → SyncAnswers) → AkmLoop → AkmLoop
  | 0, _, loop => loop
  | fuel + 1, answers, loop =>
      if loop.count = 0 then loop
      else match loop.sensor.mInputReader.readEvent with
        | none => loop
        | some event =>
            if event.type = evRel then
              readWhile fuel answers
                { loop with sensor := (loop.sensor.processEvent event.code event.value).next }
            else if event.type = evSyn then
              let loop := loop.emitAll (answers 0)
              readWhile fuel (fun k => answers (k + 1))
                (if loop.sensor.nothingPending then { loop with sensor := loop.sensor.next }
                else loop)
            else readWhile fuel answers { loop with sensor := loop.sensor.next }

end AkmLoop

/-- `AkmSensor::readEvents`, with the results of `read` that are left and the calls of
the library. -/
def AkmSensor.readEvents (akm : AkmSensor) (count : ℤ) (answers : ReadAnswers) :
    Option (Reading AkmSensor SensorsEvent × List ReadResult × List LibraryCall) :=
  if count < 1 then some (⟨akm, -einval, []⟩, answers.reads, [])
  else match akm.mInputReader.fill answers.reads with
    | none => none
    | some (mInputReader, n, reads) =>
        let akm := { akm with mInputReader := mInputReader }
        if n < 0 then some (⟨akm, n, []⟩, reads, [])
        else
          let loop := AkmLoop.readWhile mInputReader.available answers.syncs ⟨⟨akm, count, []⟩, []⟩
          some (⟨loop.sensor, loop.received.length, loop.received⟩, reads, loop.calls)

/-! ## What the operations keep -/

section Keeps

namespace AkmSensor

variable (akm : AkmSensor)

@[simp] theorem setPending_mInputReader (j : AkmIndex) (change : SensorsEvent → SensorsEvent) :
    (akm.setPending j change).mInputReader = akm.mInputReader := rfl

@[simp] theorem notePending_mInputReader (j : AkmIndex) (change : SensorsEvent → SensorsEvent) :
    (akm.notePending j change).mInputReader = akm.mInputReader := rfl

@[simp] theorem next_mInputReader : akm.next.mInputReader = akm.mInputReader.next := rfl

theorem takeOver_mInputReader (isEnabled : AkmSensorType → Bool) (absinfo : ℕ → Option ℤ)
    (j : AkmIndex) (axes : List (ℕ × (ℤ → SensorsEvent → SensorsEvent))) :
    (akm.takeOver isEnabled absinfo j axes).mInputReader = akm.mInputReader := by
  have general : ∀ start : AkmSensor, (axes.foldl (fun akm axis => match absinfo axis.1 with
      | some value => akm.setPending j (axis.2 value)
      | none => akm) start).mInputReader = start.mInputReader := by
    induction axes with
    | nil => exact fun _ => rfl
    | cons axis rest ih =>
        intro start
        rw [List.foldl_cons, ih]
        split <;> rfl
  unfold takeOver
  split
  · exact general _
  · rfl

theorem new_mInputReader (mBuffer : ℕ → InputEvent) (isEnabled : AkmSensorType → Bool)
    (absinfo : ℕ → Option ℤ) (library : ℤ) :
    (new mBuffer isEnabled absinfo library).1.mInputReader = .new 32 mBuffer := by
  simp only [new, takeOver_mInputReader]
  rfl

/-- `enable` leaves the driver as it is or switches one sensor. -/
theorem enable_cases (handle en library : ℤ) :
    (akm.enable handle en library).1 = akm ∨
      ∃ what newState, (akm.enable handle en library).1 = akm.switch what newState := by
  unfold enable
  split
  · exact Or.inl rfl
  · next what _ =>
      simp only []
      split
      · split
        · exact Or.inr ⟨what, _, rfl⟩
        · split
          · exact Or.inr ⟨what, _, rfl⟩
          · exact Or.inl rfl
      · exact Or.inl rfl

theorem enable_mInputReader (handle en library : ℤ) :
    (akm.enable handle en library).1.mInputReader = akm.mInputReader := by
  rcases akm.enable_cases handle en library with same | ⟨what, newState, same⟩
  · rw [same]
  · rw [same]
    rfl

theorem enable_mPendingMask (handle en library : ℤ) :
    (akm.enable handle en library).1.mPendingMask = akm.mPendingMask := by
  rcases akm.enable_cases handle en library with same | ⟨what, newState, same⟩
  · rw [same]
  · rw [same]
    rfl

theorem detectMotion_mInputReader : akm.detectMotion.mInputReader = akm.mInputReader := by
  unfold detectMotion
  dsimp only
  split <;> rfl

theorem detectMotion_mAccRefCount : akm.detectMotion.mAccRefCount = akm.mAccRefCount := by
  unfold detectMotion
  dsimp only
  split <;> rfl

theorem detectMotion_mEnabled : akm.detectMotion.mEnabled = akm.mEnabled := by
  unfold detectMotion
  dsimp only
  split <;> rfl

/-- A value of one sensor has been noted, perhaps with a look for motion behind it, or
nothing. The pending events keep their names. -/
def Noted (akm after : AkmSensor) : Prop :=
  after = akm ∨ ∃ j change, (∀ event, (change event).sensor = event.sensor) ∧
    (after = akm.notePending j change ∨ after = (akm.notePending j change).detectMotion)

theorem noted_notePending (j : AkmIndex) {change : SensorsEvent → SensorsEvent}
    (keeps : ∀ event, (change event).sensor = event.sensor) :
    akm.Noted (akm.notePending j change) := Or.inr ⟨j, change, keeps, Or.inl rfl⟩

theorem noted_detectMotion (j : AkmIndex) {change : SensorsEvent → SensorsEvent}
    (keeps : ∀ event, (change event).sensor = event.sensor) :
    akm.Noted (akm.notePending j change).detectMotion := Or.inr ⟨j, change, keeps, Or.inr rfl⟩

/-- What an event of type `EV_REL` does. -/
theorem noted_processEvent (code : ℕ) (value : ℤ) : akm.Noted (akm.processEvent code value) := by
  unfold processEvent
  refine iteInduction (fun _ => akm.noted_notePending _ fun _ => rfl) fun _ => ?_
  refine iteInduction (fun _ => akm.noted_notePending _ fun _ => rfl) fun _ => ?_
  refine iteInduction (fun _ => akm.noted_detectMotion _ fun _ => rfl) fun _ => ?_
  refine iteInduction (fun _ => akm.noted_notePending _ fun _ => rfl) fun _ => ?_
  refine iteInduction (fun _ => akm.noted_notePending _ fun _ => rfl) fun _ => ?_
  refine iteInduction (fun _ => akm.noted_notePending _ fun _ => rfl) fun _ => ?_
  refine iteInduction (fun _ => akm.noted_notePending _ fun _ => rfl) fun _ => ?_
  refine iteInduction (fun _ => akm.noted_notePending _ fun _ => rfl) fun _ => ?_
  refine iteInduction (fun _ => akm.noted_notePending _ fun _ => rfl) fun _ => ?_
  refine iteInduction (fun _ => akm.noted_notePending _ fun _ => rfl) fun _ => ?_
  exact Or.inl rfl

theorem processEvent_mInputReader (code : ℕ) (value : ℤ) :
    (akm.processEvent code value).mInputReader = akm.mInputReader := by
  rcases akm.noted_processEvent code value with same | ⟨j, change, -, same | same⟩
  · rw [same]
  · rw [same, notePending_mInputReader]
  · rw [same, detectMotion_mInputReader, notePending_mInputReader]

theorem processEvent_mAccRefCount (code : ℕ) (value : ℤ) :
    (akm.processEvent code value).mAccRefCount = akm.mAccRefCount := by
  rcases akm.noted_processEvent code value with same | ⟨j, change, -, same | same⟩
  · rw [same]
  · rw [same]
    rfl
  · rw [same, detectMotion_mAccRefCount]
    rfl

theorem processEvent_mEnabled (code : ℕ) (value : ℤ) :
    (akm.processEvent code value).mEnabled = akm.mEnabled := by
  rcases akm.noted_processEvent code value with same | ⟨j, change, -, same | same⟩
  · rw [same]
  · rw [same]
    rfl
  · rw [same, detectMotion_mEnabled]
    rfl

end AkmSensor

namespace AkmLoop

variable (answers : SyncAnswers) (loop : AkmLoop)

theorem emit_mInputReader (j : AkmIndex) :
    (loop.emit answers j).sensor.mInputReader = loop.sensor.mInputReader := by
  unfold emit
  split
  · simp only []
    split
    · split
      · exact AkmSensor.enable_mInputReader _ _ _ _
      · rfl
    · rfl
  · rfl

/-- Emitting uses up room for what it reports. -/
theorem emit_room (j : AkmIndex) :
    (loop.emit answers j).count + (loop.emit answers j).received.length =
        loop.count + loop.received.length ∧
      (0 ≤ loop.count → 0 ≤ (loop.emit answers j).count) := by
  unfold emit
  split
  · next asked =>
      simp only []
      split
      · split <;> simp only [List.length_append, List.length_singleton] <;> omega
      · exact ⟨rfl, id⟩
  · exact ⟨rfl, id⟩

/-- Emitting sets no bit of the mask, and it clears its own while there is room. -/
theorem emit_mask (j : AkmIndex) :
    (∀ k, (loop.emit answers j).sensor.mPendingMask k = true →
        loop.sensor.mPendingMask k = true) ∧
      ((loop.emit answers j).count ≠ 0 → (loop.emit answers j).sensor.mPendingMask j = false) := by
  unfold emit
  split
  · next asked =>
      have cleared : ∀ k, Function.update loop.sensor.mPendingMask j false k = true →
          loop.sensor.mPendingMask k = true := by
        intro k set
        by_cases same : k = j
        · rw [same, Function.update_self] at set
          cases set
        · rwa [Function.update_of_ne same] at set
      simp only []
      split
      · split
        · rw [AkmSensor.enable_mPendingMask]
          exact ⟨cleared, fun _ => Function.update_self _ _ _⟩
        · exact ⟨cleared, fun _ => Function.update_self _ _ _⟩
      · exact ⟨cleared, fun _ => Function.update_self _ _ _⟩
  · next passed =>
      refine ⟨fun _ set => set, fun space => ?_⟩
      by_contra set
      exact passed ⟨space, by simpa using set⟩

/-- Where there is room behind it, there was before. -/
theorem count_of_emit (j : AkmIndex) (space : (loop.emit answers j).count ≠ 0) :
    loop.count ≠ 0 := by
  intro full
  have same : loop.emit answers j = loop := by
    rw [emit, if_neg (fun asked => asked.1 full)]
  exact space (by rw [same, full])

/-- What a stretch of the `for` loop keeps, and that it leaves nothing pending while
there is room. -/
structure Emitted (loop : AkmLoop) (visited : List AkmIndex) (after : AkmLoop) : Prop where
  reader : after.sensor.mInputReader = loop.sensor.mInputReader
  balance : after.count + after.received.length = loop.count + loop.received.length
  room : 0 ≤ loop.count → 0 ≤ after.count
  space : after.count ≠ 0 → loop.count ≠ 0
  mask : ∀ k, after.sensor.mPendingMask k = true → loop.sensor.mPendingMask k = true
  cleared : after.count ≠ 0 → ∀ j ∈ visited, after.sensor.mPendingMask j = false

theorem emitted (visited : List AkmIndex) :
    Emitted loop visited (visited.foldl (emit answers) loop) := by
  induction visited generalizing loop with
  | nil =>
      exact ⟨rfl, rfl, id, id, fun _ set => set, fun _ _ member => absurd member List.not_mem_nil⟩
  | cons j rest ih =>
      have later := ih (loop.emit answers j)
      obtain ⟨balance, room⟩ := loop.emit_room answers j
      obtain ⟨mask, cleared⟩ := loop.emit_mask answers j
      constructor
      case reader => exact later.reader.trans (loop.emit_mInputReader answers j)
      case balance => exact later.balance.trans balance
      case room => exact later.room ∘ room
      case space => exact fun space => loop.count_of_emit answers j (later.space space)
      case mask => exact fun k set => mask k (later.mask k set)
      case cleared =>
        intro space k member
        rcases List.mem_cons.mp member with rfl | behind
        · rw [← Bool.not_eq_true]
          intro set
          have here := cleared (later.space space)
          rw [later.mask k set] at here
          cases here
        · exact later.cleared space k behind

theorem nothingPending_emitAll (space : (loop.emitAll answers).count ≠ 0) :
    (loop.emitAll answers).sensor.nothingPending = true := by
  rw [AkmSensor.nothingPending, List.all_eq_true]
  intro j member
  have cleared := (loop.emitted answers AkmIndex.all).cleared space j member
  exact congrArg (!·) cleared

/-- What has been reported is what room has been used up for. -/
structure Balanced (loop after : AkmLoop) : Prop where
  balance : after.count + after.received.length = loop.count + loop.received.length
  room : 0 ≤ loop.count → 0 ≤ after.count

theorem Balanced.trans {loop middle after : AkmLoop} (first : Balanced loop middle)
    (second : Balanced middle after) : Balanced loop after :=
  ⟨second.balance.trans first.balance, second.room ∘ first.room⟩

theorem balanced_readWhile (fuel : ℕ) (answers : ℕ → SyncAnswers) (loop : AkmLoop) :
    Balanced loop (readWhile fuel answers loop) := by
  induction fuel generalizing answers loop with
  | zero => exact ⟨rfl, id⟩
  | succ fuel ih =>
      have moved : ∀ sensor : AkmSensor, Balanced loop { loop with sensor := sensor } :=
        fun _ => ⟨rfl, id⟩
      unfold readWhile
      split
      · exact ⟨rfl, id⟩
      · split
        · exact ⟨rfl, id⟩
        · split
          · exact (moved _).trans (ih _ _)
          · split
            · have emitted := loop.emitted (answers 0) AkmIndex.all
              have reported : Balanced loop (loop.emitAll (answers 0)) :=
                ⟨emitted.balance, emitted.room⟩
              dsimp only
              split
              · have moved : Balanced (loop.emitAll (answers 0)) { loop.emitAll (answers 0) with
                    sensor := (loop.emitAll (answers 0)).sensor.next } := ⟨rfl, id⟩
                exact (reported.trans moved).trans (ih _ _)
              · exact reported.trans (ih _ _)
            · exact (moved _).trans (ih _ _)

/-- The `while` loop ends when the room is used up or nothing is unread. -/
theorem readWhile_ends {fuel : ℕ} (answers : ℕ → SyncAnswers) (loop : AkmLoop)
    (order : loop.sensor.mInputReader.InOrder)
    (enough : loop.count = 0 ∨ loop.sensor.mInputReader.available ≤ fuel) :
    (readWhile fuel answers loop).sensor.mInputReader.InOrder ∧
      ((readWhile fuel answers loop).count = 0 ∨
        (readWhile fuel answers loop).sensor.mInputReader.content = []) := by
  induction fuel generalizing answers loop with
  | zero =>
      refine ⟨order, enough.imp_right fun empty => ?_⟩
      rw [readWhile, ← List.length_eq_zero_iff, InputEventCircularReader.length_content]
      omega
  | succ fuel ih =>
      unfold readWhile
      split
      · next full => exact ⟨order, Or.inl full⟩
      · next space =>
          have enough := enough.resolve_left space
          split
          · next empty =>
              exact ⟨order, Or.inr
                ((InputEventCircularReader.readEvent_eq_none_iff order).mp empty)⟩
          · next event shown =>
              obtain ⟨content, order'⟩ := InputEventCircularReader.content_eq_cons order shown
              have fewer : loop.sensor.mInputReader.next.available ≤ fuel := by
                have length := congrArg List.length content
                simp only [List.length_cons, InputEventCircularReader.length_content] at length
                omega
              split
              · have reader : (loop.sensor.processEvent event.code event.value).next.mInputReader =
                    loop.sensor.mInputReader.next := by
                  rw [AkmSensor.next_mInputReader, AkmSensor.processEvent_mInputReader]
                exact ih _ _ (by rwa [reader]) (Or.inr (by rwa [reader]))
              · split
                · have emitted := loop.emitted (answers 0) AkmIndex.all
                  have reader : (loop.emitAll (answers 0)).sensor.mInputReader =
                      loop.sensor.mInputReader := emitted.reader
                  dsimp only
                  split
                  · have next : (loop.emitAll (answers 0)).sensor.next.mInputReader =
                        loop.sensor.mInputReader.next := by
                      rw [AkmSensor.next_mInputReader, reader]
                    exact ih _ _ (by rwa [next]) (Or.inr (by rwa [next]))
                  · next left =>
                      have full : (loop.emitAll (answers 0)).count = 0 := by
                        by_contra space
                        exact left (loop.nothingPending_emitAll (answers 0) space)
                      exact ih _ _ (by rwa [reader]) (Or.inl full)
                · exact ih _ _ order' (Or.inr fewer)

end AkmLoop

end Keeps

section ReadEvents

variable {akm : AkmSensor} {count : ℤ} {answers : ReadAnswers}
  {reading : Reading AkmSensor SensorsEvent} {rest : List ReadResult} {calls : List LibraryCall}

theorem AkmSensor.readEvents_fitsRoom (room : 1 ≤ count)
    (read : akm.readEvents count answers = some (reading, rest, calls)) :
    FitsRoom count reading.nb reading.stored := by
  unfold AkmSensor.readEvents at read
  rw [if_neg (by omega)] at read
  split at read
  · cases read
  · next mInputReader n left filled =>
      dsimp only at read
      split at read
      · next negative =>
          cases read
          exact Or.inr ⟨negative, rfl⟩
      · cases read
        have balanced := AkmLoop.balanced_readWhile mInputReader.available answers.syncs
          ⟨⟨{ akm with mInputReader := mInputReader }, count, []⟩, []⟩
        have space := balanced.room (by dsimp only; omega)
        have balance := balanced.balance
        dsimp only [List.length_nil] at balance space ⊢
        exact Or.inl ⟨by omega, by omega, by omega⟩

/-- **A call of `readEvents`** fails, or it returns fewer events than it was given room
for only when nothing is unread. -/
theorem AkmSensor.readEvents_cases (order : akm.mInputReader.InOrder) (room : 1 ≤ count)
    (read : akm.readEvents count answers = some (reading, rest, calls)) :
    reading.sensors.mInputReader.InOrder ∧
      ((reading.nb < 0 ∧ ∃ result ∈ answers.reads, result.succeeds = false) ∨
        reading.nb = count ∨ reading.sensors.mInputReader.content = []) := by
  unfold AkmSensor.readEvents at read
  rw [if_neg (by omega)] at read
  split at read
  · cases read
  · next mInputReader n left filled =>
      obtain ⟨order', -⟩ := InputEventCircularReader.content_fill order filled
      dsimp only at read
      split at read
      · next negative =>
          cases read
          exact ⟨order', Or.inl ⟨negative, InputEventCircularReader.fill_fails filled negative⟩⟩
      · cases read
        have balance := (AkmLoop.balanced_readWhile mInputReader.available answers.syncs
          ⟨⟨{ akm with mInputReader := mInputReader }, count, []⟩, []⟩).balance
        obtain ⟨order'', ends⟩ := AkmLoop.readWhile_ends answers.syncs
          ⟨⟨{ akm with mInputReader := mInputReader }, count, []⟩, []⟩ order'
          (Or.inr (Nat.le_refl _))
        dsimp only [List.length_nil] at balance ends ⊢
        refine ⟨order'', Or.inr (ends.imp_left fun full => ?_)⟩
        omega

end ReadEvents

end Msm8660.Sensors
