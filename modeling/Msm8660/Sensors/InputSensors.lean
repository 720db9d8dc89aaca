import Mathlib.Data.Rat.Init
import Msm8660.Sensors.InputEventReader
import Msm8660.Sensors.PollAccount

/-!
# The light, proximity and gyroscope drivers

`LightSensor`, `ProximitySensor` and `GyroSensor` read one input device each. They
share their loop: an axis event changes the pending event, a sync event reports it.
Proximity and gyroscope hold back a pending event after `enable`, and the gyroscope
reads again while it has nothing to report and skips events that come too early,
which use up room all the same. `Handles` says what a stretch of the loop has done,
and `InputSensor.readEvents_cases` what a call of `readEvents` has.
-/

set_option autoImplicit false

namespace Msm8660.Sensors

/-- `sensors_event_t`, less its version and type. The first three numbers of `data`
are exact; `light` and `distance` are the first of them. -/
structure SensorsEvent where
  sensor : ℤ
  timestamp : ℤ
  x : ℚ
  y : ℚ
  z : ℚ
  status : ℕ
deriving DecidableEq, Repr

/-! ## Handles, types and codes -/

def idA : ℤ := 0
def idM : ℤ := 1
def idO : ℤ := 2
def idL : ℤ := 3
def idP : ℤ := 4
def idGy : ℤ := 5
def idSm : ℤ := 6

/-- `EV_SYN`. -/
def evSyn : ℕ := 0
/-- `EV_REL`. -/
def evRel : ℕ := 2
/-- `EV_ABS`. -/
def evAbs : ℕ := 3

/-- `EVENT_TYPE_PROXIMITY`, which is `ABS_DISTANCE`. -/
def eventTypeProximity : ℕ := 25
/-- `EVENT_TYPE_LIGHT`, which is `ABS_MISC`. -/
def eventTypeLight : ℕ := 40
/-- `EVENT_TYPE_GYRO_X`, which is `REL_RY`. -/
def eventTypeGyroX : ℕ := 4
/-- `EVENT_TYPE_GYRO_Y`, which is `REL_RX`. -/
def eventTypeGyroY : ℕ := 3
/-- `EVENT_TYPE_GYRO_Z`, which is `REL_RZ`. -/
def eventTypeGyroZ : ℕ := 5

/-- `timevalToNano`. -/
def timevalToNano (t : Timeval) : ℤ := t.tvSec * 1000000000 + t.tvUsec * 1000

/-- The value of an event as a `size_t` of 32 bits. -/
def sizeT (value : ℤ) : ℕ := (value % 4294967296).toNat

/-! ## What the system answers -/

/-- The answers to a call of `enable`. -/
structure EnableAnswers where
  /-- the file "enable" can be opened -/
  opened : Bool
  /-- `getTimestamp()` -/
  now : ℤ
  /-- the value of an axis, where `ioctl` with `EVIOCGABS` succeeds -/
  absinfo : ℕ → Option ℤ
  /-- what `akm_enable_sensor` or `akm_disable_sensor` returns -/
  library : ℤ

/-- The answers to the handling of one sync event by `AkmSensor`. -/
structure SyncAnswers where
  /-- `getTimestamp()` -/
  now : ℤ
  /-- what `akm_disable_sensor` returns -/
  library : ℤ

/-- The answers to a call of `readEvents`. -/
structure ReadAnswers where
  /-- what `read` does, call after call -/
  reads : List ReadResult
  /-- `getTimestamp()` -/
  now : ℤ
  syncs : ℕ → SyncAnswers

/-! ## The common part -/

/-- What the three classes have in common. -/
structure InputSensor where
  mEnabled : Bool
  mInputReader : InputEventCircularReader
  mHasPendingEvent : Bool
  mPendingEvent : SensorsEvent

/-- The members before the constructor calls `enable`. -/
def InputSensor.initial (sensor : ℤ) (mBuffer : ℕ → InputEvent) : InputSensor where
  mEnabled := false
  mInputReader := .new 4 mBuffer
  mHasPendingEvent := false
  mPendingEvent := ⟨sensor, 0, 0, 0, 0, 0⟩

/-- `enable`, with what it does behind "mEnabled = flags". -/
def InputSensor.enable (setInitialState : InputSensor → InputSensor) (sensor : InputSensor)
    (en : ℤ) (answers : EnableAnswers) : InputSensor × ℤ :=
  let flags := decide (en ≠ 0)
  if flags ≠ sensor.mEnabled then
    if answers.opened then (setInitialState { sensor with mEnabled := flags }, 0)
    else (sensor, -1)
  else (sensor, 0)

/-- The variables of `readEvents`. `numEventReceived` is the number of events
received. -/
structure ReadLoop (σ : Type*) where
  sensor : σ
  count : ℤ
  received : List SensorsEvent

/-- The body of the `while` loop. `update` is what an axis event does to the pending
event, and `reports` whether a sync event of that time is reported. -/
def ReadLoop.handle (update : SensorsEvent → InputEvent → SensorsEvent) (reports : ℤ → Bool)
    (loop : ReadLoop InputSensor) (event : InputEvent) : ReadLoop InputSensor :=
  let sensor := { loop.sensor with mInputReader := loop.sensor.mInputReader.next }
  if event.type = evSyn then
    let mPendingEvent := { sensor.mPendingEvent with timestamp := timevalToNano event.time }
    let sensor := { sensor with mPendingEvent := mPendingEvent }
    if sensor.mEnabled then
      ⟨sensor, loop.count - 1,
        if reports mPendingEvent.timestamp then loop.received ++ [mPendingEvent]
        else loop.received⟩
    else { loop with sensor := sensor }
  else { loop with
    sensor := { sensor with mPendingEvent := update sensor.mPendingEvent event } }

/-- The `while` loop. Every turn reads one event, so the number of unread events is
fuel enough. -/
def ReadLoop.readWhile (update : SensorsEvent → InputEvent → SensorsEvent)
    (reports : ℤ → Bool) : ℕ → ReadLoop InputSensor → ReadLoop InputSensor
  | 0, loop => loop
  | fuel + 1, loop =>
      if loop.count = 0 then loop
      else match loop.sensor.mInputReader.readEvent with
        | none => loop
        | some event => readWhile update reports fuel (loop.handle update reports event)

/-- The `while` loop with its fuel. -/
def ReadLoop.receive (update : SensorsEvent → InputEvent → SensorsEvent) (reports : ℤ → Bool)
    (loop : ReadLoop InputSensor) : ReadLoop InputSensor :=
  loop.readWhile update reports loop.sensor.mInputReader.available

/-- `readEvents`, with what it does behind the first `fill`. Beside the reading it
gives the results of `read` that are left. -/
def InputSensor.readEvents
    (receive : ReadLoop InputSensor → List ReadResult →
      Option (ReadLoop InputSensor × List ReadResult))
    (sensor : InputSensor) (count : ℤ) (answers : ReadAnswers) :
    Option (Reading InputSensor SensorsEvent × List ReadResult) :=
  if count < 1 then some (⟨sensor, -einval, []⟩, answers.reads)
  else if sensor.mHasPendingEvent then
    let mPendingEvent := { sensor.mPendingEvent with timestamp := answers.now }
    some (⟨{ sensor with mHasPendingEvent := false, mPendingEvent := mPendingEvent },
      if sensor.mEnabled then 1 else 0, [mPendingEvent]⟩, answers.reads)
  else match sensor.mInputReader.fill answers.reads with
    | none => none
    | some (mInputReader, n, reads) =>
        let sensor := { sensor with mInputReader := mInputReader }
        if n < 0 then some (⟨sensor, n, []⟩, reads)
        else match receive ⟨sensor, count, []⟩ reads with
          | none => none
          | some (loop, reads) =>
              some (⟨loop.sensor, loop.received.length, loop.received⟩, reads)

/-! ## The light sensor -/

namespace LightSensor

/-- `adcToLux`. -/
def adcToLux : List (ℕ × ℚ) := [(360, 7), (798, 70), (1240, 1000), (1673, 10000), (3000, 16000)]

/-- `LightSensor::indexToValue`. -/
def indexToValue (index : ℕ) : ℚ :=
  match adcToLux.find? fun entry => index < entry.1 with
  | some entry => entry.2
  | none => 16000

def update (pending : SensorsEvent) (event : InputEvent) : SensorsEvent :=
  if event.type = evAbs ∧ event.code = eventTypeLight ∧ event.value ≠ -1 then
    { pending with x := indexToValue (sizeT event.value) }
  else pending

/-- `LightSensor::enable`. It does not call `setInitialState`. -/
def enable (sensor : InputSensor) (en : ℤ) (answers : EnableAnswers) : InputSensor × ℤ :=
  sensor.enable id en answers

/-- The constructor, when the device is there. -/
def new (mBuffer : ℕ → InputEvent) (answers : EnableAnswers) : InputSensor :=
  (enable (.initial idL mBuffer) 1 answers).1

/-- `LightSensor::readEvents`. -/
def readEvents (sensor : InputSensor) (count : ℤ) (answers : ReadAnswers) :
    Option (Reading InputSensor SensorsEvent × List ReadResult) :=
  sensor.readEvents (fun loop reads => some (loop.receive update fun _ => true, reads)) count
    answers

end LightSensor

/-! ## The proximity sensor -/

namespace ProximitySensor

/-- `PROXIMITY_THRESHOLD_GP2A`. -/
def proximityThresholdGp2a : ℚ := 5

/-- `ProximitySensor::indexToValue`. -/
def indexToValue (index : ℕ) : ℚ := index * proximityThresholdGp2a

def update (pending : SensorsEvent) (event : InputEvent) : SensorsEvent :=
  if event.type = evAbs ∧ event.code = eventTypeProximity then
    { pending with x := indexToValue (sizeT event.value) }
  else pending

/-- `ProximitySensor::setInitialState`. -/
def setInitialState (answers : EnableAnswers) (sensor : InputSensor) : InputSensor :=
  match answers.absinfo eventTypeProximity with
  | some value =>
      { sensor with
        mHasPendingEvent := true
        mPendingEvent := { sensor.mPendingEvent with x := indexToValue (sizeT value) } }
  | none => sensor

/-- `ProximitySensor::enable`. -/
def enable (sensor : InputSensor) (en : ℤ) (answers : EnableAnswers) : InputSensor × ℤ :=
  sensor.enable (setInitialState answers) en answers

/-- The constructor, when the device is there. -/
def new (mBuffer : ℕ → InputEvent) (answers : EnableAnswers) : InputSensor :=
  (enable (.initial idP mBuffer) 1 answers).1

/-- `ProximitySensor::readEvents`. -/
def readEvents (sensor : InputSensor) (count : ℤ) (answers : ReadAnswers) :
    Option (Reading InputSensor SensorsEvent × List ReadResult) :=
  sensor.readEvents (fun loop reads => some (loop.receive update fun _ => true, reads)) count
    answers

end ProximitySensor

/-! ## The gyroscope -/

structure GyroSensor extends InputSensor where
  mEnabledTime : ℤ

namespace GyroSensor

/-- `IGNORE_EVENT_TIME`. -/
def ignoreEventTime : ℤ := 350000000

/-- `CONVERT_GYRO`. The numerator and denominator of `(float)M_PI` are those of the
nearest single-precision number. -/
def convertGyro : ℚ := 70 / 4000 * (13176795 / 4194304 / 180)
def convertGyroX : ℚ := -convertGyro
def convertGyroY : ℚ := convertGyro
def convertGyroZ : ℚ := convertGyro

def update (pending : SensorsEvent) (event : InputEvent) : SensorsEvent :=
  if event.type = evRel then
    if event.code = eventTypeGyroX then { pending with x := event.value * convertGyroX }
    else if event.code = eventTypeGyroY then { pending with y := event.value * convertGyroY }
    else if event.code = eventTypeGyroZ then { pending with z := event.value * convertGyroZ }
    else pending
  else pending

/-- `GyroSensor::setInitialState`. All three values come from the axis x. -/
def setInitialState (answers : EnableAnswers) (sensor : InputSensor) : InputSensor :=
  match answers.absinfo eventTypeGyroX, answers.absinfo eventTypeGyroX,
      answers.absinfo eventTypeGyroX with
  | some absinfoX, some _, some _ =>
      { sensor with
        mHasPendingEvent := true
        mPendingEvent := { sensor.mPendingEvent with
          x := absinfoX * convertGyroX
          y := absinfoX * convertGyroY
          z := absinfoX * convertGyroZ } }
  | _, _, _ => sensor

/-- `GyroSensor::enable`. -/
def enable (gyro : GyroSensor) (en : ℤ) (answers : EnableAnswers) : GyroSensor × ℤ :=
  let (sensor, err) := gyro.toInputSensor.enable (setInitialState answers) en answers
  (⟨sensor, if gyro.mEnabled = false ∧ en ≠ 0 ∧ answers.opened = true then
      answers.now + ignoreEventTime
    else gyro.mEnabledTime⟩, err)

/-- The constructor, when the device is there. -/
def new (mBuffer : ℕ → InputEvent) (answers : EnableAnswers) : GyroSensor :=
  (enable ⟨.initial idGy mBuffer, 0⟩ 1 answers).1

/-- What follows `again:`. It goes back after every `fill` that does not give 0, and
each of these takes one result of `read`, so their number is fuel enough. -/
def again (reports : ℤ → Bool) : ℕ → ReadLoop InputSensor → List ReadResult →
    Option (ReadLoop InputSensor × List ReadResult)
  | 0, _, _ => none
  | fuel + 1, loop, reads =>
      let loop := loop.receive update reports
      if loop.received = [] ∧ loop.sensor.mEnabled = true then
        match loop.sensor.mInputReader.fill reads with
        | none => none
        | some (mInputReader, n, reads) =>
            let loop := { loop with sensor := { loop.sensor with mInputReader := mInputReader } }
            if n ≠ 0 then again reports fuel loop reads else some (loop, reads)
      else some (loop, reads)

/-- `GyroSensor::readEvents`. -/
def readEvents (gyro : GyroSensor) (count : ℤ) (answers : ReadAnswers) :
    Option (Reading GyroSensor SensorsEvent × List ReadResult) :=
  match gyro.toInputSensor.readEvents (fun loop reads =>
      again (gyro.mEnabledTime ≤ ·) (reads.length + 1) loop reads) count answers with
  | none => none
  | some (reading, reads) =>
      some (⟨⟨reading.sensors, gyro.mEnabledTime⟩, reading.nb, reading.stored⟩, reads)

end GyroSensor

/-! ## `enable` leaves the reader alone -/

theorem InputSensor.enable_mInputReader {setInitialState : InputSensor → InputSensor}
    (keeps : ∀ sensor, (setInitialState sensor).mInputReader = sensor.mInputReader)
    (sensor : InputSensor) (en : ℤ) (answers : EnableAnswers) :
    (sensor.enable setInitialState en answers).1.mInputReader = sensor.mInputReader := by
  unfold InputSensor.enable
  dsimp only
  split
  · split
    · exact keeps _
    · rfl
  · rfl

theorem LightSensor.enable_mInputReader (sensor : InputSensor) (en : ℤ)
    (answers : EnableAnswers) : (enable sensor en answers).1.mInputReader = sensor.mInputReader :=
  InputSensor.enable_mInputReader (fun _ => rfl) sensor en answers

theorem ProximitySensor.enable_mInputReader (sensor : InputSensor) (en : ℤ)
    (answers : EnableAnswers) :
    (enable sensor en answers).1.mInputReader = sensor.mInputReader := by
  refine InputSensor.enable_mInputReader (fun sensor => ?_) sensor en answers
  unfold setInitialState
  split <;> rfl

theorem GyroSensor.enable_mInputReader (gyro : GyroSensor) (en : ℤ) (answers : EnableAnswers) :
    (gyro.enable en answers).1.mInputReader = gyro.mInputReader := by
  refine InputSensor.enable_mInputReader (fun sensor => ?_) gyro.toInputSensor en answers
  unfold setInitialState
  split <;> rfl

/-! ## The room -/

section Room

variable {σ : Type*} {loop middle after : ReadLoop σ}

/-- What a stretch of a loop has written has used up room. -/
structure ReadLoop.Fits (loop after : ReadLoop σ) : Prop where
  room : 0 ≤ loop.count → 0 ≤ after.count
  balance : after.count + after.received.length ≤ loop.count + loop.received.length

theorem ReadLoop.Fits.refl (loop : ReadLoop σ) : loop.Fits loop := ⟨id, Int.le_refl _⟩

theorem ReadLoop.Fits.moved (loop : ReadLoop σ) (sensor : σ) :
    loop.Fits { loop with sensor := sensor } := ⟨id, Int.le_refl _⟩

theorem ReadLoop.Fits.trans (first : loop.Fits middle) (second : middle.Fits after) :
    loop.Fits after :=
  ⟨second.room ∘ first.room, Int.le_trans second.balance first.balance⟩

/-- A loop that starts with nothing received stays in its room. -/
theorem ReadLoop.Fits.length_le {sensor : σ} {count : ℤ}
    (fits : ReadLoop.Fits ⟨sensor, count, []⟩ after) (room : 1 ≤ count) :
    after.received.length ≤ count := by
  have space := fits.room (by dsimp only; omega)
  have balance := fits.balance
  dsimp only [List.length_nil] at balance
  omega

end Room

section Fits

variable {update : SensorsEvent → InputEvent → SensorsEvent} {reports : ℤ → Bool}

theorem ReadLoop.fits_handle {loop : ReadLoop InputSensor} (space : loop.count ≠ 0)
    (event : InputEvent) : loop.Fits (loop.handle update reports event) := by
  unfold ReadLoop.handle
  split
  · dsimp only
    split
    · refine ⟨by dsimp only; omega, ?_⟩
      dsimp only
      split
      · rw [List.length_append, List.length_singleton]
        omega
      · omega
    · exact .moved loop _
  · exact .moved loop _

theorem ReadLoop.fits_readWhile (fuel : ℕ) (loop : ReadLoop InputSensor) :
    loop.Fits (loop.readWhile update reports fuel) := by
  induction fuel generalizing loop with
  | zero => exact .refl loop
  | succ fuel ih =>
      unfold ReadLoop.readWhile
      split
      · exact .refl loop
      · next space =>
          split
          · exact .refl loop
          · next event _ => exact (fits_handle space event).trans (ih _)

theorem GyroSensor.fits_again {fuel : ℕ} {loop after : ReadLoop InputSensor}
    {reads rest : List ReadResult}
    (ended : GyroSensor.again reports fuel loop reads = some (after, rest)) : loop.Fits after := by
  induction fuel generalizing loop reads with
  | zero => cases ended
  | succ fuel ih =>
      have received : loop.Fits (loop.receive update reports) := loop.fits_readWhile _
      simp only [GyroSensor.again] at ended
      split at ended
      · split at ended
        · cases ended
        · split at ended
          · exact (received.trans (.moved _ _)).trans (ih ended)
          · cases ended
            exact received.trans (.moved _ _)
      · cases ended
        exact received

/-- Every event that is reported has had room. -/
theorem InputSensor.readEvents_fitsRoom
    {receive : ReadLoop InputSensor → List ReadResult →
      Option (ReadLoop InputSensor × List ReadResult)}
    (fits : ∀ loop reads after rest, receive loop reads = some (after, rest) → loop.Fits after)
    {sensor : InputSensor} {count : ℤ} {answers : ReadAnswers}
    {reading : Reading InputSensor SensorsEvent} {rest : List ReadResult} (room : 1 ≤ count)
    (read : sensor.readEvents receive count answers = some (reading, rest)) :
    FitsRoom count reading.nb reading.stored := by
  unfold InputSensor.readEvents at read
  rw [if_neg (by omega)] at read
  split at read
  · cases read
    refine Or.inl ⟨?_, ?_, ?_⟩
    · dsimp only
      split <;> omega
    · dsimp only [List.length_singleton]
      split <;> omega
    · exact room
  · split at read
    · cases read
    · dsimp only at read
      split at read
      · next negative =>
          cases read
          exact Or.inr ⟨negative, rfl⟩
      · split at read
        · cases read
        · next received =>
            cases read
            exact Or.inl ⟨Int.natCast_nonneg _, Int.le_refl _,
              (fits _ _ _ _ received).length_le room⟩

/-- The same of a driver that receives once in a call. -/
theorem InputSensor.readEvents_fitsRoom_once {sensor : InputSensor} {count : ℤ}
    {answers : ReadAnswers} {reading : Reading InputSensor SensorsEvent} {rest : List ReadResult}
    (room : 1 ≤ count)
    (read : sensor.readEvents (fun loop reads => some (loop.receive update reports, reads)) count
      answers = some (reading, rest)) :
    FitsRoom count reading.nb reading.stored := by
  refine InputSensor.readEvents_fitsRoom (fun loop _ _ _ ended => ?_) room read
  cases ended
  exact loop.fits_readWhile _

end Fits

/-! ## What a call has done -/

/-- The number of sync events. -/
def syncs (events : List InputEvent) : ℕ := events.countP fun event => event.type = evSyn

/-- The number of sync events that are reported when the driver is enabled. -/
def reportedSyncs (reports : ℤ → Bool) (events : List InputEvent) : ℕ :=
  events.countP fun event => event.type = evSyn ∧ reports (timevalToNano event.time) = true

/-- **What a stretch of the loop has done.** Of the unread events and those delivered
meanwhile it has handled the first; every sync event has used up room, those that
count have been reported, and nothing is handled behind the last of them that there
was room for. -/
structure Handles (reports : ℤ → Bool) (loop : ReadLoop InputSensor)
    (delivered handled : List InputEvent) (after : ReadLoop InputSensor) : Prop where
  order : after.sensor.mInputReader.InOrder
  enabled : after.sensor.mEnabled = loop.sensor.mEnabled
  pending : after.sensor.mHasPendingEvent = loop.sensor.mHasPendingEvent
  events : loop.sensor.mInputReader.content ++ delivered =
    handled ++ after.sensor.mInputReader.content
  count : after.count = loop.count - if loop.sensor.mEnabled then (syncs handled : ℤ) else 0
  room : 0 ≤ loop.count → 0 ≤ after.count
  received : (after.received.length : ℤ) = loop.received.length +
    if loop.sensor.mEnabled then (reportedSyncs reports handled : ℤ) else 0
  needed : 0 ≤ loop.count → loop.sensor.mEnabled = true → ∀ earlier later,
    handled = earlier ++ later → later ≠ [] → (syncs earlier : ℤ) < loop.count

theorem syncs_append (earlier later : List InputEvent) :
    syncs (earlier ++ later) = syncs earlier + syncs later :=
  List.countP_append

theorem reportedSyncs_append (reports : ℤ → Bool) (earlier later : List InputEvent) :
    reportedSyncs reports (earlier ++ later) =
      reportedSyncs reports earlier + reportedSyncs reports later :=
  List.countP_append

theorem reportedSyncs_le (reports : ℤ → Bool) (events : List InputEvent) :
    reportedSyncs reports events ≤ syncs events := by
  apply List.countP_mono_left
  intro event _ reported
  simp only [decide_eq_true_eq] at reported ⊢
  exact reported.1

/-- Where some sync events are not reported, there is one that is not. -/
theorem exists_skipped {reports : ℤ → Bool} {events : List InputEvent}
    (fewer : reportedSyncs reports events < syncs events) :
    ∃ event ∈ events, event.type = evSyn ∧ reports (timevalToNano event.time) = false := by
  by_contra none
  have same : reportedSyncs reports events = syncs events := by
    apply List.countP_congr
    intro event member
    simp only [decide_eq_true_eq, and_iff_left_iff_imp]
    intro sync
    by_contra skipped
    exact none ⟨event, member, sync, Bool.eq_false_iff.mpr skipped⟩
  omega

section Handles

variable {reports : ℤ → Bool} {loop middle after : ReadLoop InputSensor}
  {update : SensorsEvent → InputEvent → SensorsEvent}

theorem Handles.refl (order : loop.sensor.mInputReader.InOrder) :
    Handles reports loop [] [] loop where
  order := order
  enabled := rfl
  pending := rfl
  events := List.append_nil _
  count := by simp [syncs]
  room := id
  received := by simp [reportedSyncs]
  needed _ _ earlier later split more := absurd (List.append_eq_nil_iff.mp split.symm).2 more

theorem Handles.trans {delivered delivered' handled handled' : List InputEvent}
    (first : Handles reports loop delivered handled middle)
    (second : Handles reports middle delivered' handled' after) :
    Handles reports loop (delivered ++ delivered') (handled ++ handled') after where
  order := second.order
  enabled := second.enabled.trans first.enabled
  pending := second.pending.trans first.pending
  events := by
    rw [← List.append_assoc, first.events, List.append_assoc, second.events, List.append_assoc]
  count := by
    rw [second.count, first.count, first.enabled, syncs_append]
    cases loop.sensor.mEnabled
    · simp
    · simp only [if_true]
      omega
  room := second.room ∘ first.room
  received := by
    rw [second.received, first.received, first.enabled, reportedSyncs_append]
    cases loop.sensor.mEnabled
    · simp
    · simp only [if_true]
      omega
  needed := by
    intro nonneg enabled earlier later split more
    have room := first.room nonneg
    have count := first.count
    rw [if_pos enabled] at count
    rcases List.append_eq_append_iff.mp split with ⟨behind, rfl, split'⟩ | ⟨behind, split', rfl⟩
    · have last := second.needed room (first.enabled.trans enabled) behind later split' more
      rw [syncs_append]
      omega
    · by_cases all : behind = []
      · rw [all, List.append_nil] at split'
        rw [all, List.nil_append] at more
        have last := second.needed room (first.enabled.trans enabled) [] handled' rfl more
        rw [← split']
        simp only [syncs, List.countP_nil] at last ⊢
        simp only [syncs] at count
        omega
      · exact first.needed nonneg enabled earlier behind split' all

/-- Filling handles nothing. -/
theorem Handles.fill (reports : ℤ → Bool) (loop : ReadLoop InputSensor)
    (order : loop.sensor.mInputReader.InOrder) {reads rest : List ReadResult}
    {mInputReader : InputEventCircularReader} {n : ℤ}
    (filled : loop.sensor.mInputReader.fill reads = some (mInputReader, n, rest)) :
    ∃ delivered, Handles reports loop delivered []
        { loop with sensor := { loop.sensor with mInputReader := mInputReader } } ∧
      reads.flatMap ReadResult.delivered = delivered ++ rest.flatMap ReadResult.delivered ∧
      (n = delivered.length ∨ n < 0 ∧ delivered = []) := by
  obtain ⟨order', delivered, content, left, number⟩ :=
    InputEventCircularReader.content_fill order filled
  refine ⟨delivered, ?_, left, number⟩
  constructor
  case order => exact order'
  case enabled => rfl
  case pending => rfl
  case events => exact content.symm
  case count => simp [syncs]
  case room => exact id
  case received => simp [reportedSyncs]
  case needed =>
    intro _ _ earlier later split more
    exact absurd (List.append_eq_nil_iff.mp split.symm).2 more

/-- One turn of the `while` loop handles the first event. -/
theorem Handles.turn (order : loop.sensor.mInputReader.InOrder) (space : loop.count ≠ 0)
    {event : InputEvent} (shown : loop.sensor.mInputReader.readEvent = some event) :
    Handles reports loop [] [event] (loop.handle update reports event) := by
  obtain ⟨content, order'⟩ := InputEventCircularReader.content_eq_cons order shown
  have needed : 0 ≤ loop.count → ∀ earlier later, [event] = earlier ++ later → later ≠ [] →
      (syncs earlier : ℤ) < loop.count := by
    intro nonneg earlier later split more
    have first : earlier = [] := by
      rcases List.append_eq_singleton_iff.mp split.symm with ⟨first, -⟩ | ⟨-, last⟩
      · exact first
      · exact absurd last more
    rw [first, syncs, List.countP_nil]
    omega
  by_cases sync : event.type = evSyn
  · by_cases enabled : loop.sensor.mEnabled = true
    · constructor
      case order => simpa [ReadLoop.handle, sync, enabled] using order'
      case enabled => simp [ReadLoop.handle, sync, enabled]
      case pending => simp [ReadLoop.handle, sync, enabled]
      case events => simpa [ReadLoop.handle, sync, enabled] using content
      case count => simp [ReadLoop.handle, sync, enabled, syncs]
      case room =>
        simp only [ReadLoop.handle, sync, enabled, if_true]
        omega
      case received =>
        by_cases reported : reports (timevalToNano event.time) = true
        · simp [ReadLoop.handle, sync, enabled, reportedSyncs, reported]
        · simp [ReadLoop.handle, sync, enabled, reportedSyncs, reported]
      case needed => exact fun nonneg _ => needed nonneg
    · constructor
      case order => simpa [ReadLoop.handle, sync, enabled] using order'
      case enabled => simp [ReadLoop.handle, sync, enabled]
      case pending => simp [ReadLoop.handle, sync, enabled]
      case events => simpa [ReadLoop.handle, sync, enabled] using content
      case count => simp [ReadLoop.handle, sync, enabled]
      case room => simp [ReadLoop.handle, sync, enabled]
      case received => simp [ReadLoop.handle, sync, enabled]
      case needed => exact fun nonneg _ => needed nonneg
  · constructor
    case order => simpa [ReadLoop.handle, sync] using order'
    case enabled => simp [ReadLoop.handle, sync]
    case pending => simp [ReadLoop.handle, sync]
    case events => simpa [ReadLoop.handle, sync] using content
    case count => simp [ReadLoop.handle, sync, syncs]
    case room => simp [ReadLoop.handle, sync]
    case received => simp [ReadLoop.handle, sync, reportedSyncs]
    case needed => exact fun nonneg _ => needed nonneg

/-- The `while` loop ends when the room is used up or nothing is unread. -/
theorem Handles.readWhile {fuel : ℕ} (order : loop.sensor.mInputReader.InOrder)
    (enough : loop.sensor.mInputReader.available ≤ fuel) :
    (∃ handled, Handles reports loop [] handled (loop.readWhile update reports fuel)) ∧
      ((loop.readWhile update reports fuel).count = 0 ∨
        (loop.readWhile update reports fuel).sensor.mInputReader.content = []) := by
  induction fuel generalizing loop with
  | zero =>
      refine ⟨⟨[], Handles.refl order⟩, Or.inr ?_⟩
      rw [ReadLoop.readWhile, ← List.length_eq_zero_iff, InputEventCircularReader.length_content]
      omega
  | succ fuel ih =>
      by_cases full : loop.count = 0
      · have same : loop.readWhile update reports (fuel + 1) = loop := by
          rw [ReadLoop.readWhile, if_pos full]
        rw [same]
        exact ⟨⟨[], Handles.refl order⟩, Or.inl full⟩
      · cases shown : loop.sensor.mInputReader.readEvent with
        | none =>
            have same : loop.readWhile update reports (fuel + 1) = loop := by
              rw [ReadLoop.readWhile, if_neg full, shown]
            rw [same]
            exact ⟨⟨[], Handles.refl order⟩, Or.inr
              ((InputEventCircularReader.readEvent_eq_none_iff order).mp shown)⟩
        | some event =>
            have turn : Handles reports loop [] [event] (loop.handle update reports event) :=
              Handles.turn order full shown
            have next : loop.readWhile update reports (fuel + 1) =
                (loop.handle update reports event).readWhile update reports fuel := by
              rw [ReadLoop.readWhile, if_neg full, shown]
            have fewer : (loop.handle update reports event).sensor.mInputReader.available ≤
                fuel := by
              have length := congrArg List.length turn.events
              simp only [List.append_nil, List.length_append, List.length_singleton,
                InputEventCircularReader.length_content] at length
              omega
            obtain ⟨⟨handled, rest⟩, ends⟩ := ih turn.order fewer
            rw [next]
            exact ⟨⟨[event] ++ handled, turn.trans rest⟩, ends⟩

theorem Handles.receive (update : SensorsEvent → InputEvent → SensorsEvent)
    (reports : ℤ → Bool) (order : loop.sensor.mInputReader.InOrder) :
    (∃ handled, Handles reports loop [] handled (loop.receive update reports)) ∧
      ((loop.receive update reports).count = 0 ∨
        (loop.receive update reports).sensor.mInputReader.content = []) :=
  Handles.readWhile order (Nat.le_refl _)

/-- The loop of the gyroscope ends in the same way. -/
theorem Handles.again {fuel : ℕ} {reads rest : List ReadResult}
    (order : loop.sensor.mInputReader.InOrder)
    (ended : GyroSensor.again reports fuel loop reads = some (after, rest)) :
    (∃ delivered handled, Handles reports loop delivered handled after ∧
        reads.flatMap ReadResult.delivered = delivered ++ rest.flatMap ReadResult.delivered) ∧
      (after.count = 0 ∨ after.sensor.mInputReader.content = []) := by
  induction fuel generalizing loop reads with
  | zero => cases ended
  | succ fuel ih =>
      obtain ⟨⟨handled, received⟩, ends⟩ :=
        Handles.receive GyroSensor.update reports order
      simp only [GyroSensor.again] at ended
      split at ended
      · split at ended
        · cases ended
        · next mInputReader n left filled =>
            obtain ⟨delivered, fill, before, number⟩ :=
              Handles.fill reports _ received.order filled
            split at ended
            · obtain ⟨⟨delivered', handled', more, last⟩, ends'⟩ := ih fill.order ended
              refine ⟨⟨_, _, (received.trans fill).trans more, ?_⟩, ends'⟩
              rw [before, last, List.nil_append, List.append_assoc]
            · next nothing =>
                cases ended
                have none : delivered = [] := by
                  rcases number with number | ⟨-, none⟩
                  · rw [← List.length_eq_zero_iff]
                    omega
                  · exact none
                refine ⟨⟨_, _, received.trans fill, by rw [before, List.nil_append]⟩, ?_⟩
                have content := fill.events
                rw [none, List.append_nil, List.nil_append] at content
                rw [← content]
                exact ends
      · cases ended
        exact ⟨⟨[], handled, received, rfl⟩, ends⟩

end Handles

/-- What `readEvents` does behind the first `fill` is a stretch of the loop that ends
with no room or nothing unread. -/
def Receives (reports : ℤ → Bool)
    (receive : ReadLoop InputSensor → List ReadResult →
      Option (ReadLoop InputSensor × List ReadResult)) : Prop :=
  ∀ loop reads after rest, loop.sensor.mInputReader.InOrder →
    receive loop reads = some (after, rest) →
      (∃ delivered handled, Handles reports loop delivered handled after ∧
          reads.flatMap ReadResult.delivered = delivered ++ rest.flatMap ReadResult.delivered) ∧
        (after.count = 0 ∨ after.sensor.mInputReader.content = [])

theorem receives_while (update : SensorsEvent → InputEvent → SensorsEvent) :
    Receives (fun _ => true) fun loop reads =>
      some (loop.receive update fun _ => true, reads) := by
  intro loop reads after rest order ended
  cases ended
  obtain ⟨⟨handled, handles⟩, ends⟩ :=
    Handles.receive update (fun _ => true) order
  exact ⟨⟨[], handled, handles, rfl⟩, ends⟩

theorem receives_again (reports : ℤ → Bool) :
    Receives reports fun loop reads =>
      GyroSensor.again reports (reads.length + 1) loop reads :=
  fun _ _ _ _ order ended => Handles.again order ended

section ReadEvents

variable {reports : ℤ → Bool}
  {receive : ReadLoop InputSensor → List ReadResult →
    Option (ReadLoop InputSensor × List ReadResult)}
  {sensor : InputSensor} {count : ℤ} {answers : ReadAnswers}
  {reading : Reading InputSensor SensorsEvent} {rest : List ReadResult}

/-- A call of `readEvents` that takes events from the reader. -/
structure Received (reports : ℤ → Bool) (sensor : InputSensor) (count : ℤ)
    (delivered handled : List InputEvent) (reading : Reading InputSensor SensorsEvent) :
    Prop where
  order : reading.sensors.mInputReader.InOrder
  pending : reading.sensors.mHasPendingEvent = sensor.mHasPendingEvent
  events : sensor.mInputReader.content ++ delivered =
    handled ++ reading.sensors.mInputReader.content
  number : reading.nb = reading.stored.length
  reported : reading.nb = if sensor.mEnabled then (reportedSyncs reports handled : ℤ) else 0
  room : (if sensor.mEnabled then (syncs handled : ℤ) else 0) ≤ count
  ends : (if sensor.mEnabled then (syncs handled : ℤ) else 0) = count ∨
    reading.sensors.mInputReader.content = []
  needed : sensor.mEnabled = true → ∀ earlier later, handled = earlier ++ later → later ≠ [] →
    (syncs earlier : ℤ) < count

/-- **A call of `readEvents`** reports the pending event, or it fails, or it takes
events from the reader. -/
theorem InputSensor.readEvents_cases (receives : Receives reports receive)
    (order : sensor.mInputReader.InOrder) (room : 1 ≤ count)
    (read : sensor.readEvents receive count answers = some (reading, rest)) :
    (sensor.mHasPendingEvent = true ∧ rest = answers.reads ∧
        reading.sensors.mInputReader = sensor.mInputReader ∧
        reading.sensors.mHasPendingEvent = false ∧
        reading.nb = (if sensor.mEnabled then 1 else 0) ∧ reading.stored.length = 1) ∨
      sensor.mHasPendingEvent = false ∧
        ((reading.sensors.mInputReader.InOrder ∧ reading.sensors.mHasPendingEvent = false ∧
            reading.nb < 0 ∧ reading.stored = [] ∧
            ∃ result ∈ answers.reads, result.succeeds = false) ∨
          ∃ delivered handled, Received reports sensor count delivered handled reading ∧
            answers.reads.flatMap ReadResult.delivered =
              delivered ++ rest.flatMap ReadResult.delivered) := by
  unfold InputSensor.readEvents at read
  rw [if_neg (by omega)] at read
  split at read
  · next pending =>
      cases read
      exact Or.inl ⟨pending, rfl, rfl, rfl, rfl, rfl⟩
  · next pending =>
      have none : sensor.mHasPendingEvent = false := Bool.eq_false_iff.mpr pending
      refine Or.inr ⟨none, ?_⟩
      split at read
      · cases read
      · next mInputReader n left filled =>
          obtain ⟨delivered, fill, before, number⟩ :=
            Handles.fill reports ⟨sensor, count, []⟩ order filled
          simp only [] at read
          split at read
          · next negative =>
              cases read
              exact Or.inl ⟨fill.order, none, negative, rfl,
                InputEventCircularReader.fill_fails filled negative⟩
          · split at read
            · cases read
            · next after left' received =>
                cases read
                obtain ⟨⟨delivered', handled, more, last⟩, ends⟩ :=
                  receives _ _ _ _ fill.order received
                have handles := fill.trans more
                have count := handles.count
                have space := handles.room (by simp only []; omega)
                have length := handles.received
                simp only [List.nil_append, List.length_nil] at count space length
                refine Or.inr ⟨_, handled, ?_, by rw [before, last, List.append_assoc]⟩
                constructor
                case order => exact handles.order
                case pending => exact handles.pending
                case events => exact handles.events
                case number => rfl
                case reported =>
                  simp only []
                  omega
                case room => omega
                case ends =>
                  apply ends.imp_left
                  intro full
                  omega
                case needed =>
                  exact handles.needed (by simp only []; omega)

end ReadEvents

end Msm8660.Sensors
