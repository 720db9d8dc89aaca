import Mathlib.Tactic.Linarith
import Mathlib.Tactic.NormNum
import Msm8660.Sensors.AkmSensor

/-!
# The reading after `enable` and the reading of an event

What the input driver holds for an axis comes to the framework on two ways. When a sensor is
enabled, `setInitialState` asks for it with `EVIOCGABS`, and so does the constructor of
`AkmSensor`; later it comes as an event. The two conversions were written apart. They agree
for proximity, acceleration and magnetic field. The gyroscope takes all three values from
one axis, and the orientation is not scaled, has its roll turned round, and keeps a status
that `processEvent` replaces (`sensorsReportAlike_iff`).
-/

set_option autoImplicit false

namespace Msm8660.Sensors

/-- The answers of `EVIOCGABS` of an input driver with these values. -/
def heldValues (values : ℕ → ℤ) (code : ℕ) : Option ℤ := some (values code)

/-- Events of one type with the values of these axes. -/
def axisEvents (time : Timeval) (type : ℕ) (values : ℕ → ℤ) (codes : List ℕ) :
    List InputEvent :=
  codes.map fun code => ⟨time, type, code, values code⟩

/-- Such events, and a sync event. -/
def packet (time : Timeval) (type : ℕ) (values : ℕ → ℤ) (codes : List ℕ) : List InputEvent :=
  axisEvents time type values codes ++ [⟨time, evSyn, 0, 0⟩]

/-- Two events with the same data. -/
def SameData (first second : SensorsEvent) : Prop :=
  { first with timestamp := second.timestamp } = second

/-! ## One packet -/

section Packet

variable (update : SensorsEvent → InputEvent → SensorsEvent) (reports : ℤ → Bool)

/-- A turn of the loop. -/
theorem ReadLoop.readWhile_cons {loop : ReadLoop InputSensor} {event : InputEvent}
    {rest : List InputEvent} (order : loop.sensor.mInputReader.InOrder) (space : loop.count ≠ 0)
    (content : loop.sensor.mInputReader.content = event :: rest) (fuel : ℕ) :
    loop.readWhile update reports (fuel + 1) =
        (loop.handle update reports event).readWhile update reports fuel ∧
      (loop.handle update reports event).sensor.mInputReader.InOrder ∧
      (loop.handle update reports event).sensor.mInputReader.content = rest := by
  cases shown : loop.sensor.mInputReader.readEvent with
  | none =>
      rw [(InputEventCircularReader.readEvent_eq_none_iff order).mp shown] at content
      cases content
  | some first =>
      have turn : Handles reports loop [] [first] (loop.handle update reports first) :=
        Handles.turn order space shown
      have events := turn.events
      rw [content, List.append_nil, List.singleton_append] at events
      obtain ⟨rfl, left⟩ := List.cons.inj events
      refine ⟨?_, turn.order, left.symm⟩
      rw [ReadLoop.readWhile, if_neg space, shown]

/-- An event that is no sync event changes the pending event. -/
theorem ReadLoop.handle_axis {loop : ReadLoop InputSensor} {event : InputEvent}
    (axis : event.type ≠ evSyn) :
    (loop.handle update reports event).sensor.mEnabled = loop.sensor.mEnabled ∧
      (loop.handle update reports event).sensor.mPendingEvent =
        update loop.sensor.mPendingEvent event ∧
      (loop.handle update reports event).count = loop.count ∧
      (loop.handle update reports event).received = loop.received := by
  rw [ReadLoop.handle, if_neg axis]
  exact ⟨rfl, rfl, rfl, rfl⟩

/-- **A packet is reported as one event**: the pending one, with all that its axes change. -/
theorem ReadLoop.received_packet {loop : ReadLoop InputSensor} {axes : List InputEvent}
    {sync : InputEvent} {fuel : ℕ} (order : loop.sensor.mInputReader.InOrder)
    (enabled : loop.sensor.mEnabled = true) (room : 1 ≤ loop.count)
    (content : loop.sensor.mInputReader.content = axes ++ [sync])
    (noSync : ∀ event ∈ axes, event.type ≠ evSyn) (isSync : sync.type = evSyn)
    (reported : reports (timevalToNano sync.time) = true) (enough : axes.length < fuel) :
    (loop.readWhile update reports fuel).received = loop.received ++
      [{ axes.foldl update loop.sensor.mPendingEvent with
        timestamp := timevalToNano sync.time }] := by
  induction axes generalizing loop fuel with
  | nil =>
      obtain ⟨fuel, rfl⟩ : ∃ left, fuel = left + 1 := Nat.exists_eq_add_of_le' enough
      obtain ⟨turn, order', empty⟩ :=
        loop.readWhile_cons update reports order (by omega) content fuel
      have rest : ∀ fuel : ℕ, (loop.handle update reports sync).readWhile update reports fuel =
          loop.handle update reports sync := by
        intro fuel
        cases fuel with
        | zero => rfl
        | succ fuel =>
            rw [ReadLoop.readWhile,
              (InputEventCircularReader.readEvent_eq_none_iff order').mpr empty, ite_self]
      rw [turn, rest, ReadLoop.handle, if_pos isSync]
      dsimp only
      rw [if_pos enabled, if_pos reported]
      rfl
  | cons event rest ih =>
      obtain ⟨fuel, rfl⟩ : ∃ left, fuel = left + 1 :=
        Nat.exists_eq_add_of_le' (Nat.lt_of_le_of_lt (Nat.zero_le _) enough)
      obtain ⟨axis, others⟩ := List.forall_mem_cons.mp noSync
      obtain ⟨turn, order', left⟩ :=
        loop.readWhile_cons update reports order (by omega) content fuel
      obtain ⟨enabled', pending, count, received⟩ :=
        loop.handle_axis update reports axis
      rw [turn, ih order' (enabled'.trans enabled) (by omega) left others
        (by rw [List.length_cons] at enough; omega), pending, received]
      rfl

/-- A read of everything that there is room for. -/
theorem InputEventCircularReader.fill_empty {reader : InputEventCircularReader}
    (order : reader.InOrder) (empty : reader.content = []) {events : List InputEvent}
    (fit : events.length ≤ reader.numEvents) (reads : List ReadResult) :
    reader.fill (.events events :: reads) =
        some (reader.advance events, (events.length : ℤ), reads) ∧
      (reader.advance events).InOrder ∧ (reader.advance events).content = events := by
  have available := order.available_eq
  rw [← length_content, empty, List.length_nil] at available
  have capacity := order.capacity
  have fits : (events.length : ℤ) ≤ reader.mFreeSpace := by omega
  refine ⟨?_, inOrder_advance order fits, ?_⟩
  · simp only [fill, if_pos fits]
    exact if_neg (by omega)
  · rw [content_advance order fits, empty, List.nil_append]

end Packet

/-! ## Drivers that wait for a packet -/

/-- The driver is enabled, and nothing is pending or unread. -/
structure InputSensor.Idle (sensor : InputSensor) : Prop where
  enabled : sensor.mEnabled = true
  nothing : sensor.mHasPendingEvent = false
  order : sensor.mInputReader.InOrder
  empty : sensor.mInputReader.content = []
  capacity : 4 ≤ sensor.mInputReader.numEvents

/-- A driver that has been built and enabled, with nothing pending. -/
theorem InputSensor.idle_initial (sensor : ℤ) (mBuffer : ℕ → InputEvent) :
    Idle { InputSensor.initial sensor mBuffer with mEnabled := true } where
  enabled := rfl
  nothing := rfl
  order := InputEventCircularReader.inOrder_new (by decide) mBuffer
  empty := InputEventCircularReader.content_new 4 mBuffer
  capacity := Nat.le_refl 4

section Drivers

/-- The loop of an idle driver, behind the first `fill`. -/
def InputSensor.started (sensor : InputSensor) (count : ℤ) (events : List InputEvent) :
    ReadLoop InputSensor :=
  ⟨{ sensor with mInputReader := sensor.mInputReader.advance events }, count, []⟩

/-- What an idle driver returns of one read. -/
theorem InputSensor.readEvents_idle
    (receive : ReadLoop InputSensor → List ReadResult →
      Option (ReadLoop InputSensor × List ReadResult))
    {sensor : InputSensor} (idle : sensor.Idle) {count : ℤ} (room : 1 ≤ count)
    {events : List InputEvent} (fit : events.length ≤ 4) (now : ℤ) (syncs : ℕ → SyncAnswers)
    {loop : ReadLoop InputSensor}
    (received : receive (sensor.started count events) [] = some (loop, [])) :
    sensor.readEvents receive count ⟨[.events events], now, syncs⟩ =
      some (⟨loop.sensor, loop.received.length, loop.received⟩, []) := by
  obtain ⟨filled, -, -⟩ := InputEventCircularReader.fill_empty idle.order idle.empty
    (Nat.le_trans fit idle.capacity) []
  have nonneg : ¬ (events.length : ℤ) < 0 := by omega
  have nothing : ¬ sensor.mHasPendingEvent = true := Bool.eq_false_iff.mp idle.nothing
  unfold InputSensor.started at received
  rw [InputSensor.readEvents, if_neg (by omega), if_neg nothing, filled]
  dsimp only
  rw [if_neg nonneg, received]

/-- The loop of an idle driver with a packet. -/
theorem InputSensor.received_idle (update : SensorsEvent → InputEvent → SensorsEvent)
    (reports : ℤ → Bool) {sensor : InputSensor} (idle : sensor.Idle) {count : ℤ}
    (room : 1 ≤ count) {time : Timeval} {type : ℕ} (axis : type ≠ evSyn) (values : ℕ → ℤ)
    {codes : List ℕ} (fit : (packet time type values codes).length ≤ 4)
    (reported : reports (timevalToNano time) = true) :
    ((sensor.started count (packet time type values codes)).receive update reports).received =
      [{ (axisEvents time type values codes).foldl update sensor.mPendingEvent with
        timestamp := timevalToNano time }] := by
  obtain ⟨-, order, content⟩ := InputEventCircularReader.fill_empty idle.order idle.empty
    (Nat.le_trans fit idle.capacity) []
  have noSync : ∀ event ∈ axisEvents time type values codes, event.type ≠ evSyn := by
    intro event member
    obtain ⟨code, -, rfl⟩ := List.mem_map.mp member
    exact axis
  have enough : (axisEvents time type values codes).length <
      (sensor.mInputReader.advance (packet time type values codes)).available := by
    rw [← InputEventCircularReader.length_content, content, packet, List.length_append]
    exact Nat.lt_succ_self _
  have last : reports (timevalToNano (⟨time, evSyn, 0, 0⟩ : InputEvent).time) = true := reported
  exact ReadLoop.received_packet update reports order idle.enabled room content noSync rfl
    last enough

end Drivers

/-! ## Gyroscope and proximity -/

/-- The event that `setInitialState` prepares is the one of the packet behind it. -/
def GyroSensor.ReportsAlike (values : ℕ → ℤ) : Prop :=
  ∀ (gyro : GyroSensor) (answers : EnableAnswers) (count now : ℤ) (syncs : ℕ → SyncAnswers)
    (time : Timeval), gyro.Idle → answers.absinfo = heldValues values → 1 ≤ count →
    gyro.mEnabledTime ≤ timevalToNano time →
    ∃ event,
      (gyro.readEvents count ⟨[.events (packet time evRel values
          [eventTypeGyroX, eventTypeGyroY, eventTypeGyroZ])], now, syncs⟩).map
        (fun result => result.1.stored) = some [event] ∧
      (setInitialState answers gyro.toInputSensor).mHasPendingEvent = true ∧
      SameData (setInitialState answers gyro.toInputSensor).mPendingEvent event

/-- The same of the proximity sensor. -/
def ProximitySensor.ReportsAlike (values : ℕ → ℤ) : Prop :=
  ∀ (sensor : InputSensor) (answers : EnableAnswers) (count now : ℤ) (syncs : ℕ → SyncAnswers)
    (time : Timeval), sensor.Idle → answers.absinfo = heldValues values → 1 ≤ count →
    ∃ event,
      (readEvents sensor count ⟨[.events (packet time evAbs values [eventTypeProximity])], now,
          syncs⟩).map (fun result => result.1.stored) = some [event] ∧
      (setInitialState answers sensor).mHasPendingEvent = true ∧
      SameData (setInitialState answers sensor).mPendingEvent event

section Gyroscope

open GyroSensor

theorem GyroSensor.convertGyro_ne_zero : convertGyro ≠ 0 := by norm_num [convertGyro]

/-- What the gyroscope reports of a packet. -/
theorem GyroSensor.stored_packet {gyro : GyroSensor} (idle : gyro.Idle) {count : ℤ}
    (room : 1 ≤ count) (now : ℤ) (syncs : ℕ → SyncAnswers) {time : Timeval}
    (late : gyro.mEnabledTime ≤ timevalToNano time) (values : ℕ → ℤ) :
    (gyro.readEvents count ⟨[.events (packet time evRel values
        [eventTypeGyroX, eventTypeGyroY, eventTypeGyroZ])], now, syncs⟩).map
      (fun result => result.1.stored) =
      some [{ gyro.mPendingEvent with
        timestamp := timevalToNano time
        x := values eventTypeGyroX * convertGyroX
        y := values eventTypeGyroY * convertGyroY
        z := values eventTypeGyroZ * convertGyroZ }] := by
  generalize events : packet time evRel values
    [eventTypeGyroX, eventTypeGyroY, eventTypeGyroZ] = shown
  have fit : shown.length ≤ 4 := by
    rw [← events]
    exact Nat.le_refl 4
  have axis : evRel ≠ evSyn := by decide
  have received := InputSensor.received_idle update (gyro.mEnabledTime ≤ ·) idle room axis values
    (events.symm ▸ fit) (decide_eq_true late)
  rw [events] at received
  have ended : again (gyro.mEnabledTime ≤ ·) 1 (gyro.started count shown) [] =
      some ((gyro.started count shown).receive update (gyro.mEnabledTime ≤ ·), []) := by
    rw [again]
    dsimp only
    rw [received]
    exact if_neg fun waiting => List.cons_ne_nil _ _ waiting.1
  rw [GyroSensor.readEvents, InputSensor.readEvents_idle (fun loop reads =>
    again (gyro.mEnabledTime ≤ ·) (reads.length + 1) loop reads) idle room fit now syncs ended]
  simp only [Option.map_some, received]
  rfl

/-- **The gyroscope reports alike exactly if its three axes hold the same value.** -/
theorem GyroSensor.reportsAlike_iff (values : ℕ → ℤ) : ReportsAlike values ↔
    values eventTypeGyroY = values eventTypeGyroX ∧
      values eventTypeGyroZ = values eventTypeGyroX := by
  constructor
  · intro alike
    let gyro : GyroSensor :=
      ⟨{ InputSensor.initial idGy fun _ => ⟨⟨0, 0⟩, 0, 0, 0⟩ with mEnabled := true }, 0⟩
    have idle : gyro.Idle := InputSensor.idle_initial idGy _
    have late : gyro.mEnabledTime ≤ timevalToNano ⟨0, 0⟩ := Int.le_refl 0
    obtain ⟨event, stored, -, same⟩ := alike gyro ⟨true, 0, heldValues values, 0⟩ 1 0
      (fun _ => ⟨0, 0⟩) ⟨0, 0⟩ idle rfl (Int.le_refl 1) late
    rw [stored_packet idle (Int.le_refl 1) 0 _ late] at stored
    obtain rfl := List.singleton_inj.mp (Option.some.inj stored)
    have second := congrArg SensorsEvent.y same
    have third := congrArg SensorsEvent.z same
    simp only [setInitialState, heldValues, convertGyroY, convertGyroZ] at second third
    have second' := mul_right_cancel₀ convertGyro_ne_zero second
    have third' := mul_right_cancel₀ convertGyro_ne_zero third
    exact ⟨(Int.cast_inj.mp second').symm, (Int.cast_inj.mp third').symm⟩
  · rintro ⟨second, third⟩ gyro answers count now syncs time idle held room late
    refine ⟨_, stored_packet idle room now syncs late values, ?_⟩
    rw [setInitialState, held, second, third]
    exact ⟨rfl, rfl⟩

end Gyroscope

section Proximity

open ProximitySensor

/-- What the proximity sensor reports of a packet. -/
theorem ProximitySensor.stored_packet {sensor : InputSensor} (idle : sensor.Idle) {count : ℤ}
    (room : 1 ≤ count) (now : ℤ) (syncs : ℕ → SyncAnswers) (time : Timeval) (values : ℕ → ℤ) :
    (readEvents sensor count ⟨[.events (packet time evAbs values [eventTypeProximity])], now,
        syncs⟩).map (fun result => result.1.stored) =
      some [{ sensor.mPendingEvent with
        timestamp := timevalToNano time
        x := indexToValue (sizeT (values eventTypeProximity)) }] := by
  have axis : evAbs ≠ evSyn := by decide
  have fit : (packet time evAbs values [eventTypeProximity]).length ≤ 4 :=
    (by decide : 2 ≤ 4)
  have received := InputSensor.received_idle update (fun _ => true) idle room axis values fit rfl
  rw [readEvents, InputSensor.readEvents_idle (fun loop reads =>
    some (loop.receive update fun _ => true, reads)) idle room fit now syncs rfl]
  simp only [Option.map_some, received]
  rfl

/-- **The proximity sensor reports alike.** -/
theorem ProximitySensor.reportsAlike (values : ℕ → ℤ) : ReportsAlike values := by
  intro sensor answers count now syncs time idle held room
  refine ⟨_, stored_packet idle room now syncs time values, ?_⟩
  rw [setInitialState, held]
  exact ⟨rfl, rfl⟩

end Proximity

/-! ## The sensors of the library -/

/-- The driver after events with the values of these axes. -/
def AkmSensor.processAxes (values : ℕ → ℤ) (codes : List ℕ) (akm : AkmSensor) : AkmSensor :=
  codes.foldl (fun akm code => akm.processEvent code (values code)) akm

/-- What the constructor stores of a sensor that is enabled is what `processEvent` stores. -/
def AkmSensor.StoresAlike (values : ℕ → ℤ) (j : AkmIndex) (codes : List ℕ) : Prop :=
  ∀ (mBuffer : ℕ → InputEvent) (isEnabled : AkmSensorType → Bool) (library : ℤ)
    (akm : AkmSensor), isEnabled j.sensorType = true →
    let built := (new mBuffer isEnabled (heldValues values) library).1.mPendingEvents j
    let processed := (akm.processAxes values codes).mPendingEvents j
    built.x = processed.x ∧ built.y = processed.y ∧ built.z = processed.z ∧
      (j = .orientation → built.status = processed.status)

section Library

open AkmSensor

variable (values : ℕ → ℤ)

/-- A block of the constructor changes its own event by the values of its axes. -/
theorem AkmSensor.takeOver_mPendingEvents (isEnabled : AkmSensorType → Bool) (j k : AkmIndex)
    (axes : List (ℕ × (ℤ → SensorsEvent → SensorsEvent))) (akm : AkmSensor) :
    (akm.takeOver isEnabled (heldValues values) j axes).mPendingEvents k =
      if k = j ∧ isEnabled j.sensorType = true then
        axes.foldl (fun event axis => axis.2 (values axis.1) event) (akm.mPendingEvents k)
      else akm.mPendingEvents k := by
  have general : ∀ (read : AkmSensor → ℕ × (ℤ → SensorsEvent → SensorsEvent) → AkmSensor),
      (∀ akm axis, read akm axis = akm.setPending j (axis.2 (values axis.1))) →
      ∀ start : AkmSensor, (axes.foldl read start).mPendingEvents k =
        if k = j then axes.foldl (fun event axis => axis.2 (values axis.1) event)
          (start.mPendingEvents k)
        else start.mPendingEvents k := by
    intro read answered
    induction axes with
    | nil => exact fun _ => (ite_self _).symm
    | cons axis rest ih =>
        intro start
        rw [List.foldl_cons, ih, List.foldl_cons, answered]
        by_cases own : k = j
        · rw [if_pos own, if_pos own, own]
          exact congrArg (rest.foldl _) (Function.update_self _ _ _)
        · rw [if_neg own, if_neg own]
          exact Function.update_of_ne own _ _
  unfold takeOver
  by_cases enabled : isEnabled j.sensorType = true
  · rw [if_pos enabled]
    simp only [enabled, and_true]
    apply general
    intro akm axis
    rfl
  · rw [if_neg enabled, if_neg fun both => enabled both.2]

section Built

variable (mBuffer : ℕ → InputEvent) {isEnabled : AkmSensorType → Bool} (library : ℤ)

theorem AkmSensor.new_accelerometer (enabled : isEnabled .accelerometer = true) :
    (new mBuffer isEnabled (heldValues values) library).1.mPendingEvents .accelerometer =
      ⟨idA, 0, values eventTypeAccelX * convertAX, values eventTypeAccelY * convertAY,
        values eventTypeAccelZ * convertAZ, sensorStatusAccuracyHigh⟩ := by
  simp [new, takeOver_mPendingEvents, AkmIndex.sensorType, enabled, initial]

theorem AkmSensor.new_magneticField (enabled : isEnabled .magneticField = true) :
    (new mBuffer isEnabled (heldValues values) library).1.mPendingEvents .magneticField =
      ⟨idM, 0, values eventTypeMagvX * convertMX, values eventTypeMagvY * convertMY,
        values eventTypeMagvZ * convertMZ, sensorStatusAccuracyHigh⟩ := by
  simp [new, takeOver_mPendingEvents, AkmIndex.sensorType, enabled, initial]

theorem AkmSensor.new_orientation (enabled : isEnabled .orientation = true) :
    (new mBuffer isEnabled (heldValues values) library).1.mPendingEvents .orientation =
      ⟨idO, 0, values eventTypeYaw, values eventTypePitch, -values eventTypeRoll,
        sensorState (values eventTypeOrientStatus)⟩ := by
  simp [new, takeOver_mPendingEvents, AkmIndex.sensorType, enabled, initial]

end Built

/-- Motion changes no event of another sensor. -/
theorem AkmSensor.detectMotion_mPendingEvents (akm : AkmSensor) {j : AkmIndex}
    (other : j ≠ .significantMotion) :
    akm.detectMotion.mPendingEvents j = akm.mPendingEvents j := by
  unfold detectMotion
  dsimp only
  split
  · exact Function.update_of_ne other _ _
  · rfl

@[simp] theorem AkmSensor.notePending_mPendingEvents (akm : AkmSensor) (j : AkmIndex)
    (change : SensorsEvent → SensorsEvent) :
    (akm.notePending j change).mPendingEvents =
      Function.update akm.mPendingEvents j (change (akm.mPendingEvents j)) := rfl

theorem AkmSensor.storesAlike_accelerometer :
    StoresAlike values .accelerometer [eventTypeAccelX, eventTypeAccelY, eventTypeAccelZ] := by
  intro mBuffer isEnabled library akm enabled built processed
  have stored : built = _ := new_accelerometer values mBuffer library enabled
  have events : processed.x = values eventTypeAccelX * convertAX ∧
      processed.y = values eventTypeAccelY * convertAY ∧
      processed.z = values eventTypeAccelZ * convertAZ := by
    simp [processed, processAxes, processEvent, eventTypeAccelX, eventTypeAccelY, eventTypeAccelZ,
      detectMotion_mPendingEvents]
  obtain ⟨first, second, third⟩ := events
  rw [stored, first, second, third]
  exact ⟨rfl, rfl, rfl, fun same => by cases same⟩

theorem AkmSensor.storesAlike_magneticField :
    StoresAlike values .magneticField [eventTypeMagvX, eventTypeMagvY, eventTypeMagvZ] := by
  intro mBuffer isEnabled library akm enabled built processed
  have stored : built = _ := new_magneticField values mBuffer library enabled
  have events : processed.x = values eventTypeMagvX * convertMX ∧
      processed.y = values eventTypeMagvY * convertMY ∧
      processed.z = values eventTypeMagvZ * convertMZ := by
    simp [processed, processAxes, processEvent, eventTypeAccelX, eventTypeAccelY, eventTypeAccelZ,
      eventTypeMagvX, eventTypeMagvY, eventTypeMagvZ]
  obtain ⟨first, second, third⟩ := events
  rw [stored, first, second, third]
  exact ⟨rfl, rfl, rfl, fun same => by cases same⟩

/-- The axes of the orientation, with its status. -/
def orientationAxes : List ℕ :=
  [eventTypeYaw, eventTypePitch, eventTypeRoll, eventTypeOrientStatus]

/-- What `processEvent` stores of the orientation. -/
theorem AkmSensor.processAxes_orientation (akm : AkmSensor) :
    (akm.processAxes values orientationAxes).mPendingEvents .orientation =
      { akm.mPendingEvents .orientation with
        x := values eventTypeYaw * convertOA
        y := values eventTypePitch * convertOP
        z := values eventTypeRoll * convertOR
        status := if sensorState (values eventTypeOrientStatus) = 4 then 0
          else sensorState (values eventTypeOrientStatus) } := by
  simp [processAxes, processEvent, orientationAxes, eventTypeAccelX, eventTypeAccelY,
    eventTypeAccelZ, eventTypeMagvX, eventTypeMagvY, eventTypeMagvZ, eventTypeYaw, eventTypePitch,
    eventTypeRoll, eventTypeOrientStatus]
  rfl

/-- **The orientation is stored alike exactly if all angles are zero and the status is not
the one that `processEvent` replaces.** -/
theorem AkmSensor.storesAlike_orientation_iff : StoresAlike values .orientation orientationAxes ↔
    values eventTypeYaw = 0 ∧ values eventTypePitch = 0 ∧ values eventTypeRoll = 0 ∧
      sensorState (values eventTypeOrientStatus) ≠ 4 := by
  constructor
  · intro alike
    obtain ⟨first, second, third, status⟩ := alike (fun _ => ⟨⟨0, 0⟩, 0, 0, 0⟩) (fun _ => true) 0
      (initial fun _ => ⟨⟨0, 0⟩, 0, 0, 0⟩) rfl
    rw [new_orientation values _ 0 rfl, processAxes_orientation] at first second third status
    dsimp only [convertOA, convertOP, convertOR, convertO] at first second third status
    refine ⟨?_, ?_, ?_, ?_⟩
    · have zero : (values eventTypeYaw : ℚ) = 0 := by linarith only [first]
      exact_mod_cast zero
    · have zero : (values eventTypePitch : ℚ) = 0 := by linarith only [second]
      exact_mod_cast zero
    · have zero : (values eventTypeRoll : ℚ) = 0 := by linarith only [third]
      exact_mod_cast zero
    · intro replaced
      have wrong := status rfl
      rw [if_pos replaced, replaced] at wrong
      cases wrong
  · rintro ⟨first, second, third, status⟩ mBuffer isEnabled library akm enabled built processed
    have stored : built = _ := new_orientation values mBuffer library enabled
    have shown : processed = _ := processAxes_orientation values akm
    rw [stored, shown, first, second, third, if_neg status]
    refine ⟨?_, ?_, ?_, fun _ => rfl⟩ <;> norm_num

end Library

/-! ## All sensors -/

/-- The values that the input drivers of gyroscope, proximity and library hold are reported
alike by both ways. -/
structure SensorsReportAlike (gyro proximity akm : ℕ → ℤ) : Prop where
  gyroscope : GyroSensor.ReportsAlike gyro
  proximity : ProximitySensor.ReportsAlike proximity
  accelerometer : AkmSensor.StoresAlike akm .accelerometer
    [eventTypeAccelX, eventTypeAccelY, eventTypeAccelZ]
  magneticField : AkmSensor.StoresAlike akm .magneticField
    [eventTypeMagvX, eventTypeMagvY, eventTypeMagvZ]
  orientation : AkmSensor.StoresAlike akm .orientation orientationAxes

/-- **The two ways report alike exactly if** the axes of the gyroscope hold the same value,
the angles of the orientation are zero, and its status is not 4. -/
theorem sensorsReportAlike_iff (gyro proximity akm : ℕ → ℤ) :
    SensorsReportAlike gyro proximity akm ↔
      (gyro eventTypeGyroY = gyro eventTypeGyroX ∧ gyro eventTypeGyroZ = gyro eventTypeGyroX) ∧
        akm eventTypeYaw = 0 ∧ akm eventTypePitch = 0 ∧ akm eventTypeRoll = 0 ∧
        sensorState (akm eventTypeOrientStatus) ≠ 4 := by
  rw [← GyroSensor.reportsAlike_iff, ← AkmSensor.storesAlike_orientation_iff]
  constructor
  · exact fun alike => ⟨alike.gyroscope, alike.orientation⟩
  · rintro ⟨gyroscope, orientation⟩
    exact ⟨gyroscope, ProximitySensor.reportsAlike proximity,
      AkmSensor.storesAlike_accelerometer akm, AkmSensor.storesAlike_magneticField akm,
      orientation⟩

/-- **A turn about the axis x is reported as one about all three.** -/
theorem not_sensorsReportAlike :
    ¬ SensorsReportAlike (fun code => if code = eventTypeGyroX then 1 else 0) (fun _ => 0)
      fun _ => 0 := by
  intro alike
  obtain ⟨second, -⟩ := (GyroSensor.reportsAlike_iff _).mp alike.gyroscope
  cases second

end Msm8660.Sensors
