import Msm8660.Lib.Machine
import Msm8660.Sensors.AkmSensor

/-!
# The context with its four drivers

`sensors_poll_context_t` over the light, proximity, AKM and gyroscope drivers. A run
is a sequence of `activate` and `pollEvents`. What the system answers to the calls of
`readEvents` is a script that these use up one entry after the other.
-/

set_option autoImplicit false

namespace Msm8660.Sensors

/-- The objects behind `mSensors`. -/
structure Drivers where
  light : InputSensor
  proximity : InputSensor
  akm : AkmSensor
  gyro : GyroSensor

/-- A call of `activate`, with what the system answers. -/
structure ActivateCall where
  handle : ℤ
  enabled : ℤ
  answers : EnableAnswers

/-- `handleToDriver`. There is no driver for its `-EINVAL`. -/
def handleToDriver (handle : ℤ) : Option SensorDriver :=
  if handle = idA ∨ handle = idM ∨ handle = idO ∨ handle = idSm then some .akm
  else if handle = idP then some .proximity
  else if handle = idL then some .light
  else if handle = idGy then some .gyro
  else none

namespace Drivers

/-- `hasPendingEvents` of a driver. That of `AkmSensor` is the one of the base class. -/
def hasPendingEvents (drivers : Drivers) : SensorDriver → Bool
  | .light => drivers.light.mHasPendingEvent
  | .proximity => drivers.proximity.mHasPendingEvent
  | .akm => false
  | .gyro => drivers.gyro.mHasPendingEvent

/-- "mInputReader" of a driver. -/
def reader (drivers : Drivers) : SensorDriver → InputEventCircularReader
  | .light => drivers.light.mInputReader
  | .proximity => drivers.proximity.mInputReader
  | .akm => drivers.akm.mInputReader
  | .gyro => drivers.gyro.mInputReader

/-- "mHasPendingEvent" of a driver. `AkmSensor` has none. -/
def pendingFlag (drivers : Drivers) : SensorDriver → Bool
  | .light => drivers.light.mHasPendingEvent
  | .proximity => drivers.proximity.mHasPendingEvent
  | .akm => false
  | .gyro => drivers.gyro.mHasPendingEvent

/-- `enable` of a driver, with the handle. -/
def enable (drivers : Drivers) (i : SensorDriver) (call : ActivateCall) : Drivers × ℤ :=
  match i with
  | .light =>
      let (light, err) := LightSensor.enable drivers.light call.enabled call.answers
      ({ drivers with light := light }, err)
  | .proximity =>
      let (proximity, err) := ProximitySensor.enable drivers.proximity call.enabled call.answers
      ({ drivers with proximity := proximity }, err)
  | .akm =>
      let (akm, err, _) := drivers.akm.enable call.handle call.enabled call.answers.library
      ({ drivers with akm := akm }, err)
  | .gyro =>
      let (gyro, err) := drivers.gyro.enable call.enabled call.answers
      ({ drivers with gyro := gyro }, err)

/-- `sensors_poll_context_t::activate`. -/
def activate (drivers : Drivers) (call : ActivateCall) : Drivers × ℤ :=
  match handleToDriver call.handle with
  | none => (drivers, -einval)
  | some i => drivers.enable i call

/-- `readEvents` of a driver, with the results of `read` that are left. -/
def readEvents (drivers : Drivers) (i : SensorDriver) (count : ℤ) (answers : ReadAnswers) :
    Option (Reading Drivers SensorsEvent × List ReadResult) :=
  match i with
  | .light => (LightSensor.readEvents drivers.light count answers).map fun (reading, rest) =>
      (⟨{ drivers with light := reading.sensors }, reading.nb, reading.stored⟩, rest)
  | .proximity =>
      (ProximitySensor.readEvents drivers.proximity count answers).map fun (reading, rest) =>
        (⟨{ drivers with proximity := reading.sensors }, reading.nb, reading.stored⟩, rest)
  | .akm => (drivers.akm.readEvents count answers).map fun (reading, rest, _) =>
      (⟨{ drivers with akm := reading.sensors }, reading.nb, reading.stored⟩, rest)
  | .gyro => (drivers.gyro.readEvents count answers).map fun (reading, rest) =>
      (⟨{ drivers with gyro := reading.sensors }, reading.nb, reading.stored⟩, rest)

end Drivers

/-- The drivers and the answers to the calls of `readEvents` to come. -/
structure Device where
  drivers : Drivers
  script : List ReadAnswers

/-- The drivers as `pollEvents` sees them. A call of `readEvents` takes the next entry of
the script, and it makes use of all results of `read` in it. -/
def Device.base : SensorBase Device SensorsEvent ActivateCall where
  hasPendingEvents device := device.drivers.hasPendingEvents
  readEvents device i count := match device.script with
    | [] => none
    | answers :: script => match device.drivers.readEvents i count answers with
      | some (reading, []) => some ⟨⟨reading.sensors, script⟩, reading.nb, reading.stored⟩
      | _ => none
  act device call := { device with drivers := (device.drivers.activate call).1 }

/-- The calls of the framework. -/
inductive ContextCall where
  | activate (call : ActivateCall)
  | pollEvents (count : ℤ) (polls : List (PollAnswer ActivateCall))

/-- The context and its calls, which show the calls of `readEvents`. There is no context
any more behind a call of `pollEvents` that does not return. -/
def sensorsPollContext :
    Machine (Option (PollContext Device)) ContextCall (ReadCall Device SensorsEvent) where
  step state call := match state with
    | none => (none, [])
    | some context => match call with
      | .activate call =>
          (some { context with sensors := Device.base.act context.sensors call }, [])
      | .pollEvents count polls => match context.pollEvents Device.base count polls with
        | none => (none, [])
        | some (loop, .waiting) => (none, loop.calls)
        | some (loop, _) => (some loop.toPollContext, loop.calls)

/-- There is a context behind a call of `pollEvents` that returns. -/
theorem mem_step_pollEvents {context after : PollContext Device} {count : ℤ}
    {polls : List (PollAnswer ActivateCall)}
    (reached : after ∈ (sensorsPollContext.step (some context) (.pollEvents count polls)).1) :
    ∃ final ∈ context.pollEvents Device.base count polls, after = final.1.toPollContext ∧
      (sensorsPollContext.step (some context) (.pollEvents count polls)).2 = final.1.calls := by
  simp only [sensorsPollContext] at reached ⊢
  cases same : context.pollEvents Device.base count polls with
  | none =>
      rw [same] at reached
      cases reached
  | some final =>
      obtain ⟨loop, ended⟩ := final
      rw [same] at reached
      cases ended with
      | waiting => cases reached
      | returned nbEvents =>
          cases reached
          exact ⟨_, rfl, rfl, rfl⟩
      | failed errno =>
          cases reached
          exact ⟨_, rfl, rfl, rfl⟩

/-- What the constructors find: the buffers that they allocate and the answers to their
calls of `enable` and to those of `AkmSensor`. -/
structure Construction where
  mBuffer : SensorDriver → ℕ → InputEvent
  enables : SensorDriver → EnableAnswers
  isEnabled : AkmSensorType → Bool
  absinfo : ℕ → Option ℤ
  library : ℤ

/-- The drivers that the constructor makes. -/
def Construction.drivers (construction : Construction) : Drivers where
  light := LightSensor.new (construction.mBuffer .light) (construction.enables .light)
  proximity :=
    ProximitySensor.new (construction.mBuffer .proximity) (construction.enables .proximity)
  akm := (AkmSensor.new (construction.mBuffer .akm) construction.isEnabled construction.absinfo
    construction.library).1
  gyro := GyroSensor.new (construction.mBuffer .gyro) (construction.enables .gyro)

/-- The constructor of `sensors_poll_context_t`. -/
def Construction.context (construction : Construction) (script : List ReadAnswers) :
    PollContext Device where
  sensors := ⟨construction.drivers, script⟩
  revents _ := false

/-! ## The readers -/

theorem Drivers.enable_reader (drivers : Drivers) (j : SensorDriver) (call : ActivateCall)
    (i : SensorDriver) : (drivers.enable j call).1.reader i = drivers.reader i := by
  cases j with
  | light =>
      cases i with
      | light => exact LightSensor.enable_mInputReader _ _ _
      | proximity => rfl
      | akm => rfl
      | gyro => rfl
  | proximity =>
      cases i with
      | light => rfl
      | proximity => exact ProximitySensor.enable_mInputReader _ _ _
      | akm => rfl
      | gyro => rfl
  | akm =>
      cases i with
      | light => rfl
      | proximity => rfl
      | akm => exact AkmSensor.enable_mInputReader _ _ _ _
      | gyro => rfl
  | gyro =>
      cases i with
      | light => rfl
      | proximity => rfl
      | akm => rfl
      | gyro => exact GyroSensor.enable_mInputReader _ _ _

/-- `activate` leaves the readers alone. -/
theorem Drivers.activate_reader (drivers : Drivers) (call : ActivateCall) (i : SensorDriver) :
    (drivers.activate call).1.reader i = drivers.reader i := by
  unfold Drivers.activate
  split
  · rfl
  · exact Drivers.enable_reader _ _ _ _

/-- The readers that the constructors make are empty. -/
theorem Construction.drivers_reader (construction : Construction) (i : SensorDriver) :
    ∃ numEvents, 0 < numEvents ∧
      construction.drivers.reader i = .new numEvents (construction.mBuffer i) := by
  cases i with
  | light => exact ⟨4, by decide, LightSensor.enable_mInputReader _ _ _⟩
  | proximity => exact ⟨4, by decide, ProximitySensor.enable_mInputReader _ _ _⟩
  | akm =>
      exact ⟨32, by decide, AkmSensor.new_mInputReader _ construction.isEnabled
        construction.absinfo construction.library⟩
  | gyro => exact ⟨4, by decide, GyroSensor.enable_mInputReader ⟨.initial idGy _, 0⟩ 1 _⟩

/-! ## The drivers keep to their room -/

theorem Drivers.readEvents_fitsRoom {drivers : Drivers} {i : SensorDriver} {count : ℤ}
    {answers : ReadAnswers} {reading : Reading Drivers SensorsEvent} {rest : List ReadResult}
    (room : 1 ≤ count) (read : drivers.readEvents i count answers = some (reading, rest)) :
    FitsRoom count reading.nb reading.stored := by
  cases i with
  | light =>
      obtain ⟨⟨reading, rest⟩, given, same⟩ := Option.map_eq_some_iff.mp read
      cases same
      exact InputSensor.readEvents_fitsRoom_once room given
  | proximity =>
      obtain ⟨⟨reading, rest⟩, given, same⟩ := Option.map_eq_some_iff.mp read
      cases same
      exact InputSensor.readEvents_fitsRoom_once room given
  | akm =>
      obtain ⟨⟨reading, rest, calls⟩, given, same⟩ := Option.map_eq_some_iff.mp read
      cases same
      exact AkmSensor.readEvents_fitsRoom room given
  | gyro =>
      obtain ⟨⟨reading, rest⟩, given, same⟩ := Option.map_eq_some_iff.mp read
      cases same
      unfold GyroSensor.readEvents at given
      split at given
      · cases given
      · next read =>
          cases given
          exact InputSensor.readEvents_fitsRoom
            (fun _ _ _ _ ended => GyroSensor.fits_again ended) room read

/-- A reading of the device is one of the drivers that makes use of the next entry. -/
theorem Device.mem_readEvents {device : Device} {i : SensorDriver} {count : ℤ}
    {reading : Reading Device SensorsEvent} :
    reading ∈ Device.base.readEvents device i count ↔
      ∃ answers script taken, device.script = answers :: script ∧
        device.drivers.readEvents i count answers = some (taken, []) ∧
        reading = ⟨⟨taken.sensors, script⟩, taken.nb, taken.stored⟩ := by
  constructor
  · intro given
    simp only [Device.base] at given
    split at given
    · cases given
    · next answers script same =>
        split at given
        · next taken read =>
            cases given
            exact ⟨answers, script, taken, same, read, rfl⟩
        · cases given
  · rintro ⟨answers, script, taken, same, read, rfl⟩
    simp only [Device.base, same, read]
    rfl

/-- The drivers keep to the room they are given. -/
theorem Device.base_fitsRoom : Device.base.FitsRoom := by
  intro device i count room reading given
  obtain ⟨answers, script, taken, -, read, rfl⟩ := Device.mem_readEvents.mp given
  exact Drivers.readEvents_fitsRoom room read

/-- The account of the four drivers is right in every undisturbed call, whatever state
they are in and whatever is read. -/
theorem Device.accounts_pollEvents (context : PollContext Device) {count : ℤ} (room : 1 ≤ count)
    {polls : List (PollAnswer ActivateCall)} {final : PollLoop Device SensorsEvent × PollEnd}
    (reached : final ∈ context.pollEvents Device.base count polls)
    (undisturbed : Undisturbed final) : Accounts count final := by
  have kept := kept_pollEvents Device.base_fitsRoom context room reached
  apply accounts_of_undisturbed kept _ undisturbed
  intro nbEvents returned
  exact PollLoop.rounds_returned reached returned

end Msm8660.Sensors
