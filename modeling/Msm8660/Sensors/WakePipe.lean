import Msm8660.Sensors.PollContext

/-!
# The wake pipe

The thread of `pollEvents` sleeps in `poll` while no descriptor has anything. `activate` runs
in other threads and can leave an event in a driver that no descriptor shows, so it writes a
byte to a pipe that `poll` waits for as well. Here the threads take their steps in any order:
one driver of the `for` loop, one call of `poll`, one call of `enable`, one byte. A sleeping
`poll` misses no event of an enabled driver: whoever has made it is still about to write
(`no_lost_wake`). Events of a driver that is being switched off are not announced.
-/

set_option autoImplicit false

namespace Msm8660.Sensors

/-- Where the thread of `pollEvents` is. -/
inductive PollPlace where
  | outside
  /-- in the `for` loop, with the drivers to come -/
  | scanning (rest : List SensorDriver)
  /-- in front of `poll`, or asleep in it -/
  | polling
deriving DecidableEq

/-- The number of bytes that a pipe holds. -/
def pipeCapacity : ℕ := 65536

/-- The thread of `pollEvents` and what it shares with the others. -/
structure WakeSystem (S Event : Type*) where
  loop : PollLoop S Event
  place : PollPlace
  /-- the bytes in the pipe -/
  wakePipe : ℕ
  /-- the calls of `activate` between `enable` and `write` -/
  writing : ℕ

/-- One step of a thread. -/
inductive WakeInput (α : Type*) where
  | pollEvents (count : ℤ)
  | scan
  /-- `poll` looks at the descriptors; those of the drivers are as given. -/
  | poll (revents : SensorDriver → Bool)
  | pollFails (revents : SensorDriver → Bool)
  | enable (call : α)
  | write

/-- The framework asks for one event at least. -/
def WakeInput.HasRoom {α : Type*} : WakeInput α → Prop
  | .pollEvents count => 1 ≤ count
  | _ => True

section System

variable {S Event α : Type*} (base : SensorBase S Event α) (announces : S → α → Bool)

namespace WakeSystem

/-- One turn of the `for` loop, or its end. A call of `readEvents` that does not return keeps
the thread where it is. -/
def scan (system : WakeSystem S Event) : WakeSystem S Event :=
  match system.place with
  | .scanning [] =>
      { system with place := if system.loop.count ≠ 0 then .polling else .outside }
  | .scanning (i :: rest) =>
      match system.loop.readDriver base i with
      | some loop => { system with loop := loop, place := .scanning rest }
      | none => system
  | _ => system

/-- The number of descriptors that are ready, that of the pipe among them. -/
def ready (system : WakeSystem S Event) (revents : SensorDriver → Bool) : ℕ :=
  SensorDriver.all.countP revents + if system.wakePipe = 0 then 0 else 1

/-- `poll` with its timeout, and what follows it. -/
def poll (system : WakeSystem S Event) (revents : SensorDriver → Bool) : WakeSystem S Event :=
  match system.place with
  | .polling =>
      let loop := system.loop.polled base revents []
      if system.ready revents = 0 then
        if loop.nbEvents ≠ 0 then { system with loop := loop, place := .outside } else system
      else { system with
        loop := loop
        place := .scanning SensorDriver.all
        wakePipe := system.wakePipe - 1 }
  | _ => system

def step (system : WakeSystem S Event) : WakeInput α → WakeSystem S Event
  | .pollEvents count =>
      match system.place with
      | .outside => { system with
          loop := system.loop.toPollContext.start count
          place := .scanning SensorDriver.all }
      | _ => system
  | .scan => system.scan base
  | .poll revents => system.poll base revents
  | .pollFails revents =>
      match system.place with
      | .polling => { system with loop := system.loop.polled base revents [], place := .outside }
      | _ => system
  | .enable call => { system with
      loop := { system.loop with sensors := base.act system.loop.sensors call }
      writing := system.writing + if announces system.loop.sensors call then 1 else 0 }
  | .write =>
      if system.writing = 0 then system
      else { system with
        writing := system.writing - 1
        wakePipe := min (system.wakePipe + 1) pipeCapacity }

/-- Before the first call of `pollEvents`. -/
def start (context : PollContext S) : WakeSystem S Event where
  loop := context.start 0
  place := .outside
  wakePipe := 0
  writing := 0

/-- The thread cannot go on: `poll` has no timeout and nothing to return for, unless the
descriptor of a driver becomes ready. -/
def Asleep (system : WakeSystem S Event) : Prop :=
  system.place = .polling ∧ system.loop.nbEvents = 0 ∧ system.wakePipe = 0

end WakeSystem

/-- The threads as a machine. -/
def wakeSystem : Machine (WakeSystem S Event) (WakeInput α) Unit where
  step system input := (system.step base announces input, [])

end System

/-! ## The turns of the loop -/

section Scan

variable {S Event α : Type*} {base : SensorBase S Event α} (announces : S → α → Bool)

/-- The turns that are left, with nothing in between. -/
theorem run_scan (system : WakeSystem S Event) {loop after : PollLoop S Event}
    {drivers : List SensorDriver}
    (reached : after ∈ drivers.foldlM (PollLoop.readDriver base) loop) :
    (wakeSystem base announces).run { system with loop := loop, place := .scanning drivers }
        (List.replicate drivers.length .scan) =
      { system with loop := after, place := .scanning [] } := by
  induction drivers generalizing loop with
  | nil =>
      cases reached
      rfl
  | cons i rest ih =>
      obtain ⟨middle, early, late⟩ := Option.bind_eq_some_iff.mp reached
      have turn : (wakeSystem base announces).step
          { system with loop := loop, place := .scanning (i :: rest) } .scan =
          ({ system with loop := middle, place := .scanning rest }, []) := by
        simp only [wakeSystem, WakeSystem.step, WakeSystem.scan, early]
      rw [List.length_cons, List.replicate_succ, Machine.run_cons, turn]
      exact ih late

/-- The turns of an undisturbed `for` loop do what `readDrivers` does. -/
theorem run_readDrivers (system : WakeSystem S Event) {loop after : PollLoop S Event}
    (reached : after ∈ loop.readDrivers base) :
    (wakeSystem base announces).run
        { system with loop := loop, place := .scanning SensorDriver.all }
        (List.replicate 4 .scan) =
      { system with loop := after, place := .scanning [] } :=
  run_scan announces system reached

end Scan

/-! ## What is announced -/

section Announced

variable {S Event α : Type*} {base : SensorBase S Event α} {announces : S → α → Bool}
  {Waits : S → SensorDriver → Prop}

/-- The drivers that `Waits` tells of have an event that `pollEvents` takes when it comes by,
and that no call but one with an announcement makes. -/
structure Notifies (base : SensorBase S Event α) (announces : S → α → Bool)
    (Waits : S → SensorDriver → Prop) : Prop where
  room : base.FitsRoom
  pending : ∀ sensors i, Waits sensors i → base.hasPendingEvents sensors i = true
  taken : ∀ sensors i count, 1 ≤ count → ∀ reading ∈ base.readEvents sensors i count,
    ¬ Waits reading.sensors i ∧ ∀ j, Waits reading.sensors j → Waits sensors j
  silent : ∀ sensors call, announces sensors call = false → ∀ i,
    Waits (base.act sensors call) i → Waits sensors i

namespace WakeSystem

/-- The thread will come by the driver before it sleeps. -/
def WillScan (system : WakeSystem S Event) (i : SensorDriver) : Prop :=
  match system.place with
  | .outside => True
  | .scanning rest => i ∈ rest ∨ system.loop.count = 0
  | .polling => system.loop.nbEvents ≠ 0

/-- An event that waits is taken on the way to `poll`, or `poll` returns for a byte that is in
the pipe or that a thread is about to write. -/
structure Announced (Waits : S → SensorDriver → Prop) (system : WakeSystem S Event) : Prop where
  room : system.place ≠ .outside → 0 ≤ system.loop.count
  waits : ∀ i, Waits system.loop.sensors i →
    0 < system.wakePipe ∨ 0 < system.writing ∨ system.WillScan i

variable {system : WakeSystem S Event}

theorem announced_start (context : PollContext S) :
    (WakeSystem.start context : WakeSystem S Event).Announced Waits where
  room inside := absurd rfl inside
  waits _ _ := Or.inr (Or.inr trivial)

/-- One turn of the `for` loop. -/
theorem announced_readDriver (notifies : Notifies base announces Waits) {i : SensorDriver}
    {rest : List SensorDriver} {loop : PollLoop S Event}
    (place : system.place = .scanning (i :: rest))
    (announced : system.Announced Waits) (read : loop ∈ system.loop.readDriver base i) :
    Announced Waits { system with loop := loop, place := .scanning rest } := by
  have room : 0 ≤ system.loop.count := announced.room (by rw [place]; nofun)
  rcases PollLoop.readDriver_cases read with ⟨rfl, passed⟩ | ⟨reading, given, rfl, space, -⟩
  · refine ⟨fun _ => room, fun j waiting => ?_⟩
    rcases announced.waits j waiting with byte | writer | scanned
    · exact Or.inl byte
    · exact Or.inr (Or.inl writer)
    · refine Or.inr (Or.inr ?_)
      simp only [WillScan, place, List.mem_cons] at scanned ⊢
      rcases scanned with (rfl | later) | full
      · rcases passed with full | ⟨-, idle⟩
        · exact Or.inr full
        · exact absurd (notifies.pending _ _ waiting) (Bool.eq_false_iff.mp idle)
      · exact Or.inl later
      · exact Or.inr full
  · have some_ : 1 ≤ system.loop.count := by omega
    obtain ⟨gone, others⟩ := notifies.taken _ _ _ some_ reading given
    have fits := notifies.room _ _ _ some_ reading given
    constructor
    case room =>
      intro _
      simp only [PollLoop.take]
      rcases fits with ⟨-, stored, written⟩ | ⟨negative, -⟩ <;> omega
    case waits =>
      intro j waiting
      rcases announced.waits j (others j waiting) with byte | writer | scanned
      · exact Or.inl byte
      · exact Or.inr (Or.inl writer)
      · refine Or.inr (Or.inr (Or.inl ?_))
        simp only [WillScan, place, List.mem_cons] at scanned
        rcases scanned with (rfl | later) | full
        · exact absurd waiting gone
        · exact later
        · exact absurd full space

/-- **Every step keeps it**, whichever thread takes it. -/
theorem announced_step (notifies : Notifies base announces Waits)
    (announced : system.Announced Waits) {input : WakeInput α} (room : input.HasRoom) :
    (system.step base announces input).Announced Waits := by
  cases input with
  | pollEvents count =>
      simp only [step]
      split
      · refine ⟨fun _ => ?_, fun i _ => Or.inr (Or.inr (Or.inl i.mem_all))⟩
        exact Int.le_trans (by decide) room
      · exact announced
  | scan =>
      simp only [step, scan]
      split
      · next place =>
          have nonneg := announced.room (by rw [place]; nofun)
          refine ⟨fun _ => nonneg, fun i waiting => ?_⟩
          rcases announced.waits i waiting with byte | writer | scanned
          · exact Or.inl byte
          · exact Or.inr (Or.inl writer)
          · simp only [WillScan, place, List.not_mem_nil, false_or] at scanned
            refine Or.inr (Or.inr ?_)
            simp only [WillScan, scanned, ne_eq, not_true_eq_false, if_false]
      · next i rest place =>
          split
          · next loop read => exact announced_readDriver notifies place announced read
          · exact announced
      · exact announced
  | poll revents =>
      simp only [step, poll]
      split
      · next place =>
          have nonneg := announced.room (by rw [place]; nofun)
          split
          · split
            · exact ⟨fun inside => absurd rfl inside, fun _ _ => Or.inr (Or.inr trivial)⟩
            · exact announced
          · exact ⟨fun _ => nonneg, fun i _ => Or.inr (Or.inr (Or.inl i.mem_all))⟩
      · exact announced
  | pollFails revents =>
      simp only [step]
      split
      · exact ⟨fun inside => absurd rfl inside, fun _ _ => Or.inr (Or.inr trivial)⟩
      · exact announced
  | enable call =>
      refine ⟨announced.room, fun i waiting => ?_⟩
      simp only [step] at waiting ⊢
      cases told : announces system.loop.sensors call with
      | true =>
          simp only [if_true]
          exact Or.inr (Or.inl (Nat.succ_pos _))
      | false => exact announced.waits i (notifies.silent _ _ told i waiting)
  | write =>
      simp only [step]
      split
      · exact announced
      · refine ⟨announced.room, fun i _ => Or.inl ?_⟩
        simp only [pipeCapacity]
        omega

end WakeSystem

/-- In every run, a sleeping thread has a writer for every event that waits. -/
theorem run_announced (notifies : Notifies base announces Waits) (context : PollContext S)
    {inputs : List (WakeInput α)} (room : ∀ input ∈ inputs, input.HasRoom) :
    ((wakeSystem base announces).run (.start context) inputs).Announced Waits := by
  have kept : ∀ (system : WakeSystem S Event) (input : WakeInput α), system.Announced Waits →
      input.HasRoom → ((wakeSystem base announces).step system input).1.Announced Waits :=
    fun _ _ announced allowed => WakeSystem.announced_step notifies announced allowed
  exact Machine.run_induction kept (WakeSystem.announced_start context) room

theorem WakeSystem.Announced.writer {system : WakeSystem S Event}
    (announced : system.Announced Waits) (asleep : system.Asleep) {i : SensorDriver}
    (waiting : Waits system.loop.sensors i) :
    0 < system.writing := by
  obtain ⟨place, nothing, empty⟩ := asleep
  rcases announced.waits i waiting with byte | writer | scanned
  · omega
  · exact writer
  · rw [WakeSystem.WillScan, place] at scanned
    exact absurd nothing scanned

end Announced

/-! ## The four drivers -/

/-- The driver is enabled and holds an event that no descriptor shows. -/
def InputSensor.Waits (sensor : InputSensor) : Prop :=
  sensor.mHasPendingEvent = true ∧ sensor.mEnabled = true

/-- `AkmSensor` holds no such event. -/
def Drivers.Waits (drivers : Drivers) : SensorDriver → Prop
  | .light => drivers.light.Waits
  | .proximity => drivers.proximity.Waits
  | .akm => False
  | .gyro => drivers.gyro.toInputSensor.Waits

/-- "enabled && !err", where `activate` writes to the pipe. -/
def Device.announces (device : Device) (call : ActivateCall) : Bool :=
  decide (call.enabled ≠ 0) && decide ((device.drivers.activate call).2 = 0)

/-- A call of `enable` that switches off or fails makes no enabled driver wait. -/
theorem InputSensor.waits_of_enable {setInitialState : InputSensor → InputSensor}
    (keeps : ∀ sensor, (setInitialState sensor).mEnabled = sensor.mEnabled)
    {sensor : InputSensor} {en : ℤ} {answers : EnableAnswers}
    (silent : en = 0 ∨ (sensor.enable setInitialState en answers).2 ≠ 0)
    (waiting : (sensor.enable setInitialState en answers).1.Waits) : sensor.Waits := by
  unfold InputSensor.enable at silent waiting
  dsimp only at silent waiting
  split at waiting
  · next changes =>
      rw [if_pos changes] at silent
      split at waiting
      · next opened =>
          rw [if_pos opened] at silent
          have off : en = 0 := silent.resolve_right fun fails => fails rfl
          have enabled := waiting.2
          rw [keeps] at enabled
          simp [off] at enabled
      · exact waiting
  · exact waiting

theorem ProximitySensor.setInitialState_mEnabled (answers : EnableAnswers)
    (sensor : InputSensor) : (setInitialState answers sensor).mEnabled = sensor.mEnabled := by
  unfold setInitialState
  split <;> rfl

theorem GyroSensor.setInitialState_mEnabled (answers : EnableAnswers) (sensor : InputSensor) :
    (setInitialState answers sensor).mEnabled = sensor.mEnabled := by
  unfold setInitialState
  split <;> rfl

/-- A call of `enable` that is not announced makes no driver wait. -/
theorem Drivers.waits_of_enable {drivers : Drivers} {j : SensorDriver} {call : ActivateCall}
    (silent : call.enabled = 0 ∨ (drivers.enable j call).2 ≠ 0) {i : SensorDriver}
    (waiting : (drivers.enable j call).1.Waits i) : drivers.Waits i := by
  cases j with
  | light =>
      cases i with
      | light => exact InputSensor.waits_of_enable (fun _ => rfl) silent waiting
      | proximity => exact waiting
      | akm => exact waiting
      | gyro => exact waiting
  | proximity =>
      cases i with
      | light => exact waiting
      | proximity =>
          exact InputSensor.waits_of_enable
            (ProximitySensor.setInitialState_mEnabled call.answers) silent waiting
      | akm => exact waiting
      | gyro => exact waiting
  | akm =>
      cases i with
      | light => exact waiting
      | proximity => exact waiting
      | akm => exact waiting
      | gyro => exact waiting
  | gyro =>
      cases i with
      | light => exact waiting
      | proximity => exact waiting
      | akm => exact waiting
      | gyro =>
          exact InputSensor.waits_of_enable
            (GyroSensor.setInitialState_mEnabled call.answers) silent waiting

section Taken

variable {update : SensorsEvent → InputEvent → SensorsEvent} {reports : ℤ → Bool}

theorem ReadLoop.handle_mHasPendingEvent (loop : ReadLoop InputSensor) (event : InputEvent) :
    (loop.handle update reports event).sensor.mHasPendingEvent =
      loop.sensor.mHasPendingEvent := by
  unfold ReadLoop.handle
  dsimp only
  split
  · split <;> rfl
  · rfl

theorem ReadLoop.readWhile_mHasPendingEvent (fuel : ℕ) (loop : ReadLoop InputSensor) :
    (loop.readWhile update reports fuel).sensor.mHasPendingEvent =
      loop.sensor.mHasPendingEvent := by
  induction fuel generalizing loop with
  | zero => rfl
  | succ fuel ih =>
      unfold ReadLoop.readWhile
      split
      · rfl
      · split
        · rfl
        · exact (ih _).trans (loop.handle_mHasPendingEvent _)

theorem GyroSensor.again_mHasPendingEvent {fuel : ℕ} {loop after : ReadLoop InputSensor}
    {reads rest : List ReadResult} (ended : again reports fuel loop reads = some (after, rest)) :
    after.sensor.mHasPendingEvent = loop.sensor.mHasPendingEvent := by
  induction fuel generalizing loop reads with
  | zero => cases ended
  | succ fuel ih =>
      have received : (loop.receive GyroSensor.update reports).sensor.mHasPendingEvent =
          loop.sensor.mHasPendingEvent := loop.readWhile_mHasPendingEvent _
      unfold again at ended
      dsimp only at ended
      split at ended
      · split at ended
        · cases ended
        · split at ended
          · exact (ih ended).trans received
          · cases ended
            exact received
      · cases ended
        exact received

/-- No event is held back behind a call of `readEvents`. -/
theorem InputSensor.readEvents_takes
    {receive : ReadLoop InputSensor → List ReadResult →
      Option (ReadLoop InputSensor × List ReadResult)}
    (keeps : ∀ loop reads after rest, receive loop reads = some (after, rest) →
      after.sensor.mHasPendingEvent = loop.sensor.mHasPendingEvent)
    {sensor : InputSensor} {count : ℤ} {answers : ReadAnswers}
    {reading : Reading InputSensor SensorsEvent} {rest : List ReadResult} (room : 1 ≤ count)
    (read : sensor.readEvents receive count answers = some (reading, rest)) :
    ¬ reading.sensors.Waits := by
  rintro ⟨held, -⟩
  unfold InputSensor.readEvents at read
  rw [if_neg (by omega)] at read
  split at read
  · cases read
    cases held
  · next pending =>
      split at read
      · cases read
      · dsimp only at read
        split at read
        · cases read
          exact pending held
        · split at read
          · cases read
          · next received =>
              cases read
              exact pending ((keeps _ _ _ _ received).symm.trans held)

/-- A call of `readEvents` takes what its driver holds back and leaves the others. -/
theorem Drivers.readEvents_takes {drivers : Drivers} {i : SensorDriver} {count : ℤ}
    {answers : ReadAnswers} {reading : Reading Drivers SensorsEvent} {rest : List ReadResult}
    (room : 1 ≤ count) (read : drivers.readEvents i count answers = some (reading, rest)) :
    ¬ reading.sensors.Waits i ∧ ∀ j, reading.sensors.Waits j → drivers.Waits j := by
  cases i with
  | light =>
      obtain ⟨⟨reading, rest⟩, given, same⟩ := Option.map_eq_some_iff.mp read
      cases same
      have gone : ¬ reading.sensors.Waits :=
        InputSensor.readEvents_takes (fun loop _ _ _ ended => by
          cases ended
          exact loop.readWhile_mHasPendingEvent _) room given
      refine ⟨gone, fun j waiting => ?_⟩
      cases j with
      | light => exact absurd waiting gone
      | proximity => exact waiting
      | akm => exact waiting
      | gyro => exact waiting
  | proximity =>
      obtain ⟨⟨reading, rest⟩, given, same⟩ := Option.map_eq_some_iff.mp read
      cases same
      have gone : ¬ reading.sensors.Waits :=
        InputSensor.readEvents_takes (fun loop _ _ _ ended => by
          cases ended
          exact loop.readWhile_mHasPendingEvent _) room given
      refine ⟨gone, fun j waiting => ?_⟩
      cases j with
      | light => exact waiting
      | proximity => exact absurd waiting gone
      | akm => exact waiting
      | gyro => exact waiting
  | akm =>
      obtain ⟨⟨reading, rest, calls⟩, given, same⟩ := Option.map_eq_some_iff.mp read
      cases same
      refine ⟨id, fun j waiting => ?_⟩
      cases j with
      | light => exact waiting
      | proximity => exact waiting
      | akm => exact waiting
      | gyro => exact waiting
  | gyro =>
      obtain ⟨⟨reading, rest⟩, given, same⟩ := Option.map_eq_some_iff.mp read
      cases same
      unfold GyroSensor.readEvents at given
      split at given
      · cases given
      · next read =>
          cases given
          have gone := InputSensor.readEvents_takes
            (fun _ _ _ _ ended => GyroSensor.again_mHasPendingEvent ended) room read
          refine ⟨gone, fun j waiting => ?_⟩
          cases j with
          | light => exact waiting
          | proximity => exact waiting
          | akm => exact waiting
          | gyro => exact absurd waiting gone

end Taken

theorem Device.notifies :
    Notifies Device.base Device.announces fun device i => device.drivers.Waits i where
  room := Device.base_fitsRoom
  pending device i waiting := by
    cases i with
    | light => exact waiting.1
    | proximity => exact waiting.1
    | akm => exact absurd waiting id
    | gyro => exact waiting.1
  taken device i count room reading given := by
    obtain ⟨answers, script, taken, -, read, rfl⟩ := Device.mem_readEvents.mp given
    exact Drivers.readEvents_takes room read
  silent device call silent i waiting := by
    have quiet : call.enabled = 0 ∨ (device.drivers.activate call).2 ≠ 0 := by
      simpa [Device.announces, Decidable.or_iff_not_imp_left] using silent
    simp only [Device.base] at waiting
    unfold Drivers.activate at quiet waiting
    cases driver : handleToDriver call.handle with
    | none =>
        rw [driver] at waiting
        exact waiting
    | some j =>
        rw [driver] at quiet waiting
        exact Drivers.waits_of_enable quiet waiting

/-- The threads after these steps, from the constructor on. -/
def Construction.threads (construction : Construction) (script : List ReadAnswers)
    (inputs : List (WakeInput ActivateCall)) : WakeSystem Device SensorsEvent :=
  (wakeSystem Device.base Device.announces).run (.start (construction.context script)) inputs

/-- Nothing is opened by the constructors. -/
def closedConstruction : Construction where
  mBuffer _ _ := ⟨⟨0, 0⟩, 0, 0, 0⟩
  enables _ := ⟨false, 0, fun _ => none, 0⟩
  isEnabled _ := false
  absinfo _ := none
  library := 0

/-- The proximity sensor is enabled while the other thread sleeps. -/
def enabledAsleep : List (WakeInput ActivateCall) :=
  [.pollEvents 1, .scan, .scan, .scan, .scan, .scan,
    .enable ⟨idP, 1, ⟨true, 0, fun _ => some 1, 0⟩⟩]

end Msm8660.Sensors
