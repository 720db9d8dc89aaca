import Msm8660.Sensors.PollContext

/-!
# Stranded events

The next `pollEvents` should read what a driver still holds without waiting for the
kernel (`NothingStranded`). `pollEvents` clears the flag of a driver that returns fewer
events than it was given room for. The drivers do so while events are unread in two
cases (`strands_iff`): a pending event goes first and alone (`HoldsBack`), and events
that the gyroscope skips use up room (`Skips`). In a run without such a call nothing is
ever stranded (`nothingStranded`).
-/

set_option autoImplicit false

namespace Msm8660.Sensors

/-! ## One call -/

/-- A pending event is reported alone, with room for more, while events are unread. -/
def HoldsBack (sensor : InputSensor) (count : ℤ) : Prop :=
  sensor.mHasPendingEvent = true ∧ sensor.mInputReader.content ≠ [] ∧
    ¬ (sensor.mEnabled = true ∧ count = 1)

instance (sensor : InputSensor) (count : ℤ) : Decidable (HoldsBack sensor count) :=
  inferInstanceAs (Decidable (_ ∧ _ ∧ ¬ _))

/-- Some of the sync events that use up the room are skipped, and there are events behind
them. -/
def Skips (reports : ℤ → Bool) (sensor : InputSensor) (count : ℤ)
    (delivered : List InputEvent) : Prop :=
  sensor.mHasPendingEvent = false ∧ sensor.mEnabled = true ∧
    ∃ k < (sensor.mInputReader.content ++ delivered).length,
      (syncs ((sensor.mInputReader.content ++ delivered).take k) : ℤ) = count ∧
      ∃ event ∈ (sensor.mInputReader.content ++ delivered).take k,
        event.type = evSyn ∧ reports (timevalToNano event.time) = false

instance (reports : ℤ → Bool) (sensor : InputSensor) (count : ℤ) (delivered : List InputEvent) :
    Decidable (Skips reports sensor count delivered) :=
  inferInstanceAs (Decidable (_ ∧ _ ∧ ∃ _ < _, _))

theorem reportedSyncs_lt {reports : ℤ → Bool} {events : List InputEvent} {event : InputEvent}
    (member : event ∈ events) (sync : event.type = evSyn)
    (skipped : reports (timevalToNano event.time) = false) :
    reportedSyncs reports events < syncs events := by
  obtain ⟨earlier, later, rfl⟩ := List.append_of_mem member
  have before := reportedSyncs_le reports earlier
  have behind := reportedSyncs_le reports later
  have here : reportedSyncs reports (event :: later) = reportedSyncs reports later := by
    simp [reportedSyncs, skipped]
  have counted : syncs (event :: later) = syncs later + 1 := by
    simp [syncs, sync]
  rw [reportedSyncs_append, syncs_append, here, counted]
  omega

section Call

variable {reports : ℤ → Bool}
  {receive : ReadLoop InputSensor → List ReadResult →
    Option (ReadLoop InputSensor × List ReadResult)}
  {sensor : InputSensor} {count : ℤ} {answers : ReadAnswers}
  {reading : Reading InputSensor SensorsEvent}

/-- A pending event is returned alone. -/
theorem holdsBack_iff (pending : sensor.mHasPendingEvent = true) (room : 1 ≤ count) :
    (if sensor.mEnabled then 1 else 0) < count ∧ sensor.mInputReader.content ≠ [] ↔
      HoldsBack sensor count := by
  unfold HoldsBack
  by_cases enabled : sensor.mEnabled = true
  · rw [if_pos enabled]
    constructor
    · rintro ⟨fewer, unread⟩
      refine ⟨pending, unread, fun full => ?_⟩
      omega
    · rintro ⟨-, unread, more⟩
      have more : count ≠ 1 := fun full => more ⟨enabled, full⟩
      exact ⟨by omega, unread⟩
  · rw [if_neg enabled]
    exact ⟨fun ⟨_, unread⟩ => ⟨pending, unread, fun full => enabled full.1⟩,
      fun ⟨_, unread, _⟩ => ⟨by omega, unread⟩⟩

/-- A sync event among the first events is among those that are handled, if there are no
more sync events than in these. -/
theorem mem_of_mem_take {handled unread : List InputEvent} {k : ℕ} {event : InputEvent}
    (full : syncs ((handled ++ unread).take k) ≤ syncs handled)
    (member : event ∈ (handled ++ unread).take k) (sync : event.type = evSyn) :
    event ∈ handled := by
  rw [List.take_append, List.mem_append] at member
  rcases member with early | late
  · exact List.mem_of_mem_take early
  · have whole : handled.take k = handled := by
      apply List.take_of_length_le
      by_contra short
      rw [Nat.sub_eq_zero_of_le (by omega), List.take_zero] at late
      exact absurd late List.not_mem_nil
    rw [List.take_append, whole, syncs_append] at full
    have counted : 0 < syncs (unread.take (k - handled.length)) :=
      List.countP_pos_iff.mpr ⟨event, late, by simpa using sync⟩
    omega

/-- What is received leaves events unread, though there was room, where sync events have
used up the room without being reported. -/
theorem Received.skips_iff {delivered handled : List InputEvent}
    (received : Received reports sensor count delivered handled reading)
    (none : sensor.mHasPendingEvent = false) :
    reading.nb < count ∧ reading.sensors.mInputReader.content ≠ [] ↔
      Skips reports sensor count delivered := by
  constructor
  · rintro ⟨fewer, unread⟩
    have ends := received.ends.resolve_right unread
    have reported := received.reported
    have enabled : sensor.mEnabled = true := by
      by_contra disabled
      rw [if_neg disabled] at ends
      omega
    rw [if_pos enabled] at ends reported
    have behind := List.length_pos_iff.mpr unread
    refine ⟨none, enabled, handled.length, ?_, ?_⟩
    · rw [received.events, List.length_append]
      omega
    · rw [received.events, List.take_left]
      exact ⟨ends, exists_skipped (by omega)⟩
  · rintro ⟨-, enabled, k, inside, full, event, member, sync, skipped⟩
    rw [received.events] at inside full member
    have ends := received.ends
    have reported := received.reported
    have space := received.room
    rw [if_pos enabled] at ends reported space
    have unread : reading.sensors.mInputReader.content ≠ [] := by
      intro empty
      rw [empty, List.append_nil] at inside full
      have early := received.needed enabled (handled.take k) (handled.drop k)
        (List.take_append_drop k handled).symm (by simp; omega)
      omega
    have ends := ends.resolve_right unread
    refine ⟨?_, unread⟩
    have fewer := reportedSyncs_lt (mem_of_mem_take (by omega) member sync) sync skipped
    omega

/-- **Exactly in the two cases** does a driver return fewer events than it was given room
for while it holds unread ones. -/
theorem strands_iff (receives : Receives reports receive) (order : sensor.mInputReader.InOrder)
    (room : 1 ≤ count) (succeed : ∀ result ∈ answers.reads, result.succeeds = true)
    (read : sensor.readEvents receive count answers = some (reading, [])) :
    reading.nb < count ∧ reading.sensors.mInputReader.content ≠ [] ↔
      HoldsBack sensor count ∨
        Skips reports sensor count (answers.reads.flatMap ReadResult.delivered) := by
  rcases sensor.readEvents_cases receives order room read with
    ⟨pending, -, reader, -, number, -⟩ | ⟨none, ⟨-, -, -, -, result, member, fails⟩ |
      ⟨delivered, handled, received, left⟩⟩
  · rw [reader, number, or_iff_left (fun skips => absurd (skips.1.symm.trans pending) nofun)]
    exact holdsBack_iff pending room
  · rw [succeed result member] at fails
    cases fails
  · rw [List.flatMap_nil, List.append_nil] at left
    rw [or_iff_right (fun holds => absurd (holds.1.symm.trans none) nofun), left]
    exact received.skips_iff none

/-- What `pollEvents` needs to know of a call of `readEvents`. -/
theorem InputSensor.readEvents_drains (receives : Receives reports receive)
    (order : sensor.mInputReader.InOrder) (room : 1 ≤ count)
    (succeed : ∀ result ∈ answers.reads, result.succeeds = true)
    (read : sensor.readEvents receive count answers = some (reading, [])) :
    reading.sensors.mInputReader.InOrder ∧ reading.nb ≤ count ∧
      (sensor.mHasPendingEvent = true →
        reading.sensors.mInputReader.content = sensor.mInputReader.content) ∧
      (¬ (HoldsBack sensor count ∨
          Skips reports sensor count (answers.reads.flatMap ReadResult.delivered)) →
        reading.nb < count → reading.sensors.mInputReader.content = []) := by
  have drained : ¬ (HoldsBack sensor count ∨
      Skips reports sensor count (answers.reads.flatMap ReadResult.delivered)) →
      reading.nb < count → reading.sensors.mInputReader.content = [] := by
    intro spared fewer
    by_contra unread
    exact spared ((strands_iff receives order room succeed read).mp ⟨fewer, unread⟩)
  rcases sensor.readEvents_cases receives order room read with
    ⟨-, -, reader, -, number, -⟩ | ⟨none, ⟨order', -, negative, -⟩ |
      ⟨delivered, handled, received, -⟩⟩
  · refine ⟨by rwa [reader], ?_, fun _ => by rw [reader], drained⟩
    rw [number]
    split <;> omega
  · exact ⟨order', by omega, fun pending => absurd (pending.symm.trans none) nofun, drained⟩
  · refine ⟨received.order, ?_, fun pending => absurd (pending.symm.trans none) nofun, drained⟩
    have reported := received.reported
    have space := received.room
    have fewer := reportedSyncs_le reports handled
    split at reported <;> split at space <;> omega

/-- A driver that reports every sync event skips none. -/
theorem not_skips_always (sensor : InputSensor) (count : ℤ) (delivered : List InputEvent) :
    ¬ Skips (fun _ => true) sensor count delivered := by
  rintro ⟨-, -, k, -, -, event, -, -, skipped⟩
  cases skipped

/-- The same of a driver that reports every sync event. -/
theorem InputSensor.readEvents_drains_always (receives : Receives (fun _ => true) receive)
    (order : sensor.mInputReader.InOrder) (room : 1 ≤ count)
    (succeed : ∀ result ∈ answers.reads, result.succeeds = true)
    (read : sensor.readEvents receive count answers = some (reading, [])) :
    reading.sensors.mInputReader.InOrder ∧ reading.nb ≤ count ∧
      (sensor.mHasPendingEvent = true →
        reading.sensors.mInputReader.content = sensor.mInputReader.content) ∧
      (¬ HoldsBack sensor count → reading.nb < count →
        reading.sensors.mInputReader.content = []) := by
  obtain ⟨order, fits, held, drained⟩ := readEvents_drains receives order room succeed read
  refine ⟨order, fits, held, fun spared => drained ?_⟩
  rintro (holds | skips)
  · exact spared holds
  · exact not_skips_always sensor count _ skips

end Call

/-! ## Any drivers -/

section Flags

variable {S Event α : Type*}

/-- What is asked of drivers with a notion of unread events, where `Strands` tells the
calls of `readEvents` that do not drain them. -/
structure Drains (base : SensorBase S Event α) (Good : S → Prop)
    (unread : S → SensorDriver → Prop) (Strands : ReadCall S Event → Prop) : Prop where
  reads : ∀ s i count, Good s → 1 ≤ count → ∀ reading ∈ base.readEvents s i count,
    Good reading.sensors ∧ reading.nb ≤ count ∧
      (∀ j ≠ i, unread reading.sensors j → unread s j) ∧
      (base.hasPendingEvents s i = true → unread reading.sensors i → unread s i) ∧
      (¬ Strands ⟨s, i, count, reading.nb, reading.stored⟩ → reading.nb < count →
        ¬ unread reading.sensors i)
  acts : ∀ s call, Good s →
    Good (base.act s call) ∧ ∀ i, unread (base.act s call) i → unread s i

/-- While no call has stranded events, a driver with unread ones has its flag, and one
that the `for` loop has come by has none as long as there is room. -/
structure Flagged (Good : S → Prop) (unread : S → SensorDriver → Prop)
    (Strands : ReadCall S Event → Prop) (visited : List SensorDriver)
    (loop : PollLoop S Event) : Prop where
  good : Good loop.sensors
  room : 0 ≤ loop.count
  flagged : (∀ call ∈ loop.calls, ¬ Strands call) →
    ∀ i, unread loop.sensors i → loop.revents i = true
  drained : (∀ call ∈ loop.calls, ¬ Strands call) → loop.count ≠ 0 →
    ∀ i ∈ visited, ¬ unread loop.sensors i

variable {base : SensorBase S Event α} {Good : S → Prop} {unread : S → SensorDriver → Prop}
  {Strands : ReadCall S Event → Prop}

theorem Flagged.readDriver (drains : Drains base Good unread Strands)
    {visited : List SensorDriver} {loop : PollLoop S Event}
    (flagged : Flagged Good unread Strands visited loop) {i : SensorDriver}
    {after : PollLoop S Event} (turn : after ∈ loop.readDriver base i) :
    Flagged Good unread Strands (visited ++ [i]) after := by
  rcases PollLoop.readDriver_cases turn with ⟨rfl, idle⟩ | ⟨reading, given, rfl, space, asked⟩
  · refine ⟨flagged.good, flagged.room, flagged.flagged, fun spared space j member => ?_⟩
    rcases List.mem_append.mp member with early | last
    · exact flagged.drained spared space j early
    · rw [List.mem_singleton.mp last]
      intro left
      obtain ⟨quiet, -⟩ := idle.resolve_left space
      exact absurd (flagged.flagged spared i left) (by simp [quiet])
  · have nonneg := flagged.room
    obtain ⟨good, fits, others, held, drained⟩ :=
      drains.reads loop.sensors i loop.count flagged.good (by omega) reading given
    have split : (∀ call ∈ (loop.take i reading).calls, ¬ Strands call) →
        (∀ call ∈ loop.calls, ¬ Strands call) ∧
          ¬ Strands ⟨loop.sensors, i, loop.count, reading.nb, reading.stored⟩ := fun spared =>
      ⟨fun call member => spared call (List.mem_append_left _ member),
        spared _ (List.mem_append_right _ (List.mem_singleton.mpr rfl))⟩
    constructor
    case good => exact good
    case room =>
      simp only [PollLoop.take]
      omega
    case flagged =>
      intro spared j left
      obtain ⟨before, here⟩ := split spared
      have flags := flagged.flagged before
      simp only [PollLoop.take] at left ⊢
      by_cases same : j = i
      · subst same
        -- the flag is kept, for otherwise the driver would be drained
        have full : ¬ reading.nb < loop.count := fun fewer => drained here fewer left
        rw [if_neg full]
        rcases asked with flag | pending
        · exact flag
        · exact flags j (held pending left)
      · have flag := flags j (others j same left)
        split
        · rw [Function.update_of_ne same, flag]
        · exact flag
    case drained =>
      intro spared space' j member left
      obtain ⟨before, here⟩ := split spared
      simp only [PollLoop.take] at left space'
      by_cases same : j = i
      · subst same
        exact drained here (by omega) left
      · rcases List.mem_append.mp member with early | last
        · exact flagged.drained before space j early (others j same left)
        · exact same (List.mem_singleton.mp last)

theorem Flagged.acts (drains : Drains base Good unread Strands) {s : S} (good : Good s)
    (calls : List α) :
    Good (calls.foldl base.act s) ∧ ∀ i, unread (calls.foldl base.act s) i → unread s i := by
  induction calls generalizing s with
  | nil => exact ⟨good, fun _ left => left⟩
  | cons call rest ih =>
      obtain ⟨good, left⟩ := drains.acts s call good
      obtain ⟨good', left'⟩ := ih good
      exact ⟨good', fun i later => left i (left' i later)⟩

/-- What `poll` answers makes no difference, for all drivers are drained by then. -/
theorem Flagged.polled (drains : Drains base Good unread Strands) {loop : PollLoop S Event}
    (flagged : Flagged Good unread Strands SensorDriver.all loop) (space : loop.count ≠ 0)
    (revents : SensorDriver → Bool) (meanwhile : List α) :
    Flagged Good unread Strands [] (loop.polled base revents meanwhile) := by
  obtain ⟨good, left⟩ := Flagged.acts drains flagged.good meanwhile
  refine ⟨good, flagged.room, fun spared i later => ?_, fun _ _ _ member =>
    absurd member List.not_mem_nil⟩
  exact absurd (left i later) (flagged.drained spared space i i.mem_all)

/-- **The flags are right at the end of `pollEvents`** when they were at its start and no
call of it has stranded events. -/
theorem flagged_pollEvents (drains : Drains base Good unread Strands) {context : PollContext S}
    (good : Good context.sensors)
    (flags : ∀ i, unread context.sensors i → context.revents i = true) {count : ℤ}
    (room : 1 ≤ count) {polls : List (PollAnswer α)} {final : PollLoop S Event × PollEnd}
    (reached : final ∈ context.pollEvents base count polls) :
    Flagged Good unread Strands [] final.1 := by
  refine PollLoop.rounds_induction (Flagged Good unread Strands [])
    (Flagged Good unread Strands SensorDriver.all) ?_ ?_ ?_ ?_ reached
  · intro loop flagged after reads
    exact PollLoop.readDrivers_induction (Flagged Good unread Strands)
      (fun visited i loop flagged after turn => flagged.readDriver drains turn) flagged reads
  · intro loop flagged
    exact ⟨flagged.good, flagged.room, flagged.flagged, fun _ _ _ member =>
      absurd member List.not_mem_nil⟩
  · intro loop revents meanwhile flagged space
    exact flagged.polled drains space revents meanwhile
  · refine ⟨good, ?_, fun _ => flags, fun _ _ _ member => absurd member List.not_mem_nil⟩
    simp only [PollContext.start]
    omega

end Flags

/-! ## The four drivers -/

/-- The calls of `readEvents` that strand events: those of light and proximity sensor
and gyroscope hold them back, and those of the gyroscope may skip some. -/
def Strands (call : ReadCall Device SensorsEvent) : Prop :=
  match call.driver with
  | .light => HoldsBack call.before.drivers.light call.count
  | .proximity => HoldsBack call.before.drivers.proximity call.count
  | .akm => False
  | .gyro => HoldsBack call.before.drivers.gyro.toInputSensor call.count ∨
      ∃ answers ∈ call.before.script.head?,
        Skips (call.before.drivers.gyro.mEnabledTime ≤ ·) call.before.drivers.gyro.toInputSensor
          call.count (answers.reads.flatMap ReadResult.delivered)

instance : (call : ReadCall Device SensorsEvent) → Decidable (Strands call)
  | ⟨_, .light, _, _, _⟩ => inferInstanceAs (Decidable (HoldsBack _ _))
  | ⟨_, .proximity, _, _, _⟩ => inferInstanceAs (Decidable (HoldsBack _ _))
  | ⟨_, .akm, _, _, _⟩ => inferInstanceAs (Decidable False)
  | ⟨before, .gyro, _, _, _⟩ => inferInstanceAs
      (Decidable (HoldsBack _ _ ∨ ∃ answers ∈ before.script.head?, Skips _ _ _ _))

/-- The readers are in order, and no `read` to come fails. -/
structure Device.Good (device : Device) : Prop where
  order : ∀ i, (device.drivers.reader i).InOrder
  succeed : ∀ answers ∈ device.script, ∀ result ∈ answers.reads, result.succeeds = true

/-- The driver holds an unread event. -/
def Device.unread (device : Device) (i : SensorDriver) : Prop :=
  (device.drivers.reader i).content ≠ []

/-- What a call of `readEvents` does to the readers. -/
theorem Device.readEvents_drains {device : Device} {i : SensorDriver} {count : ℤ}
    {answers : ReadAnswers} {script : List ReadAnswers} {reading : Reading Drivers SensorsEvent}
    (good : device.Good) (room : 1 ≤ count) (next : device.script = answers :: script)
    (read : device.drivers.readEvents i count answers = some (reading, [])) :
    (∀ j ≠ i, reading.sensors.reader j = device.drivers.reader j) ∧
      (reading.sensors.reader i).InOrder ∧ reading.nb ≤ count ∧
      (device.drivers.hasPendingEvents i = true →
        (reading.sensors.reader i).content = (device.drivers.reader i).content) ∧
      (¬ Strands ⟨device, i, count, reading.nb, reading.stored⟩ → reading.nb < count →
        (reading.sensors.reader i).content = []) := by
  have succeed : ∀ result ∈ answers.reads, result.succeeds = true :=
    good.succeed answers (by rw [next]; exact List.mem_cons_self)
  cases i with
  | light =>
      obtain ⟨⟨reading, rest⟩, given, same⟩ := Option.map_eq_some_iff.mp read
      cases same
      refine ⟨fun j other => ?_, InputSensor.readEvents_drains_always (receives_while _)
        (good.order .light) room succeed given⟩
      cases j <;> first | rfl | exact absurd rfl other
  | proximity =>
      obtain ⟨⟨reading, rest⟩, given, same⟩ := Option.map_eq_some_iff.mp read
      cases same
      refine ⟨fun j other => ?_, InputSensor.readEvents_drains_always (receives_while _)
        (good.order .proximity) room succeed given⟩
      cases j <;> first | rfl | exact absurd rfl other
  | akm =>
      obtain ⟨⟨reading, rest, calls⟩, given, same⟩ := Option.map_eq_some_iff.mp read
      cases same
      obtain ⟨order, ends⟩ := AkmSensor.readEvents_cases (good.order .akm) room given
      have ends : reading.nb = count ∨ reading.sensors.mInputReader.content = [] := by
        rcases ends with ⟨-, result, member, fails⟩ | ends
        · rw [succeed result member] at fails
          cases fails
        · exact ends
      have fits := AkmSensor.readEvents_fitsRoom room given
      refine ⟨fun j other => ?_, order, ?_, fun pending => ?_, fun _ fewer => ?_⟩
      · cases j <;> first | rfl | exact absurd rfl other
      · rcases fits with ⟨-, stored, fit⟩ | ⟨negative, -⟩
        · exact Int.le_trans stored fit
        · dsimp only
          omega
      · cases pending
      · apply ends.resolve_left
        intro full
        dsimp only at fewer
        omega
  | gyro =>
      obtain ⟨⟨reading, rest⟩, given, same⟩ := Option.map_eq_some_iff.mp read
      cases same
      unfold GyroSensor.readEvents at given
      split at given
      · cases given
      · next read =>
          cases given
          obtain ⟨order, fits, held, drained⟩ := InputSensor.readEvents_drains
            (receives_again _) (good.order .gyro) room succeed read
          refine ⟨fun j other => ?_, order, fits, held, fun spared => drained ?_⟩
          · cases j <;> first | rfl | exact absurd rfl other
          · rintro (holds | skips)
            · exact spared (Or.inl holds)
            · exact spared (Or.inr ⟨answers, by rw [next]; rfl, skips⟩)

theorem Device.drains : Drains Device.base Device.Good Device.unread Strands where
  reads := by
    intro device i count good room reading given
    obtain ⟨answers, script, taken, next, read, rfl⟩ := Device.mem_readEvents.mp given
    obtain ⟨others, order, fits, held, drained⟩ :=
      Device.readEvents_drains good room next read
    refine ⟨⟨fun j => ?_, fun answers member => good.succeed answers ?_⟩, fits, ?_, ?_, ?_⟩
    · by_cases same : j = i
      · rw [same]
        exact order
      · rw [others j same]
        exact good.order j
    · rw [next]
      exact List.mem_cons_of_mem _ member
    · intro j other left
      rwa [Device.unread, others j other] at left
    · intro pending left
      rwa [Device.unread, held pending] at left
    · intro spared fewer left
      exact left (drained spared fewer)
  acts := by
    intro device call good
    have same : ∀ i, (Device.base.act device call).drivers.reader i = device.drivers.reader i :=
      device.drivers.activate_reader call
    refine ⟨⟨fun i => ?_, good.succeed⟩, fun i left => ?_⟩
    · rw [same]
      exact good.order i
    · rwa [Device.unread, same] at left

/-! ## Runs -/

/-- **Nothing is stranded**: a driver that still holds an unread event, or whose pending
event is set, has `POLLIN` in its `revents` or says that it has pending events. -/
def NothingStranded (context : PollContext Device) : Prop :=
  ∀ i, (context.sensors.drivers.reader i).readEvent.isSome = true ∨
      context.sensors.drivers.pendingFlag i = true →
    context.revents i = true ∨ context.sensors.drivers.hasPendingEvents i = true

/-- A driver with unread events has its flag. -/
structure PollContext.AllFlagged (context : PollContext Device) : Prop where
  good : context.sensors.Good
  flagged : ∀ i, context.sensors.unread i → context.revents i = true

theorem PollContext.AllFlagged.holds {context : PollContext Device}
    (flagged : context.AllFlagged) : NothingStranded context := by
  rintro i (unread | pending)
  · refine Or.inl (flagged.flagged i fun empty => ?_)
    rw [(InputEventCircularReader.readEvent_eq_none_iff (flagged.good.order i)).mpr empty] at unread
    cases unread
  · refine Or.inr ?_
    cases i <;> exact pending

theorem Construction.allFlagged (construction : Construction) {script : List ReadAnswers}
    (succeed : ∀ answers ∈ script, ∀ result ∈ answers.reads, result.succeeds = true) :
    (construction.context script).AllFlagged := by
  refine ⟨⟨fun i => ?_, succeed⟩, fun i unread => ?_⟩
  · obtain ⟨numEvents, capacity, new⟩ := construction.drivers_reader i
    exact new ▸ InputEventCircularReader.inOrder_new capacity _
  · obtain ⟨numEvents, capacity, new⟩ := construction.drivers_reader i
    exact absurd (new ▸ InputEventCircularReader.content_new numEvents _) unread

/-- A step that strands nothing keeps the flags right. -/
theorem sensorsPollContext_allFlagged {state : Option (PollContext Device)} {call : ContextCall}
    (flagged : ∀ context ∈ state, context.AllFlagged)
    (counts : ∀ count polls, call = .pollEvents count polls → 1 ≤ count)
    (spared : ∀ read ∈ (sensorsPollContext.stepOn state call).outputs, ¬ Strands read) :
    ∀ context ∈ (sensorsPollContext.step state call).1, context.AllFlagged := by
  cases state with
  | none => exact fun _ reached => absurd reached (Option.not_mem_none _)
  | some context =>
      have flagged := flagged context rfl
      cases call with
      | activate call =>
          intro after reached
          cases reached
          obtain ⟨good, left⟩ := Device.drains.acts context.sensors call flagged.good
          exact ⟨good, fun i later => flagged.flagged i (left i later)⟩
      | pollEvents count polls =>
          intro after reached
          obtain ⟨final, ended, rfl, shown⟩ := mem_step_pollEvents reached
          have flags := flagged_pollEvents Device.drains flagged.good flagged.flagged
            (counts count polls rfl) ended
          exact ⟨flags.good, flags.flagged fun read member =>
            spared read (by rw [← shown] at member; exact member)⟩

/-- **In a run without a call that strands events nothing is ever stranded**, whatever the
calls, the answers of `poll` and what is read, as long as no `read` fails. -/
theorem nothingStranded (construction : Construction) (script : List ReadAnswers)
    (succeed : ∀ answers ∈ script, ∀ result ∈ answers.reads, result.succeeds = true)
    (calls : List ContextCall)
    (counts : ∀ count polls, .pollEvents count polls ∈ calls → 1 ≤ count)
    (spared : ∀ read ∈ sensorsPollContext.outputs (some (construction.context script)) calls,
      ¬ Strands read) :
    ∀ context ∈ sensorsPollContext.run (some (construction.context script)) calls,
      NothingStranded context := by
  have start : ∀ context ∈ some (construction.context script), context.AllFlagged := by
    intro context same
    cases same
    exact construction.allFlagged succeed
  have all := @Machine.run_spared _ _ _ sensorsPollContext
    (fun state => ∀ context ∈ state, context.AllFlagged)
    (fun call => ∀ count polls, call = .pollEvents count polls → 1 ≤ count)
    (fun taken => ∀ read ∈ taken.outputs, ¬ Strands read)
    (fun _ _ flagged counts spared => sensorsPollContext_allFlagged flagged counts spared)
    (some (construction.context script)) start calls
    (fun call member count polls same => counts count polls (same ▸ member))
    (fun taken member read emitted =>
      spared read (Machine.mem_outputs.mpr ⟨taken, member, emitted⟩))
  intro context reached
  exact (all context reached).holds

/-- Constructors that find their devices and can read no axis. -/
def Construction.blind : Construction where
  mBuffer _ _ := ⟨⟨0, 0⟩, 0, 0, 0⟩
  enables _ := ⟨true, 0, fun _ => none, 0⟩
  isEnabled _ := false
  absinfo _ := none
  library := 0

/-- The entry of a script for a call that reads at most once. -/
def ReadAnswers.once (reads : List ReadResult) : ReadAnswers := ⟨reads, 0, fun _ => ⟨0, 0⟩⟩

/-- An event that reports the distance of an object, or that there is none. -/
def InputEvent.distance (value : ℤ) : InputEvent := ⟨⟨1, 0⟩, evAbs, eventTypeProximity, value⟩

/-- A sync event of that second. -/
def InputEvent.sync (second : ℤ) : InputEvent := ⟨⟨second, 0⟩, evSyn, 0, 0⟩

/-- Two changes of the proximity sensor that are read at once and reported one by one. -/
theorem nothingStranded_twice :
    ∃ context, sensorsPollContext.run (some (Construction.blind.context
        [.once [.events [.distance 1, .sync 1, .distance 0, .sync 1]], .once [.events []]]))
      [.pollEvents 1 [.ready 1 (fun i => i = .proximity) []],
        .pollEvents 2 [.ready 0 (fun _ => false) []]] = some context ∧ NothingStranded context := by
  refine ⟨_, rfl, nothingStranded Construction.blind
    [.once [.events [.distance 1, .sync 1, .distance 0, .sync 1]], .once [.events []]] (by decide)
    [.pollEvents 1 [.ready 1 (fun i => i = .proximity) []],
      .pollEvents 2 [.ready 0 (fun _ => false) []]] ?_ (by decide) _ rfl⟩
  intro count polls member
  rcases List.mem_cons.mp member with same | member
  · cases same
    decide
  · cases List.mem_singleton.mp member
    decide

/-- A change of the proximity sensor is left behind when it is switched off and on, and a
sync event of the gyroscope behind one that it skips. -/
theorem not_nothingStranded :
    (∃ context, sensorsPollContext.run (some (Construction.blind.context
        [.once [.events [.distance 1, .sync 1, .distance 0, .sync 1]], .once []]))
      [.pollEvents 1 [.ready 1 (fun i => i = .proximity) []],
        .activate ⟨idP, 0, ⟨true, 0, fun _ => some 1, 0⟩⟩,
        .activate ⟨idP, 1, ⟨true, 0, fun _ => some 1, 0⟩⟩,
        .pollEvents 2 [.ready 0 (fun _ => false) []]] = some context ∧
      ¬ NothingStranded context) ∧
    ∃ context, sensorsPollContext.run (some (Construction.blind.context
        [.once [.events [.sync 0, .sync 1, .sync 1]]]))
      [.pollEvents 2 [.ready 1 (fun i => i = .gyro) [], .ready 0 (fun _ => false) []]] =
        some context ∧ ¬ NothingStranded context := by
  refine ⟨⟨_, rfl, fun nothing => ?_⟩, ⟨_, rfl, fun nothing => ?_⟩⟩
  · exact absurd (nothing .proximity (Or.inl (by decide))) (by decide)
  · exact absurd (nothing .gyro (Or.inl (by decide))) (by decide)

end Msm8660.Sensors
