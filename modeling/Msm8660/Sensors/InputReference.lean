import Msm8660.Lib.Machine
import Msm8660.Sensors.InputSensors

/-!
# What the light, proximity and gyroscope drivers report of a stream

A reference takes the input events one at a time: an axis event changes the pending event, and
a sync event reports it with its time, if the driver is enabled and the time is not too early.
It knows neither reads nor room.

The drivers read into a buffer of four events, stop where their room ends and go on there when
they are called again; the gyroscope reads more than once in a call, and lets events that it
skips use up room. None of this shows in what they return: the events of all calls together are
a beginning of those of the reference, behind the event that `enable` has held back, and all of
them when a call has returned less than its room and nothing was skipped
(`inputReads_reference`).
-/

set_option autoImplicit false

namespace Msm8660.Sensors

/-! ## The drivers and the reference -/

/-- The drivers that read one input device, the gyroscope with its `mEnabledTime`. -/
inductive InputDriver where
  | light
  | proximity
  | gyro (mEnabledTime : ℤ)

namespace InputDriver

/-- What an axis event does to the pending event. -/
def update : InputDriver → SensorsEvent → InputEvent → SensorsEvent
  | .light => LightSensor.update
  | .proximity => ProximitySensor.update
  | .gyro _ => GyroSensor.update

/-- Whether a sync event of this time is reported. -/
def reports : InputDriver → ℤ → Bool
  | .light | .proximity => fun _ => true
  | .gyro mEnabledTime => (mEnabledTime ≤ ·)

/-- `readEvents` of the driver. -/
def readEvents (driver : InputDriver) (sensor : InputSensor) (count : ℤ) (answers : ReadAnswers) :
    Option (Reading InputSensor SensorsEvent × List ReadResult) :=
  match driver with
  | .light => LightSensor.readEvents sensor count answers
  | .proximity => ProximitySensor.readEvents sensor count answers
  | .gyro mEnabledTime => (GyroSensor.readEvents ⟨sensor, mEnabledTime⟩ count answers).map
      fun (reading, rest) => (⟨reading.sensors.toInputSensor, reading.nb, reading.stored⟩, rest)

/-- The events that the reference reports of a stream. -/
def reference (driver : InputDriver) (enabled : Bool) :
    List InputEvent → SensorsEvent → List SensorsEvent
  | [], _ => []
  | event :: rest, pending =>
      if event.type = evSyn then
        let pending := { pending with timestamp := timevalToNano event.time }
        (if enabled && driver.reports pending.timestamp then [pending] else []) ++
          reference driver enabled rest pending
      else reference driver enabled rest (driver.update pending event)

end InputDriver

/-- The pending event, with the time of a call that returns it. -/
def InputSensor.pendingAt (sensor : InputSensor) (now : ℤ) : SensorsEvent :=
  if sensor.mHasPendingEvent then { sensor.mPendingEvent with timestamp := now }
  else sensor.mPendingEvent

/-- What a driver is to return: what it holds back, and what the reference reports of the
stream. -/
def InputSensor.expected (driver : InputDriver) (sensor : InputSensor) (now : ℤ)
    (stream : List InputEvent) : List SensorsEvent :=
  (if sensor.mHasPendingEvent && sensor.mEnabled then [sensor.pendingAt now] else []) ++
    driver.reference sensor.mEnabled stream (sensor.pendingAt now)

/-! ## The loops -/

/-- What a stretch of the loop has reported, and behind it the reference of what it has left
unread, are the reference of what was there. -/
structure ReadLoop.Keeps (driver : InputDriver) (delivered : List InputEvent)
    (loop after : ReadLoop InputSensor) : Prop where
  enabled : after.sensor.mEnabled = loop.sensor.mEnabled
  unread : ∃ consumed, loop.sensor.mInputReader.content ++ delivered =
    consumed ++ after.sensor.mInputReader.content
  reference : ∃ events, after.received = loop.received ++ events ∧ ∀ later,
    driver.reference loop.sensor.mEnabled
        (loop.sensor.mInputReader.content ++ (delivered ++ later)) loop.sensor.mPendingEvent =
      events ++ driver.reference loop.sensor.mEnabled
        (after.sensor.mInputReader.content ++ later) after.sensor.mPendingEvent

namespace ReadLoop.Keeps

variable {driver : InputDriver} {delivered delivered' : List InputEvent}
  {loop middle after : ReadLoop InputSensor}

theorem refl (loop : ReadLoop InputSensor) : Keeps driver [] loop loop where
  enabled := rfl
  unread := ⟨[], List.append_nil _⟩
  reference := ⟨[], (List.append_nil _).symm, fun _ => rfl⟩

theorem trans (first : Keeps driver delivered loop middle)
    (second : Keeps driver delivered' middle after) :
    Keeps driver (delivered ++ delivered') loop after where
  enabled := second.enabled.trans first.enabled
  unread := by
    obtain ⟨consumed, split⟩ := first.unread
    obtain ⟨consumed', split'⟩ := second.unread
    exact ⟨consumed ++ consumed', by
      rw [← List.append_assoc, split, List.append_assoc, split', List.append_assoc]⟩
  reference := by
    obtain ⟨events, received, same⟩ := first.reference
    obtain ⟨events', received', same'⟩ := second.reference
    refine ⟨events ++ events', by rw [received', received, List.append_assoc], fun later => ?_⟩
    rw [List.append_assoc, same, ← first.enabled, same', List.append_assoc]

/-- Filling reports nothing. -/
theorem fill (loop : ReadLoop InputSensor) {mInputReader : InputEventCircularReader}
    (content : mInputReader.content = loop.sensor.mInputReader.content ++ delivered) :
    Keeps driver delivered loop
      { loop with sensor := { loop.sensor with mInputReader := mInputReader } } where
  enabled := rfl
  unread := ⟨[], content.symm⟩
  reference := by
    refine ⟨[], (List.append_nil _).symm, fun later => ?_⟩
    dsimp only
    rw [content, List.append_assoc]
    rfl

/-- One turn of the `while` loop is a step of the reference. -/
theorem turn (order : loop.sensor.mInputReader.InOrder) {event : InputEvent}
    (shown : loop.sensor.mInputReader.readEvent = some event) :
    Keeps driver [] loop (loop.handle driver.update driver.reports event) := by
  obtain ⟨content, -⟩ := InputEventCircularReader.content_eq_cons order shown
  have reader : (loop.handle driver.update driver.reports event).sensor.mInputReader =
      loop.sensor.mInputReader.next := by
    unfold ReadLoop.handle
    split
    · dsimp only
      split <;> rfl
    · rfl
  have enabled : (loop.handle driver.update driver.reports event).sensor.mEnabled =
      loop.sensor.mEnabled := by
    unfold ReadLoop.handle
    split
    · dsimp only
      split <;> rfl
    · rfl
  refine ⟨enabled, ⟨[event], ?_⟩, ?_⟩
  · rw [reader, content, List.append_nil]
    rfl
  · simp only [reader, content, List.nil_append, List.cons_append, InputDriver.reference]
    unfold ReadLoop.handle
    by_cases sync : event.type = evSyn
    · cases on : loop.sensor.mEnabled with
      | false =>
          simp only [if_pos sync, on]
          exact ⟨[], (List.append_nil _).symm, fun later => rfl⟩
      | true =>
          simp only [if_pos sync, on, if_true, Bool.true_and]
          split
          · exact ⟨_, rfl, fun later => rfl⟩
          · exact ⟨[], (List.append_nil _).symm, fun later => rfl⟩
    · simp only [if_neg sync]
      exact ⟨[], (List.append_nil _).symm, fun later => rfl⟩

/-- The `while` loop. -/
theorem readWhile (fuel : ℕ) (loop : ReadLoop InputSensor)
    (order : loop.sensor.mInputReader.InOrder) :
    Keeps driver [] loop (loop.readWhile driver.update driver.reports fuel) := by
  induction fuel generalizing loop with
  | zero => exact refl loop
  | succ fuel ih =>
      unfold ReadLoop.readWhile
      split
      · exact refl loop
      · next space =>
          split
          · exact refl loop
          · next event shown =>
              have handled : Handles driver.reports loop [] [event]
                  (loop.handle driver.update driver.reports event) :=
                Handles.turn order space shown
              exact (turn order shown).trans (ih _ handled.order)

/-- The loop of the gyroscope. -/
theorem again {mEnabledTime : ℤ} {fuel : ℕ} {reads rest : List ReadResult}
    (order : loop.sensor.mInputReader.InOrder)
    (ended : GyroSensor.again (mEnabledTime ≤ ·) fuel loop reads = some (after, rest)) :
    ∃ delivered, Keeps (.gyro mEnabledTime) delivered loop after ∧
      reads.flatMap ReadResult.delivered = delivered ++ rest.flatMap ReadResult.delivered := by
  induction fuel generalizing loop reads with
  | zero => cases ended
  | succ fuel ih =>
      have received : Keeps (.gyro mEnabledTime) [] loop
          (loop.receive GyroSensor.update (mEnabledTime ≤ ·)) :=
        readWhile _ loop order
      obtain ⟨⟨handled, handles⟩, -⟩ := Handles.receive GyroSensor.update (mEnabledTime ≤ ·) order
      simp only [GyroSensor.again] at ended
      split at ended
      · split at ended
        · cases ended
        · next mInputReader n left filled =>
            obtain ⟨order', delivered, content, taken, -⟩ :=
              InputEventCircularReader.content_fill handles.order filled
            have filling := received.trans (fill _ content)
            split at ended
            · obtain ⟨delivered', more, last⟩ := ih order' ended
              refine ⟨_, filling.trans more, ?_⟩
              rw [taken, last, List.nil_append, List.append_assoc]
            · cases ended
              exact ⟨_, filling, taken⟩
      · cases ended
        exact ⟨[], received, rfl⟩

end ReadLoop.Keeps

/-! ## Calls -/

/-- A call of `readEvents`, at some time. -/
structure InputCall where
  count : ℤ
  now : ℤ

/-- A driver in a sequence of calls: what `read` has still to give, and the events that have
been returned. -/
structure InputRun where
  sensor : InputSensor
  reads : List ReadResult
  returned : List SensorsEvent

/-- The number of events for which a call had room, and the number that it returned. -/
structure InputReturn where
  count : ℤ
  nb : ℤ

/-- The calls of `readEvents`, one after the other. -/
def inputReads (driver : InputDriver) : Machine InputRun InputCall InputReturn where
  step run call :=
    match driver.readEvents run.sensor call.count ⟨run.reads, call.now, fun _ => ⟨0, 0⟩⟩ with
    | none => (run, [])
    | some (reading, reads) =>
        (⟨reading.sensors, reads, run.returned ++ reading.stored.take reading.nb.toNat⟩,
          [⟨call.count, reading.nb⟩])

/-- What has been returned of a stream, and behind it the reference of the rest, are the
reference of the stream. -/
structure InputRun.Follows (driver : InputDriver) (start run : InputRun)
    (delivered : List InputEvent) : Prop where
  order : run.sensor.mInputReader.InOrder
  nothingHeld : run.sensor.mHasPendingEvent = false
  enabled : run.sensor.mEnabled = start.sensor.mEnabled
  taken : start.reads.flatMap ReadResult.delivered =
    delivered ++ run.reads.flatMap ReadResult.delivered
  unread : ∃ consumed, start.sensor.mInputReader.content ++ delivered =
    consumed ++ run.sensor.mInputReader.content
  reference : ∃ events, run.returned = start.returned ++ events ∧ ∀ later,
    driver.reference start.sensor.mEnabled
        (start.sensor.mInputReader.content ++ (delivered ++ later)) start.sensor.mPendingEvent =
      events ++ driver.reference start.sensor.mEnabled
        (run.sensor.mInputReader.content ++ later) run.sensor.mPendingEvent

section Calls

variable {driver : InputDriver} {sensor : InputSensor} {count : ℤ} {answers : ReadAnswers}
  {reading : Reading InputSensor SensorsEvent} {rest : List ReadResult}

/-- What a driver does behind the first `fill`. -/
def InputDriver.receive : InputDriver → ReadLoop InputSensor → List ReadResult →
    Option (ReadLoop InputSensor × List ReadResult)
  | .gyro mEnabledTime => fun loop reads =>
      GyroSensor.again (mEnabledTime ≤ ·) (reads.length + 1) loop reads
  | driver => fun loop reads => some (loop.receive driver.update driver.reports, reads)

theorem InputDriver.readEvents_eq (driver : InputDriver) (sensor : InputSensor) (count : ℤ)
    (answers : ReadAnswers) :
    driver.readEvents sensor count answers = sensor.readEvents driver.receive count answers := by
  cases driver with
  | light => rfl
  | proximity => rfl
  | gyro mEnabledTime =>
      simp only [readEvents, GyroSensor.readEvents, InputDriver.receive]
      split
      · next none_ => rw [none_]; rfl
      · next reading rest some_ => rw [some_]; rfl

theorem InputDriver.receives (driver : InputDriver) : Receives driver.reports driver.receive := by
  cases driver with
  | light => exact receives_while LightSensor.update
  | proximity => exact receives_while ProximitySensor.update
  | gyro mEnabledTime => exact receives_again _

/-- A stretch of the loop behind the first `fill`. -/
theorem InputDriver.receive_keeps {loop after : ReadLoop InputSensor} {reads : List ReadResult}
    (order : loop.sensor.mInputReader.InOrder)
    (ended : driver.receive loop reads = some (after, rest)) :
    ∃ delivered, ReadLoop.Keeps driver delivered loop after ∧
      reads.flatMap ReadResult.delivered = delivered ++ rest.flatMap ReadResult.delivered := by
  cases driver with
  | gyro mEnabledTime => exact ReadLoop.Keeps.again order ended
  | light | proximity =>
      cases ended
      exact ⟨[], ReadLoop.Keeps.readWhile _ loop order, rfl⟩

/-- **A call of `readEvents` that holds nothing back keeps the reference.** -/
theorem InputDriver.readEvents_keeps (order : sensor.mInputReader.InOrder)
    (nothingHeld : sensor.mHasPendingEvent = false) (room : 1 ≤ count)
    (read : driver.readEvents sensor count answers = some (reading, rest))
    (returned : List SensorsEvent) :
    ∃ delivered, InputRun.Follows driver ⟨sensor, answers.reads, returned⟩
      ⟨reading.sensors, rest, returned ++ reading.stored.take reading.nb.toNat⟩ delivered := by
  rw [InputDriver.readEvents_eq] at read
  have after : reading.sensors.mInputReader.InOrder ∧ reading.sensors.mHasPendingEvent = false := by
    rcases InputSensor.readEvents_cases driver.receives order room read with
      ⟨held, -⟩ | ⟨-, ⟨order', none_, -⟩ | ⟨_, _, received, -⟩⟩
    · cases nothingHeld.symm.trans held
    · exact ⟨order', none_⟩
    · exact ⟨received.order, received.pending.trans nothingHeld⟩
  unfold InputSensor.readEvents at read
  have free : ¬ sensor.mHasPendingEvent = true := Bool.not_eq_true _ ▸ nothingHeld
  rw [if_neg (by omega), if_neg free] at read
  split at read
  · cases read
  · next mInputReader n left filled =>
      obtain ⟨order', delivered, content, taken, -⟩ :=
        InputEventCircularReader.content_fill order filled
      have filling : ReadLoop.Keeps driver delivered ⟨sensor, count, []⟩
          ⟨{ sensor with mInputReader := mInputReader }, count, []⟩ := ReadLoop.Keeps.fill _ content
      split at read
      · next negative =>
          cases read
          obtain ⟨events, -, same⟩ := filling.reference
          refine ⟨delivered, after.1, after.2, filling.enabled, taken, filling.unread, [], ?_, ?_⟩
          · rw [List.take_nil]
          · intro later
            dsimp only
            rw [content, List.append_assoc]
            rfl
      · dsimp only at read
        split at read
        · cases read
        · next loop left' ended =>
            cases read
            obtain ⟨delivered', keeps, last⟩ := InputDriver.receive_keeps order' ended
            have whole := filling.trans keeps
            obtain ⟨events, received, same⟩ := whole.reference
            refine ⟨_, after.1, after.2, whole.enabled, ?_, whole.unread, events, ?_, same⟩
            · dsimp only
              rw [taken, last, List.append_assoc]
            · dsimp only at received ⊢
              rw [Int.toNat_natCast, List.take_length, received, List.nil_append]

end Calls

section Runs

variable {driver : InputDriver} {start run : InputRun} {delivered : List InputEvent}

theorem InputRun.Follows.trans {middle after : InputRun} {delivered' : List InputEvent}
    (first : start.Follows driver middle delivered)
    (second : middle.Follows driver after delivered') :
    start.Follows driver after (delivered ++ delivered') where
  order := second.order
  nothingHeld := second.nothingHeld
  enabled := second.enabled.trans first.enabled
  taken := by rw [first.taken, second.taken, List.append_assoc]
  unread := by
    obtain ⟨consumed, split⟩ := first.unread
    obtain ⟨consumed', split'⟩ := second.unread
    exact ⟨consumed ++ consumed', by
      rw [← List.append_assoc, split, List.append_assoc, split', List.append_assoc]⟩
  reference := by
    obtain ⟨events, returned, same⟩ := first.reference
    obtain ⟨events', returned', same'⟩ := second.reference
    refine ⟨events ++ events', by rw [returned', returned, List.append_assoc], fun later => ?_⟩
    rw [List.append_assoc, same, ← first.enabled, same', List.append_assoc]

theorem InputRun.Follows.refl (order : start.sensor.mInputReader.InOrder)
    (nothingHeld : start.sensor.mHasPendingEvent = false) : start.Follows driver start [] :=
  ⟨order, nothingHeld, rfl, rfl, ⟨[], List.append_nil _⟩, [], (List.append_nil _).symm,
    fun _ => rfl⟩

/-- Every call keeps the reference. -/
theorem InputRun.Follows.step (follows : start.Follows driver run delivered) {call : InputCall}
    (room : 1 ≤ call.count) :
    ∃ delivered', start.Follows driver ((inputReads driver).step run call).1 delivered' := by
  simp only [inputReads]
  split
  · exact ⟨delivered, follows⟩
  · next reading reads read =>
      obtain ⟨delivered', kept⟩ := InputDriver.readEvents_keeps follows.order follows.nothingHeld
        room read run.returned
      exact ⟨delivered ++ delivered', follows.trans kept⟩

theorem InputRun.follows_run (order : start.sensor.mInputReader.InOrder)
    (nothingHeld : start.sensor.mHasPendingEvent = false) {calls : List InputCall}
    (rooms : ∀ call ∈ calls, 1 ≤ call.count) :
    ∃ delivered, start.Follows driver ((inputReads driver).run start calls) delivered := by
  have kept : ∀ (run : InputRun) (call : InputCall),
      (∃ delivered, start.Follows driver run delivered) → 1 ≤ call.count →
        ∃ delivered, start.Follows driver ((inputReads driver).step run call).1 delivered :=
    fun _ _ ⟨_, follows⟩ room => follows.step room
  exact Machine.run_induction kept ⟨[], InputRun.Follows.refl order nothingHeld⟩ rooms

end Runs

/-! ## From any state of the driver -/

/-- What has been returned since some state of the driver, and behind it the reference of the
rest, are what was to be returned. -/
structure InputRun.Answers (driver : InputDriver) (sensor : InputSensor) (reads : List ReadResult)
    (now : ℤ) (run : InputRun) (delivered : List InputEvent) : Prop where
  order : run.sensor.mInputReader.InOrder
  nothingHeld : run.sensor.mHasPendingEvent = false
  taken : reads.flatMap ReadResult.delivered =
    delivered ++ run.reads.flatMap ReadResult.delivered
  unread : ∃ consumed, sensor.mInputReader.content ++ delivered =
    consumed ++ run.sensor.mInputReader.content
  expected : ∀ later,
    sensor.expected driver now (sensor.mInputReader.content ++ (delivered ++ later)) =
      run.returned ++ driver.reference sensor.mEnabled
        (run.sensor.mInputReader.content ++ later) run.sensor.mPendingEvent

section Whole

variable {driver : InputDriver} {sensor : InputSensor} {reads : List ReadResult}

/-- A driver that holds nothing back. -/
theorem InputRun.Follows.answers {run : InputRun} {delivered : List InputEvent}
    (nothingHeld : sensor.mHasPendingEvent = false)
    (follows : InputRun.Follows driver ⟨sensor, reads, []⟩ run delivered) (now : ℤ) :
    InputRun.Answers driver sensor reads now run delivered where
  order := follows.order
  nothingHeld := follows.nothingHeld
  taken := follows.taken
  unread := follows.unread
  expected later := by
    obtain ⟨events, returned, same⟩ := follows.reference
    rw [List.nil_append] at returned
    simp only [InputSensor.expected, InputSensor.pendingAt, nothingHeld, Bool.false_and,
      Bool.false_eq_true, if_false, List.nil_append, returned]
    exact same later

/-- The first call of a driver that holds an event back returns that event. -/
theorem inputReads_held (held : sensor.mHasPendingEvent = true) {call : InputCall}
    (room : 1 ≤ call.count) :
    ((inputReads driver).step ⟨sensor, reads, []⟩ call).1 =
      ⟨{ sensor with mHasPendingEvent := false, mPendingEvent := sensor.pendingAt call.now },
        reads, if sensor.mEnabled then [sensor.pendingAt call.now] else []⟩ := by
  have full : ¬ call.count < 1 := by omega
  simp only [inputReads, InputDriver.readEvents_eq, InputSensor.readEvents, if_neg full,
    if_pos held, InputSensor.pendingAt]
  cases sensor.mEnabled <;> rfl

/-- **Every run of calls answers what is expected.** -/
theorem inputReads_answers (order : sensor.mInputReader.InOrder) {first : InputCall}
    {calls : List InputCall} (rooms : ∀ call ∈ first :: calls, 1 ≤ call.count) :
    ∃ delivered, InputRun.Answers driver sensor reads first.now
      ((inputReads driver).run ⟨sensor, reads, []⟩ (first :: calls)) delivered := by
  cases held : sensor.mHasPendingEvent with
  | false =>
      obtain ⟨delivered, follows⟩ :=
        @InputRun.follows_run driver ⟨sensor, reads, []⟩ order held _ rooms
      exact ⟨delivered, follows.answers held _⟩
  | true =>
      obtain ⟨room, others⟩ := List.forall_mem_cons.mp rooms
      rw [Machine.run_cons, inputReads_held held room]
      obtain ⟨delivered, follows⟩ := @InputRun.follows_run driver
        ⟨{ sensor with mHasPendingEvent := false, mPendingEvent := sensor.pendingAt first.now },
          reads, if sensor.mEnabled then [sensor.pendingAt first.now] else []⟩ order rfl _ others
      obtain ⟨events, returned, same⟩ := follows.reference
      refine ⟨delivered, follows.order, follows.nothingHeld, follows.taken, follows.unread, ?_⟩
      intro later
      rw [returned, List.append_assoc, ← same later]
      simp only [InputSensor.expected, held, Bool.true_and]

/-- A call that returns fewer events than it had room for leaves nothing unread, where no event
comes too early. -/
theorem inputReads_empty {run : InputRun} (order : run.sensor.mInputReader.InOrder)
    (nothingHeld : run.sensor.mHasPendingEvent = false)
    (late : ∀ event ∈ run.sensor.mInputReader.content ++ run.reads.flatMap ReadResult.delivered,
      driver.reports (timevalToNano event.time) = true)
    {call : InputCall} (room : 1 ≤ call.count) {returned : InputReturn}
    (member : returned ∈ ((inputReads driver).step run call).2) (some_ : 0 ≤ returned.nb)
    (fewer : returned.nb < returned.count) :
    ((inputReads driver).step run call).1.sensor.mInputReader.content = [] := by
  simp only [inputReads] at member ⊢
  split at member
  · exact absurd member List.not_mem_nil
  · next reading rest read =>
      rw [List.mem_singleton.mp member] at some_ fewer
      dsimp only at some_ fewer
      rw [InputDriver.readEvents_eq] at read
      rcases InputSensor.readEvents_cases driver.receives order room read with
        ⟨held, -⟩ | ⟨-, ⟨-, -, negative, -⟩ | ⟨delivered, handled, received, taken⟩⟩
      · cases nothingHeld.symm.trans held
      · omega
      · refine received.ends.resolve_left fun full => ?_
        have all : reportedSyncs driver.reports handled = syncs handled := by
          refine List.countP_congr fun event inside => ?_
          have there : event ∈ run.sensor.mInputReader.content ++ delivered :=
            received.events ▸ List.mem_append_left _ inside
          have early := late event (by
            dsimp only at taken
            rw [taken, ← List.append_assoc]
            exact List.mem_append_left _ there)
          simp [early]
        have reported := received.reported
        rw [all, full] at reported
        omega

/-- **The drivers lose, double and reorder nothing**, whatever the reads and the rooms of the
calls: the events returned are a beginning of those expected for the stream, and all of them for
what has been read when a call returns fewer than it had room for, unless it returned the event
held back or an event comes too early. -/
theorem inputReads_reference (driver : InputDriver) (order : sensor.mInputReader.InOrder)
    (reads : List ReadResult) (calls : List InputCall) (rooms : ∀ call ∈ calls, 1 ≤ call.count) :
    let run := (inputReads driver).run ⟨sensor, reads, []⟩ calls
    let stream := sensor.mInputReader.content ++ reads.flatMap ReadResult.delivered
    let now := (calls.head?.map InputCall.now).getD 0
    run.returned <+: sensor.expected driver now stream ∧
      ∀ earlier last, calls = earlier ++ [last] →
        (earlier = [] → sensor.mHasPendingEvent = false) →
        (∀ event ∈ stream, driver.reports (timevalToNano event.time) = true) →
        ∀ returned ∈ ((inputReads driver).step
            ((inputReads driver).run ⟨sensor, reads, []⟩ earlier) last).2,
          0 ≤ returned.nb → returned.nb < returned.count →
          ∃ consumed, stream = consumed ++ run.reads.flatMap ReadResult.delivered ∧
            run.returned = sensor.expected driver now consumed := by
  intro run stream now
  cases calls with
  | nil =>
      refine ⟨List.nil_prefix, fun earlier last split => ?_⟩
      exact absurd split.symm (by simp)
  | cons first rest =>
      obtain ⟨delivered, answers⟩ := inputReads_answers order rooms
      have taken : reads.flatMap ReadResult.delivered =
        delivered ++ run.reads.flatMap ReadResult.delivered := answers.taken
      refine ⟨?_, fun earlier last split free late returned member some_ fewer => ?_⟩
      · have whole := answers.expected (run.reads.flatMap ReadResult.delivered)
        rw [← taken] at whole
        exact ⟨_, whole.symm⟩
      · have reached : ∃ delivered', InputRun.Answers driver sensor reads first.now
            ((inputReads driver).run ⟨sensor, reads, []⟩ earlier) delivered' := by
          cases earlier with
          | nil =>
              have start : InputRun.Follows driver ⟨sensor, reads, []⟩ ⟨sensor, reads, []⟩ [] :=
                InputRun.Follows.refl order (free rfl)
              exact ⟨[], start.answers (free rfl) _⟩
          | cons call others =>
              obtain ⟨rfl, rfl⟩ := List.cons.inj split
              exact inputReads_answers order fun call member =>
                rooms call (split.symm ▸ List.mem_append_left _ member)
        obtain ⟨delivered', before⟩ := reached
        have room : 1 ≤ last.count := rooms last (by rw [split]; simp)
        have lateHere : ∀ event ∈
            ((inputReads driver).run ⟨sensor, reads, []⟩ earlier).sensor.mInputReader.content ++
              ((inputReads driver).run ⟨sensor, reads, []⟩ earlier).reads.flatMap
                ReadResult.delivered, driver.reports (timevalToNano event.time) = true := by
          intro event here
          obtain ⟨consumed, unread⟩ := before.unread
          refine late event ?_
          show event ∈ sensor.mInputReader.content ++ reads.flatMap ReadResult.delivered
          rw [before.taken, ← List.append_assoc, unread, List.append_assoc]
          exact List.mem_append_right _ here
        have empty := inputReads_empty before.order before.nothingHeld lateHere room member some_
          fewer
        have same : run = ((inputReads driver).step
            ((inputReads driver).run ⟨sensor, reads, []⟩ earlier) last).1 := by
          dsimp only [run]
          rw [split, Machine.run_append]
          rfl
        rw [← same] at empty
        refine ⟨sensor.mInputReader.content ++ delivered, ?_, ?_⟩
        · rw [List.append_assoc, ← taken]
        · have whole := answers.expected []
          have nothing : ((inputReads driver).run ⟨sensor, reads, []⟩
              (first :: rest)).sensor.mInputReader.content = [] := empty
          rw [nothing, List.append_nil, List.nil_append, InputDriver.reference,
            List.append_nil] at whole
          exact whole.symm

/-- A proximity sensor that holds an event back, and a packet that is read in two parts. -/
theorem inputReads_reference_proximity :
    let sensor : InputSensor := { InputSensor.initial idP fun _ => ⟨⟨0, 0⟩, 0, 0, 0⟩ with
      mEnabled := true
      mHasPendingEvent := true }
    let reads : List ReadResult := [.events [⟨⟨1, 0⟩, evAbs, eventTypeProximity, 1⟩],
      .events [⟨⟨1, 0⟩, evSyn, 0, 0⟩]]
    let calls : List InputCall := [⟨1, 7⟩, ⟨1, 8⟩, ⟨1, 9⟩]
    let run := (inputReads .proximity).run ⟨sensor, reads, []⟩ calls
    run.returned.map SensorsEvent.x = [0, 5] ∧
      run.returned <+: sensor.expected .proximity 7
        (sensor.mInputReader.content ++ reads.flatMap ReadResult.delivered) := by
  intro sensor reads calls run
  have order : sensor.mInputReader.InOrder := InputEventCircularReader.inOrder_new (by decide) _
  refine ⟨by decide +kernel, ?_⟩
  exact (inputReads_reference .proximity order reads calls (by decide)).1

end Whole

end Msm8660.Sensors
