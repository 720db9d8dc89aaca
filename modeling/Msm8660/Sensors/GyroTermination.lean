import Msm8660.Sensors.InputSensors

/-!
# When `GyroSensor::readEvents` returns

The gyroscope reads again while it has nothing to report. It goes back to `again:` after
every `fill` that does not give 0, and an error does not: where `read` fails from some call
on, the loop never ends, and neither does it where `read` goes on to deliver events without a
sync event (`returns_iff`).

The loop is followed read by read: `waiting` is the loop that has taken some results and asks
for the next. A sequence of results is one that `read` can give when each fits into the space
that it is asked to fill (`ReadSequence`). The loop ends when `read` delivers nothing or when
the events so far settle it: one of them is reported, or those that are not have used up the
room and the rest fills the buffer (`Settles`).
-/

set_option autoImplicit false

namespace Msm8660.Sensors

/-- The number of events that a read writes. -/
def ReadResult.size : ReadResult → ℕ
  | .events delivered => delivered.length
  | .failed _ => 0
  | .partialEvent written => written.length

/-- The first results of a sequence. -/
def firstResults (results : ℕ → ReadResult) (k : ℕ) : List ReadResult :=
  (List.range k).map results

namespace GyroSensor

/-- The loop behind `again:` that has taken these results and asks `read` for the next, if it
does not end before. -/
def waiting (reports : ℤ → Bool) : List ReadResult → ReadLoop InputSensor →
    Option (ReadLoop InputSensor)
  | reads, loop =>
      let loop := loop.receive update reports
      if loop.received = [] ∧ loop.sensor.mEnabled = true ∧
          loop.sensor.mInputReader.mFreeSpace ≠ 0 then
        match reads with
        | [] => some loop
        | read :: rest => match loop.sensor.mInputReader.fill [read] with
            | none => none
            | some (mInputReader, n, _) =>
                if n ≠ 0 then waiting reports rest
                  { loop with sensor := { loop.sensor with mInputReader := mInputReader } }
                else none
      else none

/-- The space that a call of `readEvents` asks `read` to fill when it has taken these results,
if it does not return before. -/
def asksFor (gyro : GyroSensor) (count : ℤ) (reads : List ReadResult) : Option ℤ :=
  if count < 1 ∨ gyro.mHasPendingEvent = true then none
  else if gyro.mInputReader.mFreeSpace = 0 then
    (waiting (gyro.mEnabledTime ≤ ·) reads ⟨gyro.toInputSensor, count, []⟩).map
      (·.sensor.mInputReader.mFreeSpace)
  else match reads with
    | [] => some gyro.mInputReader.mFreeSpace
    | read :: rest => match gyro.mInputReader.fill [read] with
        | none => none
        | some (mInputReader, n, _) =>
            if n < 0 then none
            else (waiting (gyro.mEnabledTime ≤ ·) rest
              ⟨{ gyro.toInputSensor with mInputReader := mInputReader }, count, []⟩).map
                (·.sensor.mInputReader.mFreeSpace)

end GyroSensor

/-- What `read` does, call after call. Each result fits into the space that is asked for. -/
structure ReadSequence (gyro : GyroSensor) (count : ℤ) where
  results : ℕ → ReadResult
  fits : ∀ k space, gyro.asksFor count (firstResults results k) = some space →
    ((results k).size : ℤ) ≤ space

/-- A call of `readEvents` returns after finitely many reads. -/
def GyroSensor.Returns (gyro : GyroSensor) (count : ℤ) (results : ℕ → ReadResult) : Prop :=
  ∃ k, ∀ now syncs, (gyro.readEvents count ⟨firstResults results k, now, syncs⟩).isSome = true

/-- Events settle a call with this room: one of those that fit into the room is reported, or
they use it up and the rest fills the buffer. -/
def Settles (reports : ℤ → Bool) (capacity : ℕ) (room : ℤ) (events : List InputEvent) : Prop :=
  ∃ handled rest, events = handled ++ rest ∧ (syncs handled : ℤ) ≤ room ∧
    (0 < reportedSyncs reports handled ∨ syncs handled = room ∧ capacity ≤ rest.length)

/-- The sequences of reads with which a call of `readEvents` ends. In the fourth case it is not
the first `fill` that gets nothing. -/
def GyroSensor.Ends (gyro : GyroSensor) (count : ℤ) (results : ℕ → ReadResult) : Prop :=
  gyro.mHasPendingEvent = true ∨ gyro.mEnabled = false ∨
    (gyro.mInputReader.mFreeSpace ≠ 0 ∧ (results 0).succeeds = false) ∨
    (∃ k, (gyro.mInputReader.mFreeSpace ≠ 0 → 1 ≤ k) ∧ results k = .events []) ∨
    ∃ k, Settles (gyro.mEnabledTime ≤ ·) gyro.mInputReader.numEvents count
      (gyro.mInputReader.content ++ (firstResults results k).flatMap ReadResult.delivered)

/-! ## Single reads -/

section Fill

variable {reader : InputEventCircularReader}

/-- Where there is space, a read takes its own result. -/
theorem InputEventCircularReader.fill_cons (space : reader.mFreeSpace ≠ 0) (read : ReadResult)
    (rest : List ReadResult) : reader.fill (read :: rest) =
      (reader.fill [read]).map fun filled => (filled.1, filled.2.1, rest) := by
  cases read with
  | failed errno => simp [fill, space]
  | partialEvent written =>
      simp only [fill, if_neg space]
      split <;> rfl
  | events delivered =>
      simp only [fill, if_neg space]
      split <;> rfl

/-- A result that fits is taken. -/
theorem InputEventCircularReader.fill_fits (space : reader.mFreeSpace ≠ 0) {read : ReadResult}
    (fits : (read.size : ℤ) ≤ reader.mFreeSpace) :
    ∃ mInputReader n, reader.fill [read] = some (mInputReader, n, []) ∧
      (n < 0 ↔ read.succeeds = false) ∧ (n = 0 ↔ read = .events []) := by
  cases read with
  | failed errno =>
      have positive := errno.2
      refine ⟨reader, -errno, by simp [fill, space], ?_, ?_⟩
      · exact iff_of_true (by omega) rfl
      · exact iff_of_false (by omega) nofun
  | partialEvent written =>
      refine ⟨{ reader with mBuffer := writeBuffer reader.mBuffer reader.mHead written }, -einval,
        ?_, iff_of_true (by decide) rfl, iff_of_false (by decide) nofun⟩
      simp only [fill, if_neg space]
      exact if_pos fits
  | events delivered =>
      refine ⟨reader.advance delivered, delivered.length, ?_, ?_, ?_⟩
      · simp only [fill, if_neg space]
        exact if_pos fits
      · exact iff_of_false (by omega) nofun
      · rw [Int.natCast_eq_zero, List.length_eq_zero_iff, ReadResult.events.injEq]

/-- A read leaves the capacity as it is. -/
theorem InputEventCircularReader.fill_numEvents {reads rest : List ReadResult}
    {after : InputEventCircularReader} {n : ℤ}
    (filled : reader.fill reads = some (after, n, rest)) : after.numEvents = reader.numEvents := by
  unfold fill at filled
  split at filled
  · cases filled
    rfl
  · cases reads with
    | nil => cases filled
    | cons read reads =>
        cases read with
        | failed errno =>
            cases filled
            rfl
        | partialEvent written =>
            dsimp only at filled
            split at filled
            · cases filled
              rfl
            · cases filled
        | events delivered =>
            dsimp only at filled
            split at filled
            · cases filled
              exact advance_numEvents reader delivered
            · cases filled

/-- So does the loop. -/
theorem ReadLoop.receive_numEvents (update : SensorsEvent → InputEvent → SensorsEvent)
    (reports : ℤ → Bool) (loop : ReadLoop InputSensor) :
    (loop.receive update reports).sensor.mInputReader.numEvents =
      loop.sensor.mInputReader.numEvents := by
  have handled : ∀ (loop : ReadLoop InputSensor) event,
      (loop.handle update reports event).sensor.mInputReader.numEvents =
        loop.sensor.mInputReader.numEvents := by
    intro loop event
    unfold handle
    split
    · dsimp only
      split <;> rfl
    · rfl
  unfold receive
  generalize loop.sensor.mInputReader.available = fuel
  induction fuel generalizing loop with
  | zero => rfl
  | succ fuel ih =>
      unfold readWhile
      split
      · rfl
      · split
        · rfl
        · rw [ih, handled]

end Fill

/-! ## Waiting and returning -/

section Waiting

open GyroSensor

variable {reports : ℤ → Bool} {loop : ReadLoop InputSensor}

/-- The loop behind a stretch of it asks for the next result. -/
def ReadLoop.Asks (reports : ℤ → Bool) (loop : ReadLoop InputSensor) : Prop :=
  (loop.receive GyroSensor.update reports).received = [] ∧
    (loop.receive GyroSensor.update reports).sensor.mEnabled = true ∧
    (loop.receive GyroSensor.update reports).sensor.mInputReader.mFreeSpace ≠ 0

/-- The loop with the reader that a `fill` leaves. -/
def ReadLoop.refilled (loop : ReadLoop InputSensor) (mInputReader : InputEventCircularReader) :
    ReadLoop InputSensor :=
  { loop with sensor := { loop.sensor with mInputReader := mInputReader } }

theorem waiting_of_not_asks (ends : ¬ loop.Asks reports) (reads : List ReadResult) :
    waiting reports reads loop = none := by
  cases reads <;> exact if_neg ends

theorem waiting_nil (asks : loop.Asks reports) :
    waiting reports [] loop = some (loop.receive GyroSensor.update reports) := if_pos asks

theorem waiting_cons (asks : loop.Asks reports) {read : ReadResult}
    {mInputReader : InputEventCircularReader} {n : ℤ}
    (filled : (loop.receive GyroSensor.update reports).sensor.mInputReader.fill [read] =
      some (mInputReader, n, [])) (rest : List ReadResult) :
    waiting reports (read :: rest) loop = if n ≠ 0 then
      waiting reports rest ((loop.receive GyroSensor.update reports).refilled mInputReader)
    else none := by
  refine (if_pos asks).trans ?_
  dsimp only
  rw [filled]
  rfl

/-- A loop that waits behind a result has taken it and gone back. -/
theorem waiting_cons_eq_some {read : ReadResult} {rest : List ReadResult}
    {after : ReadLoop InputSensor} (waits : waiting reports (read :: rest) loop = some after) :
    loop.Asks reports ∧ ∃ mInputReader n,
      (loop.receive GyroSensor.update reports).sensor.mInputReader.fill [read] =
        some (mInputReader, n, []) ∧ n ≠ 0 ∧
      waiting reports rest ((loop.receive GyroSensor.update reports).refilled mInputReader) =
        some after := by
  by_cases asks : loop.Asks reports
  · refine ⟨asks, ?_⟩
    have taken := InputEventCircularReader.fill_cons asks.2.2 read []
    cases filled : (loop.receive GyroSensor.update reports).sensor.mInputReader.fill [read] with
    | none =>
        have stuck : waiting reports (read :: rest) loop = none := by
          refine (if_pos asks).trans ?_
          dsimp only
          rw [filled]
        rw [stuck] at waits
        cases waits
    | some result =>
        obtain ⟨mInputReader, n, left⟩ := result
        rw [filled, Option.map_some, Option.some.injEq, Prod.mk.injEq, Prod.mk.injEq] at taken
        obtain ⟨-, -, rfl⟩ := taken
        rw [waiting_cons asks filled] at waits
        split at waits
        · next more => exact ⟨mInputReader, n, rfl, more, waits⟩
        · cases waits
  · rw [waiting_of_not_asks asks] at waits
    cases waits

/-- All results of a list fit into the space that the loop asks for. -/
def FitLoop (reports : ℤ → Bool) (reads : List ReadResult) (loop : ReadLoop InputSensor) : Prop :=
  ∀ earlier read later, reads = earlier ++ read :: later → ∀ after,
    waiting reports earlier loop = some after →
      (read.size : ℤ) ≤ after.sensor.mInputReader.mFreeSpace

/-- What the loop does with the next result, when it asks for it. -/
theorem FitLoop.next {read : ReadResult} {rest : List ReadResult}
    (fit : FitLoop reports (read :: rest) loop) (asks : loop.Asks reports) :
    ∃ mInputReader n,
      (loop.receive GyroSensor.update reports).sensor.mInputReader.fill [read] =
        some (mInputReader, n, []) ∧ (n = 0 ↔ read = .events []) ∧
      (n ≠ 0 →
        FitLoop reports rest ((loop.receive GyroSensor.update reports).refilled mInputReader)) := by
  have here := fit [] read rest rfl _ (waiting_nil asks)
  obtain ⟨mInputReader, n, filled, -, nothing⟩ :=
    InputEventCircularReader.fill_fits asks.2.2 here
  refine ⟨mInputReader, n, filled, nothing, ?_⟩
  intro more earlier read' later split after waits
  refine fit (read :: earlier) read' later (congrArg (read :: ·) split) after ?_
  rw [waiting_cons asks filled, if_pos more]
  exact waits

/-- A loop that does not ask ends, with a report or with a full buffer. -/
theorem again_of_not_asks (ends : ¬ loop.Asks reports) (fuel : ℕ) (reads : List ReadResult) :
    (again reports (fuel + 1) loop reads).isSome = true := by
  rw [again]
  dsimp only
  split
  · next goes =>
      have full : (loop.receive GyroSensor.update reports).sensor.mInputReader.mFreeSpace = 0 := by
        by_contra space
        exact ends ⟨goes.1, goes.2, space⟩
      have filled : (loop.receive GyroSensor.update reports).sensor.mInputReader.fill reads =
          some ((loop.receive GyroSensor.update reports).sensor.mInputReader, 0, reads) := by
        unfold InputEventCircularReader.fill
        exact if_pos full
      rw [filled]
      rfl
  · rfl

/-- A loop that asks takes the next result. -/
theorem again_of_asks (asks : loop.Asks reports) (fuel : ℕ) (read : ReadResult)
    (rest : List ReadResult) {mInputReader : InputEventCircularReader} {n : ℤ}
    (filled : (loop.receive GyroSensor.update reports).sensor.mInputReader.fill [read] =
      some (mInputReader, n, [])) :
    again reports (fuel + 1) loop (read :: rest) =
      if n ≠ 0 then again reports fuel
        ((loop.receive GyroSensor.update reports).refilled mInputReader) rest
      else some ((loop.receive GyroSensor.update reports).refilled mInputReader, rest) := by
  rw [again]
  dsimp only
  rw [if_pos ⟨asks.1, asks.2.1⟩, InputEventCircularReader.fill_cons asks.2.2, filled]
  rfl

/-- **The loop has an end with these results exactly if it does not wait for the next.** -/
theorem again_isSome_iff {reads : List ReadResult} {fuel : ℕ} (enough : reads.length < fuel)
    (fit : FitLoop reports reads loop) :
    (again reports fuel loop reads).isSome = true ↔ waiting reports reads loop = none := by
  induction reads generalizing loop fuel with
  | nil =>
      obtain ⟨fuel, rfl⟩ : ∃ left, fuel = left + 1 := Nat.exists_eq_add_of_le' enough
      by_cases asks : loop.Asks reports
      · rw [waiting_nil asks, again]
        dsimp only
        rw [if_pos ⟨asks.1, asks.2.1⟩, InputEventCircularReader.fill, if_neg asks.2.2]
        exact iff_of_false Bool.false_ne_true (Option.some_ne_none _)
      · exact iff_of_true (again_of_not_asks asks fuel []) (waiting_of_not_asks asks [])
  | cons read rest ih =>
      obtain ⟨fuel, rfl⟩ : ∃ left, fuel = left + 1 :=
        Nat.exists_eq_add_of_le' (Nat.lt_of_le_of_lt (Nat.zero_le _) enough)
      by_cases asks : loop.Asks reports
      · obtain ⟨mInputReader, n, filled, -, fit'⟩ := fit.next asks
        rw [again_of_asks asks fuel read rest filled, waiting_cons asks filled]
        by_cases more : n ≠ 0
        · rw [if_pos more, if_pos more]
          exact ih (by rw [List.length_cons] at enough; omega) (fit' more)
        · rw [if_neg more, if_neg more]
          exact iff_of_true rfl rfl
      · exact iff_of_true (again_of_not_asks asks fuel _) (waiting_of_not_asks asks _)

/-! ## What settles the loop -/

/-- More events settle what has been settled. -/
theorem Settles.append {capacity : ℕ} {room : ℤ} {events : List InputEvent}
    (settles : Settles reports capacity room events) (more : List InputEvent) :
    Settles reports capacity room (events ++ more) := by
  obtain ⟨handled, rest, rfl, fits, ends⟩ := settles
  refine ⟨handled, rest ++ more, List.append_assoc .., fits, ends.imp_right ?_⟩
  rintro ⟨used, full⟩
  exact ⟨used, by rw [List.length_append]; omega⟩

section Enabled

variable {after : ReadLoop InputSensor} {delivered handled : List InputEvent}

/-- What settles a loop after a stretch of it settles it before. -/
theorem Settles.of_handles (handles : Handles reports loop delivered handled after)
    (enabled : loop.sensor.mEnabled = true) {capacity : ℕ} {more : List InputEvent}
    (settles : Settles reports capacity after.count
      (after.sensor.mInputReader.content ++ more)) :
    Settles reports capacity loop.count
      (loop.sensor.mInputReader.content ++ (delivered ++ more)) := by
  obtain ⟨handled', rest, split, fits, ends⟩ := settles
  have count := handles.count
  rw [if_pos enabled] at count
  refine ⟨handled ++ handled', rest, ?_, ?_, ?_⟩
  · rw [← List.append_assoc, handles.events, List.append_assoc, split, List.append_assoc]
  · rw [syncs_append]
    omega
  · rw [syncs_append, reportedSyncs_append]
    apply ends.imp
    · omega
    · rintro ⟨used, full⟩
      exact ⟨by omega, full⟩

/-- A loop that does not ask has been settled. -/
theorem settles_of_not_asks (order : loop.sensor.mInputReader.InOrder)
    (enabled : loop.sensor.mEnabled = true) (room : 0 ≤ loop.count)
    (none_ : loop.received = []) (ends : ¬ loop.Asks reports) :
    Settles reports loop.sensor.mInputReader.numEvents loop.count
      loop.sensor.mInputReader.content := by
  obtain ⟨⟨handled, handles⟩, last⟩ := Handles.receive GyroSensor.update reports order
  have events := handles.events
  have count := handles.count
  have received := handles.received
  have left := handles.room room
  rw [if_pos enabled] at count received
  rw [none_, List.length_nil] at received
  rw [List.append_nil] at events
  refine ⟨handled, _, events, by omega, ?_⟩
  by_cases reported : (loop.receive GyroSensor.update reports).received = []
  · -- Nothing is reported, so the buffer is full.
    have full : (loop.receive GyroSensor.update reports).sensor.mInputReader.mFreeSpace = 0 := by
      by_contra space
      exact ends ⟨reported, handles.enabled.trans enabled, space⟩
    have available := handles.order.available_eq
    have capacity := handles.order.capacity
    have kept := loop.receive_numEvents GyroSensor.update reports
    rw [← InputEventCircularReader.length_content] at available
    right
    rcases last with used | empty
    · exact ⟨by omega, by omega⟩
    · rw [empty, List.length_nil] at available
      omega
  · left
    have some_ : (loop.receive GyroSensor.update reports).received.length ≠ 0 :=
      fun zero => reported (List.length_eq_zero_iff.mp zero)
    omega

/-- What a loop that waits has done. -/
theorem handles_of_waiting {reads : List ReadResult} (order : loop.sensor.mInputReader.InOrder)
    (waits : waiting reports reads loop = some after) :
    (∃ handled, Handles reports loop (reads.flatMap ReadResult.delivered) handled after) ∧
      (after.count = 0 ∨ after.sensor.mInputReader.content = []) ∧ after.received = [] ∧
      after.sensor.mInputReader.mFreeSpace ≠ 0 ∧
      after.sensor.mInputReader.numEvents = loop.sensor.mInputReader.numEvents := by
  induction reads generalizing loop with
  | nil =>
      by_cases asks : loop.Asks reports
      · rw [waiting_nil asks] at waits
        cases waits
        obtain ⟨handles, last⟩ := Handles.receive GyroSensor.update reports order
        exact ⟨handles, last, asks.1, asks.2.2, loop.receive_numEvents _ _⟩
      · rw [waiting_of_not_asks asks] at waits
        cases waits
  | cons read rest ih =>
      obtain ⟨asks, mInputReader, n, filled, -, later⟩ := waiting_cons_eq_some waits
      obtain ⟨⟨handled, received⟩, -⟩ := Handles.receive GyroSensor.update reports order
      obtain ⟨delivered, fill, taken, -⟩ := Handles.fill reports _ received.order filled
      obtain ⟨⟨handled', last⟩, ends, none_, space, capacity⟩ := ih fill.order later
      have kept := InputEventCircularReader.fill_numEvents filled
      rw [loop.receive_numEvents] at kept
      refine ⟨⟨handled ++ [] ++ handled', ?_⟩, ends, none_, space, capacity.trans kept⟩
      have all := (received.trans fill).trans last
      rw [List.flatMap_cons]
      rw [List.flatMap_singleton, List.flatMap_nil, List.append_nil] at taken
      rw [taken]
      exact all

/-- A loop that waits has not been settled. -/
theorem not_settles_of_waiting {reads : List ReadResult}
    (order : loop.sensor.mInputReader.InOrder) (enabled : loop.sensor.mEnabled = true)
    (room : 0 ≤ loop.count) (waits : waiting reports reads loop = some after) :
    ¬ Settles reports loop.sensor.mInputReader.numEvents loop.count
      (loop.sensor.mInputReader.content ++ reads.flatMap ReadResult.delivered) := by
  rintro ⟨first, rest, split, fits, ends⟩
  obtain ⟨⟨handled, handles⟩, last, none_, space, capacity⟩ := handles_of_waiting order waits
  have events := handles.events
  have count := handles.count
  have received := handles.received
  have available := handles.order.available_eq
  have bound := handles.order.bound
  rw [if_pos enabled] at count received
  rw [none_, List.length_nil] at received
  rw [← InputEventCircularReader.length_content] at available
  rw [split] at events
  have free := handles.order.free
  -- Either of the two beginnings of the events is a part of the other.
  rcases List.append_eq_append_iff.mp events with ⟨more, longer, left⟩ | ⟨more, longer, left⟩
  · have reported := reportedSyncs_append reports first more
    rw [← longer] at reported
    rcases ends with some_ | ⟨used, full⟩
    · omega
    · by_cases same : more = []
      · rw [same, List.nil_append] at left
        rw [← left] at available
        omega
      · have before := handles.needed room enabled first more longer same
        omega
  · have used := syncs_append handled more
    have reported := reportedSyncs_append reports handled more
    have fewer := reportedSyncs_le reports more
    rw [← longer] at used reported
    rcases ends with some_ | ⟨-, full⟩
    · rcases last with zero | empty
      · omega
      · rw [empty] at left
        rw [(List.append_eq_nil_iff.mp left.symm).1] at reported
        simp only [reportedSyncs, List.countP_nil] at reported some_ received
        omega
    · rw [left, List.length_append] at available
      omega

/-- `read` has given nothing, or the loop has been settled. -/
theorem settles_of_waiting_eq_none {reads : List ReadResult} (fit : FitLoop reports reads loop)
    (order : loop.sensor.mInputReader.InOrder) (enabled : loop.sensor.mEnabled = true)
    (room : 0 ≤ loop.count) (none_ : loop.received = [])
    (ends : waiting reports reads loop = none) :
    .events [] ∈ reads ∨ Settles reports loop.sensor.mInputReader.numEvents loop.count
      (loop.sensor.mInputReader.content ++ reads.flatMap ReadResult.delivered) := by
  induction reads generalizing loop with
  | nil =>
      by_cases asks : loop.Asks reports
      · rw [waiting_nil asks] at ends
        cases ends
      · exact Or.inr ((settles_of_not_asks order enabled room none_ asks).append _)
  | cons read rest ih =>
      by_cases asks : loop.Asks reports
      · obtain ⟨mInputReader, n, filled, nothing, fit'⟩ := fit.next asks
        rw [waiting_cons asks filled] at ends
        split at ends
        · next more =>
            obtain ⟨⟨handled, received⟩, -⟩ := Handles.receive GyroSensor.update reports order
            obtain ⟨delivered, fill, taken, -⟩ := Handles.fill reports _ received.order filled
            have turn := received.trans fill
            rw [List.flatMap_singleton, List.flatMap_nil, List.append_nil] at taken
            have kept := InputEventCircularReader.fill_numEvents filled
            rw [loop.receive_numEvents] at kept
            rcases ih (fit' more) fill.order (received.enabled.trans enabled)
              (received.room room) asks.1 ends with empty | settles
            · exact Or.inl (List.mem_cons_of_mem _ empty)
            · right
              have settled := Settles.of_handles turn enabled settles
              rw [List.flatMap_cons, taken]
              exact kept ▸ settled
        · next zero =>
            have empty := nothing.mp (not_ne_iff.mp zero)
            exact Or.inl (empty ▸ List.mem_cons_self ..)
      · exact Or.inr ((settles_of_not_asks order enabled room none_ asks).append _)

/-- A loop that waits has not been given nothing. -/
theorem not_mem_of_waiting {reads : List ReadResult}
    (waits : waiting reports reads loop = some after) : .events [] ∉ reads := by
  induction reads generalizing loop with
  | nil => exact List.not_mem_nil
  | cons read rest ih =>
      obtain ⟨asks, mInputReader, n, filled, more, later⟩ := waiting_cons_eq_some waits
      rw [List.mem_cons, not_or]
      refine ⟨?_, ih later⟩
      rintro rfl
      simp only [InputEventCircularReader.fill, if_neg asks.2.2] at filled
      split at filled
      · cases filled
        exact more rfl
      · cases filled

/-- **A loop with results that fit has an end exactly if** one of them is nothing or the events
settle it. -/
theorem waiting_eq_none_iff {reads : List ReadResult} (fit : FitLoop reports reads loop)
    (order : loop.sensor.mInputReader.InOrder) (enabled : loop.sensor.mEnabled = true)
    (room : 0 ≤ loop.count) (none_ : loop.received = []) :
    waiting reports reads loop = none ↔
      .events [] ∈ reads ∨ Settles reports loop.sensor.mInputReader.numEvents loop.count
        (loop.sensor.mInputReader.content ++ reads.flatMap ReadResult.delivered) := by
  refine ⟨settles_of_waiting_eq_none fit order enabled room none_, fun ends => ?_⟩
  cases waits : waiting reports reads loop with
  | none => rfl
  | some after =>
      rcases ends with empty | settles
      · exact absurd empty (not_mem_of_waiting waits)
      · exact absurd settles (not_settles_of_waiting order enabled room waits)

end Enabled

end Waiting

/-! ## A call -/

section Results

variable (results : ℕ → ReadResult)

theorem firstResults_cons (k : ℕ) : firstResults results (k + 1) =
    results 0 :: firstResults (fun i => results (i + 1)) k := by
  rw [firstResults, List.range_succ_eq_map, List.map_cons, List.map_map]
  rfl

theorem firstResults_concat (k : ℕ) :
    firstResults results (k + 1) = firstResults results k ++ [results k] := by
  rw [firstResults, List.range_succ, List.map_append]
  rfl

theorem mem_firstResults {k : ℕ} {read : ReadResult} :
    read ∈ firstResults results k ↔ ∃ i < k, results i = read := by
  simp [firstResults]

/-- A result of a beginning stands behind those before it. -/
theorem firstResults_split {k : ℕ} {earlier later : List ReadResult} {read : ReadResult}
    (split : firstResults results k = earlier ++ read :: later) :
    earlier = firstResults results earlier.length ∧ read = results earlier.length := by
  induction earlier generalizing results k with
  | nil =>
      cases k with
      | zero => cases split
      | succ k =>
          rw [firstResults_cons] at split
          exact ⟨rfl, (List.cons.inj split).1.symm⟩
  | cons first earlier ih =>
      cases k with
      | zero => cases split
      | succ k =>
          rw [firstResults_cons] at split
          obtain ⟨rfl, rest⟩ := List.cons.inj split
          obtain ⟨same, here⟩ := ih (fun i => results (i + 1)) rest
          exact ⟨by rw [List.length_cons, firstResults_cons, ← same], here⟩

end Results

section Call

open GyroSensor

variable {gyro : GyroSensor} {count : ℤ}

/-- The call behind its first `fill`. -/
def GyroSensor.begun (gyro : GyroSensor) (count : ℤ) (mInputReader : InputEventCircularReader) :
    ReadLoop InputSensor :=
  ⟨{ gyro.toInputSensor with mInputReader := mInputReader }, count, []⟩

/-- A call with a full buffer begins with the loop. -/
theorem asksFor_full (room : 1 ≤ count) (nothing : gyro.mHasPendingEvent = false)
    (full : gyro.mInputReader.mFreeSpace = 0) (reads : List ReadResult) :
    gyro.asksFor count reads = (waiting (gyro.mEnabledTime ≤ ·) reads
      (gyro.begun count gyro.mInputReader)).map (·.sensor.mInputReader.mFreeSpace) := by
  unfold asksFor
  rw [if_neg (by rw [nothing]; simp; omega), if_pos full]
  rfl

/-- A call with space in the buffer asks for it first. -/
theorem asksFor_nil (room : 1 ≤ count) (nothing : gyro.mHasPendingEvent = false)
    (space : gyro.mInputReader.mFreeSpace ≠ 0) :
    gyro.asksFor count [] = some gyro.mInputReader.mFreeSpace := by
  unfold asksFor
  rw [if_neg (by rw [nothing]; simp; omega), if_neg space]

theorem asksFor_cons (room : 1 ≤ count) (nothing : gyro.mHasPendingEvent = false)
    (space : gyro.mInputReader.mFreeSpace ≠ 0) {read : ReadResult}
    {mInputReader : InputEventCircularReader} {n : ℤ}
    (filled : gyro.mInputReader.fill [read] = some (mInputReader, n, []))
    (rest : List ReadResult) :
    gyro.asksFor count (read :: rest) = if n < 0 then none
      else (waiting (gyro.mEnabledTime ≤ ·) rest (gyro.begun count mInputReader)).map
        (·.sensor.mInputReader.mFreeSpace) := by
  unfold asksFor
  rw [if_neg (by rw [nothing]; simp; omega), if_neg space]
  dsimp only
  rw [filled]
  rfl

variable (sequence : ReadSequence gyro count)

/-- The results of a sequence fit into a call that begins with the loop. -/
theorem fitLoop_full (room : 1 ≤ count) (nothing : gyro.mHasPendingEvent = false)
    (full : gyro.mInputReader.mFreeSpace = 0) (k : ℕ) :
    FitLoop (gyro.mEnabledTime ≤ ·) (firstResults sequence.results k)
      (gyro.begun count gyro.mInputReader) := by
  intro earlier read later split after waits
  obtain ⟨same, here⟩ := firstResults_split sequence.results split
  rw [here]
  apply sequence.fits earlier.length
  rw [← same, asksFor_full room nothing full, waits]
  rfl

/-- And into the loop behind the first of them. -/
theorem fitLoop_space (room : 1 ≤ count) (nothing : gyro.mHasPendingEvent = false)
    (space : gyro.mInputReader.mFreeSpace ≠ 0) {mInputReader : InputEventCircularReader} {n : ℤ}
    (filled : gyro.mInputReader.fill [sequence.results 0] = some (mInputReader, n, []))
    (succeeds : ¬ n < 0) (k : ℕ) :
    FitLoop (gyro.mEnabledTime ≤ ·) (firstResults (fun i => sequence.results (i + 1)) k)
      (gyro.begun count mInputReader) := by
  intro earlier read later split after waits
  obtain ⟨same, here⟩ := firstResults_split _ split
  rw [here]
  apply sequence.fits (earlier.length + 1)
  rw [firstResults_cons, ← same, asksFor_cons room nothing space filled, if_neg succeeds, waits]
  rfl

/-- The first result is taken. -/
theorem fill_first (room : 1 ≤ count) (nothing : gyro.mHasPendingEvent = false)
    (space : gyro.mInputReader.mFreeSpace ≠ 0) :
    ∃ mInputReader n, gyro.mInputReader.fill [sequence.results 0] = some (mInputReader, n, []) ∧
      (n < 0 ↔ (sequence.results 0).succeeds = false) := by
  have fits := sequence.fits 0 _ (asksFor_nil room nothing space)
  obtain ⟨mInputReader, n, filled, fails, -⟩ := InputEventCircularReader.fill_fits space fits
  exact ⟨mInputReader, n, filled, fails⟩

/-- The call returns where its common part does. -/
theorem GyroSensor.readEvents_isSome (gyro : GyroSensor) (count : ℤ) (answers : ReadAnswers) :
    (gyro.readEvents count answers).isSome = true ↔
      (gyro.toInputSensor.readEvents (fun loop reads =>
        again (gyro.mEnabledTime ≤ ·) (reads.length + 1) loop reads) count answers).isSome =
          true := by
  unfold GyroSensor.readEvents
  split
  · next none_ =>
      rw [none_]
      exact Iff.rfl
  · next some_ =>
      rw [some_]
      exact iff_of_true rfl rfl

/-- Behind the first `fill`, the call returns where the loop has an end. -/
theorem InputSensor.readEvents_isSome {receive : ReadLoop InputSensor → List ReadResult →
      Option (ReadLoop InputSensor × List ReadResult)}
    {sensor : InputSensor} (room : 1 ≤ count) (nothing : sensor.mHasPendingEvent = false)
    {reads rest : List ReadResult} {mInputReader : InputEventCircularReader} {n : ℤ}
    (filled : sensor.mInputReader.fill reads = some (mInputReader, n, rest)) (now : ℤ)
    (syncs : ℕ → SyncAnswers) :
    (sensor.readEvents receive count ⟨reads, now, syncs⟩).isSome = true ↔
      n < 0 ∨ (receive ⟨{ sensor with mInputReader := mInputReader }, count, []⟩ rest).isSome =
        true := by
  have pending : ¬ sensor.mHasPendingEvent = true := Bool.eq_false_iff.mp nothing
  rw [InputSensor.readEvents, if_neg (by omega), if_neg pending, filled]
  dsimp only
  split
  · next negative => exact iff_of_true rfl (Or.inl negative)
  · next nonneg =>
      split
      · next none_ => simp [none_, nonneg]
      · next some_ => simp [some_]

/-- **A call returns with the results so far exactly if it does not ask for the next.** -/
theorem readEvents_isSome_iff (room : 1 ≤ count) (k : ℕ) (now : ℤ) (syncs : ℕ → SyncAnswers) :
    (gyro.readEvents count ⟨firstResults sequence.results k, now, syncs⟩).isSome = true ↔
      gyro.asksFor count (firstResults sequence.results k) = none := by
  rw [GyroSensor.readEvents_isSome]
  cases nothing : gyro.mHasPendingEvent with
  | true =>
      refine iff_of_true ?_ (if_pos (Or.inr nothing))
      rw [InputSensor.readEvents, if_neg (by omega), if_pos nothing]
      rfl
  | false =>
      by_cases full : gyro.mInputReader.mFreeSpace = 0
      · have filled : gyro.mInputReader.fill (firstResults sequence.results k) =
            some (gyro.mInputReader, 0, firstResults sequence.results k) := by
          unfold InputEventCircularReader.fill
          exact if_pos full
        have ends := again_isSome_iff (Nat.lt_succ_self _)
          (fitLoop_full sequence room nothing full k)
        rw [InputSensor.readEvents_isSome room nothing filled, asksFor_full room nothing full,
          Option.map_eq_none_iff, ← ends]
        exact or_iff_right (Int.lt_irrefl 0)
      · cases k with
        | zero =>
            rw [firstResults, List.range_zero, List.map_nil, asksFor_nil room nothing full]
            have pending : ¬ gyro.mHasPendingEvent = true := Bool.eq_false_iff.mp nothing
            rw [InputSensor.readEvents, if_neg (by omega), if_neg pending,
              InputEventCircularReader.fill, if_neg full]
            exact iff_of_false Bool.false_ne_true (Option.some_ne_none _)
        | succ k =>
            obtain ⟨mInputReader, n, first, -⟩ := fill_first sequence room nothing full
            have filled := InputEventCircularReader.fill_cons full (sequence.results 0)
              (firstResults (fun i => sequence.results (i + 1)) k)
            rw [first, Option.map_some] at filled
            rw [firstResults_cons, InputSensor.readEvents_isSome room nothing filled,
              asksFor_cons room nothing full first]
            by_cases negative : n < 0
            · rw [if_pos negative]
              exact iff_of_true (Or.inl negative) rfl
            · have ends := again_isSome_iff (Nat.lt_succ_self _)
                (fitLoop_space sequence room nothing full first negative k)
              rw [if_neg negative, Option.map_eq_none_iff, ← ends]
              exact or_iff_right negative

/-- A call returns exactly if it stops asking. -/
theorem returns_iff_exists (room : 1 ≤ count) : gyro.Returns count sequence.results ↔
    ∃ k, gyro.asksFor count (firstResults sequence.results k) = none := by
  constructor
  · rintro ⟨k, returns⟩
    exact ⟨k, (readEvents_isSome_iff sequence room k 0 fun _ => ⟨0, 0⟩).mp (returns _ _)⟩
  · rintro ⟨k, ends⟩
    exact ⟨k, fun now syncs => (readEvents_isSome_iff sequence room k now syncs).mpr ends⟩

/-! ## The end -/

/-- A loop that is not enabled does not wait. -/
theorem waiting_of_disabled {reports : ℤ → Bool} {loop : ReadLoop InputSensor}
    (order : loop.sensor.mInputReader.InOrder) (disabled : loop.sensor.mEnabled = false)
    (reads : List ReadResult) : waiting reports reads loop = none := by
  apply waiting_of_not_asks
  rintro ⟨-, enabled, -⟩
  obtain ⟨⟨handled, received⟩, -⟩ := Handles.receive GyroSensor.update reports order
  rw [received.enabled, disabled] at enabled
  cases enabled

/-- With a full buffer, a call ends when `read` gives nothing or the events settle it. -/
theorem asksFor_full_iff (order : gyro.mInputReader.InOrder) (room : 1 ≤ count)
    (nothing : gyro.mHasPendingEvent = false) (enabled : gyro.mEnabled = true)
    (full : gyro.mInputReader.mFreeSpace = 0) (k : ℕ) :
    gyro.asksFor count (firstResults sequence.results k) = none ↔
      (∃ i < k, sequence.results i = .events []) ∨
        Settles (gyro.mEnabledTime ≤ ·) gyro.mInputReader.numEvents count
          (gyro.mInputReader.content ++
            (firstResults sequence.results k).flatMap ReadResult.delivered) := by
  rw [asksFor_full room nothing full, Option.map_eq_none_iff, ← mem_firstResults]
  exact waiting_eq_none_iff (fitLoop_full sequence room nothing full k) order enabled
    (Int.le_of_lt room) rfl

/-- With space in the buffer, it ends also when the first `fill` fails. -/
theorem asksFor_space_iff (order : gyro.mInputReader.InOrder) (room : 1 ≤ count)
    (nothing : gyro.mHasPendingEvent = false) (enabled : gyro.mEnabled = true)
    (space : gyro.mInputReader.mFreeSpace ≠ 0) (k : ℕ) :
    gyro.asksFor count (firstResults sequence.results (k + 1)) = none ↔
      (sequence.results 0).succeeds = false ∨
        (∃ i < k, sequence.results (i + 1) = .events []) ∨
        Settles (gyro.mEnabledTime ≤ ·) gyro.mInputReader.numEvents count
          (gyro.mInputReader.content ++
            (firstResults sequence.results (k + 1)).flatMap ReadResult.delivered) := by
  obtain ⟨mInputReader, n, filled, fails⟩ := fill_first sequence room nothing space
  rw [firstResults_cons, asksFor_cons room nothing space filled, ← fails]
  by_cases negative : n < 0
  · rw [if_pos negative]
    exact iff_of_true rfl (Or.inl negative)
  · rw [if_neg negative, or_iff_right negative, Option.map_eq_none_iff,
      ← mem_firstResults fun i => sequence.results (i + 1)]
    obtain ⟨order', delivered, content, taken, -⟩ :=
      InputEventCircularReader.content_fill order filled
    have capacity := InputEventCircularReader.fill_numEvents filled
    rw [List.flatMap_singleton, List.flatMap_nil, List.append_nil] at taken
    have ends := waiting_eq_none_iff
      (fitLoop_space sequence room nothing space filled negative k) order' enabled
      (Int.le_of_lt room) rfl
    rw [List.flatMap_cons, taken, ← List.append_assoc, ← content, ← capacity]
    exact ends

/-- A call with the sensor off ends behind its first `fill`. -/
theorem exists_asksFor_disabled (order : gyro.mInputReader.InOrder) (room : 1 ≤ count)
    (nothing : gyro.mHasPendingEvent = false) (disabled : gyro.mEnabled = false) :
    ∃ k, gyro.asksFor count (firstResults sequence.results k) = none := by
  by_cases full : gyro.mInputReader.mFreeSpace = 0
  · refine ⟨0, ?_⟩
    have off : (gyro.begun count gyro.mInputReader).sensor.mEnabled = false := disabled
    rw [asksFor_full room nothing full, waiting_of_disabled order off]
    rfl
  · refine ⟨1, ?_⟩
    obtain ⟨mInputReader, n, filled, -⟩ := fill_first sequence room nothing full
    have order' := (InputEventCircularReader.content_fill order filled).1
    have off : (gyro.begun count mInputReader).sensor.mEnabled = false := disabled
    rw [firstResults_cons, asksFor_cons room nothing full filled, waiting_of_disabled order' off]
    exact ite_self _

/-- **A call stops asking exactly if it ends.** -/
theorem exists_asksFor_iff (order : gyro.mInputReader.InOrder) (room : 1 ≤ count) :
    (∃ k, gyro.asksFor count (firstResults sequence.results k) = none) ↔
      gyro.Ends count sequence.results := by
  unfold GyroSensor.Ends
  cases nothing : gyro.mHasPendingEvent with
  | true => exact iff_of_true ⟨0, if_pos (Or.inr nothing)⟩ (Or.inl rfl)
  | false =>
      rw [or_iff_right Bool.false_ne_true]
      cases enabled : gyro.mEnabled with
      | false =>
          have stops := exists_asksFor_disabled sequence order room nothing enabled
          exact iff_of_true stops (Or.inl rfl)
      | true =>
          rw [or_iff_right (nofun : ¬ true = false)]
          by_cases full : gyro.mInputReader.mFreeSpace = 0
          · have ends := asksFor_full_iff sequence order room nothing enabled full
            constructor
            · rintro ⟨k, stops⟩
              rcases (ends k).mp stops with ⟨i, -, empty⟩ | settles
              · exact Or.inr (Or.inl ⟨i, fun space => absurd full space, empty⟩)
              · exact Or.inr (Or.inr ⟨k, settles⟩)
            · rintro (⟨space, -⟩ | ⟨i, -, empty⟩ | ⟨k, settles⟩)
              · exact absurd full space
              · exact ⟨i + 1, (ends (i + 1)).mpr (Or.inl ⟨i, Nat.lt_succ_self i, empty⟩)⟩
              · exact ⟨k, (ends k).mpr (Or.inr settles)⟩
          · have ends := asksFor_space_iff sequence order room nothing enabled full
            constructor
            · rintro ⟨k, stops⟩
              cases k with
              | zero =>
                  rw [firstResults, List.range_zero, List.map_nil,
                    asksFor_nil room nothing full] at stops
                  cases stops
              | succ k =>
                  rcases (ends k).mp stops with fails | ⟨i, -, empty⟩ | settles
                  · exact Or.inl ⟨full, fails⟩
                  · exact Or.inr (Or.inl ⟨i + 1, fun _ => Nat.le_add_left 1 i, empty⟩)
                  · exact Or.inr (Or.inr ⟨k + 1, settles⟩)
            · rintro (⟨-, fails⟩ | ⟨i, later, empty⟩ | ⟨k, settles⟩)
              · exact ⟨1, (ends 0).mpr (Or.inl fails)⟩
              · obtain ⟨i, rfl⟩ := Nat.exists_eq_add_of_le' (later full)
                exact ⟨i + 2, (ends (i + 1)).mpr
                  (Or.inr (Or.inl ⟨i, Nat.lt_succ_self i, empty⟩))⟩
              · refine ⟨k + 1, (ends k).mpr (Or.inr (Or.inr ?_))⟩
                have more := settles.append (sequence.results k).delivered
                rw [firstResults_concat, List.flatMap_append, List.flatMap_singleton,
                  ← List.append_assoc]
                exact more

/-- **`GyroSensor::readEvents` returns exactly if** an event is pending, the sensor is off, the
first `fill` fails, `read` gives nothing at `again:`, or the events settle the call. -/
theorem returns_iff (order : gyro.mInputReader.InOrder) (room : 1 ≤ count) :
    gyro.Returns count sequence.results ↔ gyro.Ends count sequence.results :=
  (returns_iff_exists sequence room).trans (exists_asksFor_iff sequence order room)

end Call

/-! ## Sequences that stop delivering -/

section Stopped

open GyroSensor

variable {gyro : GyroSensor} {count : ℤ}

/-- The space asked for is not negative. -/
theorem asksFor_nonneg (order : gyro.mInputReader.InOrder) {reads : List ReadResult} {space : ℤ}
    (asks : gyro.asksFor count reads = some space) : 0 ≤ space := by
  have behind : ∀ (mInputReader : InputEventCircularReader) rest, mInputReader.InOrder →
      (waiting (gyro.mEnabledTime ≤ ·) rest (gyro.begun count mInputReader)).map
        (·.sensor.mInputReader.mFreeSpace) = some space → 0 ≤ space := by
    intro mInputReader rest order' waits
    obtain ⟨after, waits', rfl⟩ := Option.map_eq_some_iff.mp waits
    have start : (gyro.begun count mInputReader).sensor.mInputReader.InOrder := order'
    obtain ⟨⟨handled, handles⟩, -⟩ := handles_of_waiting start waits'
    exact handles.order.free
  unfold asksFor at asks
  split at asks
  · cases asks
  · split at asks
    · exact behind _ _ order asks
    · split at asks
      · cases asks
        exact order.free
      · split at asks
        · cases asks
        · next filled =>
            split at asks
            · cases asks
            · exact behind _ _ (InputEventCircularReader.content_fill order filled).1 asks

/-- The first space asked for is that of the buffer. -/
theorem asksFor_first {space : ℤ} (free : gyro.mInputReader.mFreeSpace ≠ 0)
    (asks : gyro.asksFor count [] = some space) : space = gyro.mInputReader.mFreeSpace := by
  unfold asksFor at asks
  split at asks
  · cases asks
  · exact (Option.some.inj asks).symm

/-- One result that fits, and then for ever one that writes nothing. -/
def ReadSequence.thenAlways (order : gyro.mInputReader.InOrder) (count : ℤ) (first : ReadResult)
    (fits : (first.size : ℤ) ≤ gyro.mInputReader.mFreeSpace) (always : ReadResult)
    (empty : always.size = 0) : ReadSequence gyro count where
  results k := if k = 0 then first else always
  fits k space asks := by
    have nonneg := asksFor_nonneg order asks
    split
    · next zero =>
        by_cases free : gyro.mInputReader.mFreeSpace = 0
        · omega
        · rw [zero] at asks
          rw [asksFor_first free asks]
          exact fits
    · rw [empty]
      exact nonneg

/-- Axis events settle nothing. -/
theorem not_settles_of_axes {reports : ℤ → Bool} {capacity : ℕ} {room : ℤ} (some_ : 1 ≤ room)
    {events : List InputEvent} (axes : ∀ event ∈ events, event.type ≠ evSyn) :
    ¬ Settles reports capacity room events := by
  rintro ⟨handled, rest, rfl, -, ends⟩
  have none_ : syncs handled = 0 := by
    refine List.countP_eq_zero.mpr fun event member => ?_
    simpa using axes event (List.mem_append_left _ member)
  have fewer := reportedSyncs_le reports handled
  rcases ends with reported | ⟨used, -⟩ <;> omega

/-- A gyroscope that is on, before its first read. -/
def GyroSensor.fresh : GyroSensor :=
  ⟨{ InputSensor.initial idGy fun _ => ⟨⟨0, 0⟩, 0, 0, 0⟩ with mEnabled := true }, 0⟩

theorem inOrder_fresh : GyroSensor.fresh.mInputReader.InOrder :=
  InputEventCircularReader.inOrder_new (by decide) _

/-- A value of the axis x and a sync event, and then nothing. -/
def packetRead : ReadSequence GyroSensor.fresh 1 :=
  .thenAlways inOrder_fresh 1
    (.events [⟨⟨0, 0⟩, evRel, eventTypeGyroX, 7⟩, ⟨⟨0, 0⟩, evSyn, 0, 0⟩]) (by decide)
    (.events []) rfl

/-- With a packet, the call returns. -/
theorem returns_iff_packet : GyroSensor.fresh.Returns 1 packetRead.results :=
  (returns_iff packetRead inOrder_fresh (by decide)).mpr
    (Or.inr (Or.inr (Or.inr (Or.inl ⟨1, fun _ => Nat.le_refl 1, rfl⟩))))

/-- A value of the axis x, and then for ever the error `ENODEV`. -/
def unpluggedRead : ReadSequence GyroSensor.fresh 1 :=
  .thenAlways inOrder_fresh 1 (.events [⟨⟨0, 0⟩, evRel, eventTypeGyroX, 7⟩]) (by decide)
    (.failed ⟨19, by decide⟩) rfl

/-- **Where the device is gone behind the first value of a packet, the call does not return.** -/
theorem not_returns :
    GyroSensor.fresh.mInputReader.InOrder ∧ ¬ GyroSensor.fresh.Returns 1 unpluggedRead.results := by
  refine ⟨inOrder_fresh, ?_⟩
  rw [returns_iff_exists unpluggedRead (by decide),
    exists_asksFor_iff unpluggedRead inOrder_fresh (by decide)]
  rintro (pending | off | ⟨-, fails⟩ | ⟨k, later, empty⟩ | ⟨k, settles⟩)
  · cases pending
  · cases off
  · cases fails
  · have positive : k ≠ 0 := Nat.one_le_iff_ne_zero.mp (later (by decide))
    have failed : unpluggedRead.results k = .failed ⟨19, by decide⟩ := if_neg positive
    rw [failed] at empty
    cases empty
  · refine not_settles_of_axes (by decide) ?_ settles
    intro event member
    rcases List.mem_append.mp member with unread | read
    · cases unread
    · obtain ⟨result, taken, delivered⟩ := List.mem_flatMap.mp read
      obtain ⟨i, -, rfl⟩ := (mem_firstResults _).mp taken
      by_cases first : i = 0
      · rw [first] at delivered
        rw [List.mem_singleton.mp delivered]
        decide
      · have failed : unpluggedRead.results i = .failed ⟨19, by decide⟩ := if_neg first
        rw [failed] at delivered
        cases delivered

end Stopped

end Msm8660.Sensors
