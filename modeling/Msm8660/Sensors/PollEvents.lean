import Mathlib.Data.Int.Notation
import Mathlib.Data.List.Basic
import Mathlib.Data.Option.Basic

/-!
# The loop of `pollEvents`

`sensors_poll_context_t::pollEvents` over any four drivers: it reads from those
that have something, asks `poll` while there is room, and returns when `poll` has
nothing more or the room is used up. What the drivers return and what `poll`
answers is not decided here. The calls of `readEvents` are recorded with the
drivers as they were before, so that a run can be told by them.
-/

set_option autoImplicit false

namespace Msm8660.Sensors

/-- The drivers, in the order of their indices. -/
inductive SensorDriver where
  | light
  | proximity
  | akm
  | gyro
deriving DecidableEq, Repr

/-- `mSensors`. -/
def SensorDriver.all : List SensorDriver := [.light, .proximity, .akm, .gyro]

theorem SensorDriver.mem_all (i : SensorDriver) : i ∈ SensorDriver.all := by
  cases i <;> decide

/-- What a call of `readEvents` leaves behind: the drivers, the value it returns,
and what it has written to `data[0]`, `data[1]` and so on. -/
structure Reading (S Event : Type*) where
  sensors : S
  nb : ℤ
  stored : List Event

/-- The drivers behind `mSensors`, in a state `S`, with the calls `α` by which
others change them. A call of `readEvents` that has no reading does not return. -/
structure SensorBase (S Event α : Type*) where
  hasPendingEvents : S → SensorDriver → Bool
  readEvents : S → SensorDriver → ℤ → Option (Reading S Event)
  act : S → α → S

/-- What `poll` answers: the number of descriptors that are ready, or an error.
The flags say for which drivers `revents` has `POLLIN`. Others may have changed the
drivers while it waited. -/
inductive PollAnswer (α : Type*) where
  | ready (n : ℕ) (revents : SensorDriver → Bool) (meanwhile : List α)
  | failed (errno : {e : ℤ // 0 < e}) (revents : SensorDriver → Bool) (meanwhile : List α)

/-- The drivers and the `POLLIN` flags of `mPollFds`. -/
structure PollContext (S : Type*) where
  sensors : S
  revents : SensorDriver → Bool

/-- A call of `readEvents`, with the drivers before it. -/
structure ReadCall (S Event : Type*) where
  before : S
  driver : SensorDriver
  count : ℤ
  nb : ℤ
  stored : List Event

/-- The variables of `pollEvents`. `data` is where the pointer stands in the array
of the caller, and `array` is what has been written to that. -/
structure PollLoop (S Event : Type*) extends PollContext S where
  count : ℤ
  nbEvents : ℤ
  data : ℤ
  array : ℤ → Option Event
  calls : List (ReadCall S Event)

/-- How far `pollEvents` has come. -/
inductive PollEnd where
  /-- it waits in `poll` -/
  | waiting
  | returned (nbEvents : ℤ)
  /-- `return -errno` -/
  | failed (errno : {e : ℤ // 0 < e})
deriving DecidableEq

/-- The value that is returned. -/
def PollEnd.value : PollEnd → Option ℤ
  | .waiting => none
  | .returned nbEvents => some nbEvents
  | .failed errno => some (-errno)

variable {S Event α : Type*}

/-- Writing events from an index on. -/
def store (array : ℤ → Option Event) (data : ℤ) (events : List Event) (index : ℤ) :
    Option Event :=
  if data ≤ index ∧ index < data + events.length then events[(index - data).toNat]?
  else array index

namespace PollLoop

/-- What the loop does with a reading. -/
def take (loop : PollLoop S Event) (i : SensorDriver) (reading : Reading S Event) :
    PollLoop S Event where
  sensors := reading.sensors
  revents := if reading.nb < loop.count then Function.update loop.revents i false
    else loop.revents
  count := loop.count - reading.nb
  nbEvents := loop.nbEvents + reading.nb
  data := loop.data + reading.nb
  array := store loop.array loop.data reading.stored
  calls := loop.calls ++ [⟨loop.sensors, i, loop.count, reading.nb, reading.stored⟩]

/-- The body of the `for` loop. -/
def readDriver (base : SensorBase S Event α) (loop : PollLoop S Event) (i : SensorDriver) :
    Option (PollLoop S Event) :=
  if loop.count ≠ 0 ∧ (loop.revents i || base.hasPendingEvents loop.sensors i) = true then
    (base.readEvents loop.sensors i loop.count).map (loop.take i)
  else some loop

/-- The `for` loop. -/
def readDrivers (base : SensorBase S Event α) (loop : PollLoop S Event) :
    Option (PollLoop S Event) :=
  SensorDriver.all.foldlM (readDriver base) loop

/-- What a call of `poll` changes. -/
def polled (base : SensorBase S Event α) (loop : PollLoop S Event)
    (revents : SensorDriver → Bool) (meanwhile : List α) : PollLoop S Event :=
  { loop with sensors := meanwhile.foldl base.act loop.sensors, revents := revents }

/-- The `do` loop, with the answers of `poll` in order. -/
def rounds (base : SensorBase S Event α) :
    List (PollAnswer α) → PollLoop S Event → Option (PollLoop S Event × PollEnd)
  | [], loop => (loop.readDrivers base).map fun loop =>
      (loop, if loop.count = 0 then .returned loop.nbEvents else .waiting)
  | answer :: rest, loop => (loop.readDrivers base).bind fun loop =>
      if loop.count = 0 then some (loop, .returned loop.nbEvents)
      else match answer with
        | .failed errno revents meanwhile =>
            some (loop.polled base revents meanwhile, .failed errno)
        | .ready n revents meanwhile =>
            if n = 0 then some (loop.polled base revents meanwhile, .returned loop.nbEvents)
            else rounds base rest (loop.polled base revents meanwhile)

end PollLoop

/-- The variables at the start. -/
def PollContext.start (context : PollContext S) (count : ℤ) : PollLoop S Event :=
  { context with count := count, nbEvents := 0, data := 0, array := fun _ => none, calls := [] }

/-- `sensors_poll_context_t::pollEvents`. -/
def PollContext.pollEvents (base : SensorBase S Event α) (context : PollContext S) (count : ℤ)
    (polls : List (PollAnswer α)) : Option (PollLoop S Event × PollEnd) :=
  (context.start count).rounds base polls

/-! ## Rules for the loops -/

section Rules

variable {base : SensorBase S Event α} {loop after : PollLoop S Event}

namespace PollLoop

/-- One turn of the `for` loop passes the driver over or takes its reading. -/
theorem readDriver_cases {i : SensorDriver} (reached : after ∈ loop.readDriver base i) :
    after = loop ∧ (loop.count = 0 ∨
        loop.revents i = false ∧ base.hasPendingEvents loop.sensors i = false) ∨
      ∃ reading ∈ base.readEvents loop.sensors i loop.count, after = loop.take i reading ∧
        loop.count ≠ 0 ∧ (loop.revents i = true ∨ base.hasPendingEvents loop.sensors i = true) := by
  unfold readDriver at reached
  split at reached
  · next asked =>
      obtain ⟨reading, given, same⟩ := Option.map_eq_some_iff.mp reached
      exact Or.inr ⟨reading, given, same.symm, asked.1, (Bool.or_eq_true _ _).mp asked.2⟩
  · next passed =>
      refine Or.inl ⟨(Option.some.inj reached).symm, ?_⟩
      by_cases full : loop.count = 0
      · exact Or.inl full
      · have idle : ¬ (loop.revents i || base.hasPendingEvents loop.sensors i) = true :=
          fun asked => passed ⟨full, asked⟩
        rw [Bool.not_eq_true, Bool.or_eq_false_iff] at idle
        exact Or.inr idle

/-- **The rule for the `for` loop**, with the drivers that it has come by. -/
theorem readDrivers_induction (Inv : List SensorDriver → PollLoop S Event → Prop)
    (turn : ∀ visited i loop, Inv visited loop → ∀ after ∈ readDriver base loop i,
      Inv (visited ++ [i]) after)
    (start : Inv [] loop) (reached : after ∈ loop.readDrivers base) :
    Inv SensorDriver.all after := by
  have general : ∀ (drivers visited : List SensorDriver) (loop : PollLoop S Event),
      Inv visited loop → ∀ after ∈ drivers.foldlM (readDriver base) loop,
        Inv (visited ++ drivers) after := by
    intro drivers
    induction drivers with
    | nil =>
        intro visited loop inv after reached
        cases reached
        rw [List.append_nil]
        exact inv
    | cons i rest ih =>
        intro visited loop inv after reached
        obtain ⟨middle, early, late⟩ := Option.bind_eq_some_iff.mp reached
        rw [List.append_cons]
        exact ih _ middle (turn visited i loop inv middle early) after late
  exact general SensorDriver.all [] loop start after reached

/-- **The rule for the `do` loop.** `Inv` holds before every round and in the end,
`Mid` behind the `for` loop. -/
theorem rounds_induction (Inv Mid : PollLoop S Event → Prop)
    (reads : ∀ loop, Inv loop → ∀ after ∈ loop.readDrivers base, Mid after)
    (settles : ∀ loop, Mid loop → Inv loop)
    (polled : ∀ loop revents meanwhile, Mid loop → loop.count ≠ 0 →
      Inv (loop.polled base revents meanwhile))
    {polls : List (PollAnswer α)} (start : Inv loop) {final : PollLoop S Event × PollEnd}
    (reached : final ∈ loop.rounds base polls) : Inv final.1 := by
  induction polls generalizing loop with
  | nil =>
      obtain ⟨middle, early, rfl⟩ := Option.map_eq_some_iff.mp reached
      exact settles middle (reads loop start middle early)
  | cons answer rest ih =>
      obtain ⟨middle, early, late⟩ := Option.bind_eq_some_iff.mp reached
      have mid := reads loop start middle early
      split at late
      · cases late
        exact settles middle mid
      · next room =>
          cases answer with
          | failed errno revents meanwhile =>
              cases late
              exact polled middle revents meanwhile mid room
          | ready n revents meanwhile =>
              simp only [] at late
              split at late
              · cases late
                exact polled middle revents meanwhile mid room
              · exact ih (polled middle revents meanwhile mid room) late

/-- What is returned is `nbEvents`. -/
theorem rounds_returned {polls : List (PollAnswer α)} {final : PollLoop S Event × PollEnd}
    (reached : final ∈ loop.rounds base polls) {nbEvents : ℤ}
    (returned : final.2 = .returned nbEvents) : nbEvents = final.1.nbEvents := by
  induction polls generalizing loop with
  | nil =>
      obtain ⟨middle, early, rfl⟩ := Option.map_eq_some_iff.mp reached
      simp only [] at returned
      split at returned
      · cases returned
        rfl
      · cases returned
  | cons answer rest ih =>
      obtain ⟨middle, early, late⟩ := Option.bind_eq_some_iff.mp reached
      split at late
      · cases late
        cases returned
        rfl
      · cases answer with
        | failed errno revents meanwhile =>
            cases late
            cases returned
        | ready n revents meanwhile =>
            simp only [] at late
            split at late
            · cases late
              cases returned
              rfl
            · exact ih late

end PollLoop

end Rules

end Msm8660.Sensors
