import Mathlib.Data.Int.Notation
import Mathlib.Data.List.Basic
import Mathlib.Data.Nat.Notation

/-!
# The reader of input events

`InputEventCircularReader` keeps the events of a descriptor in a buffer of twice its
capacity `N`. A read may run over the end of the first half; what lies behind it is
then copied to the front. `mHead` may rest on the end of the first half, `mCurr`
never does. A reader in order (`InOrder`) is a queue: `fill` appends what has been
read (`content_fill`), `readEvent` shows the first event and `next` removes it
(`content_eq_cons`).
-/

set_option autoImplicit false

namespace Msm8660.Sensors

/-- `struct timeval`. -/
structure Timeval where
  tvSec : ℤ
  tvUsec : ℤ
deriving DecidableEq, Repr

/-- `struct input_event`. -/
structure InputEvent where
  time : Timeval
  type : ℕ
  code : ℕ
  value : ℤ
deriving DecidableEq, Repr

/-- What `read` does: it delivers whole events, it fails, or it ends within an event.
Of the last it matters only what it has written. -/
inductive ReadResult where
  | events (delivered : List InputEvent)
  | failed (errno : {e : ℤ // 0 < e})
  | partialEvent (written : List InputEvent)
deriving DecidableEq

/-- The whole events that are read. -/
def ReadResult.delivered : ReadResult → List InputEvent
  | .events delivered => delivered
  | _ => []

/-- Whether `read` succeeds. -/
def ReadResult.succeeds : ReadResult → Bool
  | .events _ => true
  | _ => false

/-- `EINVAL`. -/
def einval : ℤ := 22

/-- `InputEventCircularReader`, with its pointers as indices into `mBuffer`. -/
structure InputEventCircularReader where
  /-- `mBufferEnd - mBuffer` -/
  numEvents : ℕ
  mBuffer : ℕ → InputEvent
  mHead : ℕ
  mCurr : ℕ
  mFreeSpace : ℤ

/-- Writing events into the buffer from an index on. -/
def writeBuffer (buffer : ℕ → InputEvent) (start : ℕ) (events : List InputEvent) (slot : ℕ) :
    InputEvent :=
  if start ≤ slot ∧ slot < start + events.length then events.getD (slot - start) (buffer slot)
  else buffer slot

namespace InputEventCircularReader

/-- The constructor. What `new` leaves in the buffer is not known. -/
def new (numEvents : ℕ) (mBuffer : ℕ → InputEvent) : InputEventCircularReader :=
  ⟨numEvents, mBuffer, 0, 0, numEvents⟩

/-- "mHead += numEventsRead", with the part behind the first half copied to the
front. -/
def advance (reader : InputEventCircularReader) (events : List InputEvent) :
    InputEventCircularReader :=
  let mBuffer := writeBuffer reader.mBuffer reader.mHead events
  let mHead := reader.mHead + events.length
  let mFreeSpace := reader.mFreeSpace - events.length
  if reader.numEvents < mHead then
    let s := mHead - reader.numEvents
    { reader with
      mBuffer := fun slot => if slot < s then mBuffer (reader.numEvents + slot) else mBuffer slot
      mHead := s
      mFreeSpace := mFreeSpace }
  else { reader with mBuffer := mBuffer, mHead := mHead, mFreeSpace := mFreeSpace }

/-- `fill`, with what the calls of `read` to come do. It returns the number of events
read and the calls that are left. There is no result for a `read` that does not
return, or that delivers more than was asked for. -/
def fill (reader : InputEventCircularReader) (reads : List ReadResult) :
    Option (InputEventCircularReader × ℤ × List ReadResult) :=
  if reader.mFreeSpace = 0 then some (reader, 0, reads)
  else match reads with
    | [] => none
    | .failed errno :: reads => some (reader, -errno, reads)
    | .partialEvent written :: reads =>
        if written.length ≤ reader.mFreeSpace then
          some ({ reader with mBuffer := writeBuffer reader.mBuffer reader.mHead written },
            -einval, reads)
        else none
    | .events delivered :: reads =>
        if delivered.length ≤ reader.mFreeSpace then
          some (reader.advance delivered, delivered.length, reads)
        else none

/-- `readEvent`, with the event at `mCurr` when it returns 1. -/
def readEvent (reader : InputEventCircularReader) : Option InputEvent :=
  if reader.numEvents - reader.mFreeSpace ≠ 0 then some (reader.mBuffer reader.mCurr) else none

/-- `next`. -/
def next (reader : InputEventCircularReader) : InputEventCircularReader :=
  let mCurr := reader.mCurr + 1
  { reader with
    mCurr := if reader.numEvents ≤ mCurr then 0 else mCurr
    mFreeSpace := reader.mFreeSpace + 1 }

/-! ## The queue -/

/-- The number of unread events. -/
def available (reader : InputEventCircularReader) : ℕ :=
  (reader.numEvents - reader.mFreeSpace).toNat

/-- The slot of the unread event at a position. -/
def slot (reader : InputEventCircularReader) (position : ℕ) : ℕ :=
  if reader.mCurr + position < reader.numEvents then reader.mCurr + position
  else reader.mCurr + position - reader.numEvents

/-- The unread events. -/
def content (reader : InputEventCircularReader) : List InputEvent :=
  (List.range reader.available).map fun position => reader.mBuffer (reader.slot position)

/-- The indices of a reader agree with its free space. In the last case of `head` the
queue is empty, `mHead` rests on the end and `mCurr` has wrapped. -/
structure InOrder (reader : InputEventCircularReader) : Prop where
  capacity : 0 < reader.numEvents
  free : 0 ≤ reader.mFreeSpace
  bound : reader.mFreeSpace ≤ reader.numEvents
  curr : reader.mCurr < reader.numEvents
  head : reader.mHead = reader.mCurr + reader.available ∨
    reader.mHead + reader.numEvents = reader.mCurr + reader.available ∨
    reader.mHead = reader.numEvents ∧ reader.mCurr = 0 ∧ reader.available = 0
  end_ : reader.mHead ≤ reader.numEvents

section Queue

variable {reader : InputEventCircularReader}

theorem inOrder_new {numEvents : ℕ} (capacity : 0 < numEvents) (mBuffer : ℕ → InputEvent) :
    (new numEvents mBuffer).InOrder where
  capacity := capacity
  free := by simp [new]
  bound := Int.le_refl _
  curr := capacity
  head := Or.inl (by simp [new, available])
  end_ := Nat.zero_le _

theorem content_new (numEvents : ℕ) (mBuffer : ℕ → InputEvent) :
    (new numEvents mBuffer).content = [] := by
  simp [content, available, new]

theorem InOrder.available_eq (order : reader.InOrder) :
    (reader.available : ℤ) = reader.numEvents - reader.mFreeSpace := by
  have bound := order.bound
  unfold available
  omega

theorem length_content : reader.content.length = reader.available := by
  simp [content]

/-- `readEvent` returns 0 exactly on an empty queue. -/
theorem readEvent_eq_none_iff (order : reader.InOrder) :
    reader.readEvent = none ↔ reader.content = [] := by
  rw [← List.length_eq_zero_iff, length_content]
  have available := order.available_eq
  unfold readEvent
  split
  · simp only [reduceCtorEq, false_iff]
    omega
  · simp only [true_iff]
    omega

/-- `readEvent` shows the first event, and `next` removes it. -/
theorem content_eq_cons (order : reader.InOrder) {event : InputEvent}
    (shown : reader.readEvent = some event) :
    reader.content = event :: reader.next.content ∧ reader.next.InOrder := by
  have available := order.available_eq
  have curr := order.curr
  have free := order.free
  have bound := order.bound
  have head := order.head
  unfold readEvent at shown
  split at shown
  · next unread =>
      have more : reader.available = reader.next.available + 1 := by
        simp only [next, InputEventCircularReader.available]
        omega
      refine ⟨?_, ?_⟩
      · rw [content, more, List.range_succ_eq_map, List.map_cons, List.map_map, content]
        refine congrArg₂ List.cons ?_ (List.map_congr_left fun position member => ?_)
        · rw [slot, if_pos (by omega)]
          exact Option.some.inj shown
        · have inside := List.mem_range.mp member
          simp only [Function.comp_apply, next, slot]
          refine congrArg reader.mBuffer ?_
          split <;> split <;> split <;> omega
      · constructor
        case capacity => exact order.capacity
        case free =>
          simp only [next]
          omega
        case bound =>
          simp only [next]
          omega
        case curr =>
          simp only [next]
          split <;> omega
        case head =>
          have moved : reader.next.mCurr =
              if reader.numEvents ≤ reader.mCurr + 1 then 0 else reader.mCurr + 1 := rfl
          have head' : reader.next.mHead = reader.mHead := rfl
          have capacity : reader.next.numEvents = reader.numEvents := rfl
          have end_ := order.end_
          rw [moved, head', capacity]
          split <;> omega
        case end_ => exact order.end_
  · cases shown

theorem writeBuffer_inside (buffer : ℕ → InputEvent) (start : ℕ) {events : List InputEvent}
    (i : ℕ) (here : i < events.length) :
    writeBuffer buffer start events (start + i) = events[i] := by
  rw [writeBuffer, if_pos (by omega), Nat.add_sub_cancel_left, List.getD_eq_getElem?_getD,
    List.getElem?_eq_getElem here, Option.getD_some]

theorem writeBuffer_outside {buffer : ℕ → InputEvent} {start slot : ℕ} {events : List InputEvent}
    (outside : slot < start ∨ start + events.length ≤ slot) :
    writeBuffer buffer start events slot = buffer slot := by
  rw [writeBuffer, if_neg (by omega)]

/-- Writing behind `mHead`, where there is room, keeps what is unread. -/
theorem writeBuffer_slot (order : reader.InOrder) {events : List InputEvent}
    (fits : events.length ≤ reader.mFreeSpace) {position : ℕ}
    (unread : position < reader.available) :
    writeBuffer reader.mBuffer reader.mHead events (reader.slot position) =
      reader.mBuffer (reader.slot position) := by
  have available := order.available_eq
  have curr := order.curr
  have head := order.head
  have end_ := order.end_
  refine writeBuffer_outside ?_
  unfold slot
  split <;> omega

section Advance

variable (reader) (events : List InputEvent)

@[simp] theorem advance_numEvents : (reader.advance events).numEvents = reader.numEvents := by
  simp only [advance]
  split <;> rfl

@[simp] theorem advance_mCurr : (reader.advance events).mCurr = reader.mCurr := by
  simp only [advance]
  split <;> rfl

@[simp] theorem advance_mFreeSpace :
    (reader.advance events).mFreeSpace = reader.mFreeSpace - events.length := by
  simp only [advance]
  split <;> rfl

theorem advance_mHead : (reader.advance events).mHead =
    if reader.numEvents < reader.mHead + events.length then
      reader.mHead + events.length - reader.numEvents
    else reader.mHead + events.length := by
  simp only [advance]
  split <;> rfl

theorem advance_mBuffer (slot : ℕ) : (reader.advance events).mBuffer slot =
    if slot < reader.mHead + events.length - reader.numEvents then
      writeBuffer reader.mBuffer reader.mHead events (reader.numEvents + slot)
    else writeBuffer reader.mBuffer reader.mHead events slot := by
  simp only [advance]
  split
  · rfl
  · rw [if_neg (by omega)]

theorem advance_slot (position : ℕ) :
    (reader.advance events).slot position = reader.slot position := by
  simp [slot]

end Advance

theorem available_advance (order : reader.InOrder) (events : List InputEvent) :
    (reader.advance events).available = reader.available + events.length := by
  have available := order.available_eq
  rw [InputEventCircularReader.available, advance_numEvents, advance_mFreeSpace]
  omega

/-- Reading appends to the queue, wherever the second half comes in. -/
theorem content_advance (order : reader.InOrder) {events : List InputEvent}
    (fits : events.length ≤ reader.mFreeSpace) :
    (reader.advance events).content = reader.content ++ events := by
  have available := order.available_eq
  have curr := order.curr
  have head := order.head
  have end_ := order.end_
  rw [content, available_advance order events, List.range_add, List.map_append, List.map_map,
    content]
  refine congrArg₂ (· ++ ·) (List.map_congr_left fun position member => ?_) ?_
  · have unread := List.mem_range.mp member
    rw [advance_slot, advance_mBuffer, if_neg, writeBuffer_slot order fits unread]
    unfold slot
    split <;> omega
  · apply List.ext_getElem (by simp)
    intro i _ here
    simp only [List.getElem_map, List.getElem_range, Function.comp_apply, advance_slot,
      advance_mBuffer]
    have written := writeBuffer_inside reader.mBuffer reader.mHead i here
    rw [← written]
    by_cases wraps : reader.numEvents ≤ reader.mHead + i
    · have front : reader.numEvents + reader.slot (reader.available + i) = reader.mHead + i := by
        unfold slot
        split <;> omega
      rw [if_pos (by omega), front]
    · have behind : reader.slot (reader.available + i) = reader.mHead + i := by
        unfold slot
        split <;> omega
      rw [if_neg (by omega), behind]

theorem inOrder_advance (order : reader.InOrder) {events : List InputEvent}
    (fits : events.length ≤ reader.mFreeSpace) : (reader.advance events).InOrder := by
  have available := order.available_eq
  have curr := order.curr
  have head := order.head
  have end_ := order.end_
  have free := order.free
  have bound := order.bound
  constructor
  case capacity => simpa using order.capacity
  case free =>
    rw [advance_mFreeSpace]
    omega
  case bound =>
    rw [advance_mFreeSpace, advance_numEvents]
    omega
  case curr => simpa using order.curr
  case head =>
    rw [available_advance order events, advance_numEvents, advance_mCurr, advance_mHead]
    split <;> omega
  case end_ =>
    rw [advance_mHead, advance_numEvents]
    split <;> omega

/-- What a failing `read` has written is not unread. -/
theorem content_overwrite (order : reader.InOrder) {written : List InputEvent}
    (fits : written.length ≤ reader.mFreeSpace) :
    InOrder { reader with mBuffer := writeBuffer reader.mBuffer reader.mHead written } ∧
      content { reader with mBuffer := writeBuffer reader.mBuffer reader.mHead written } =
        reader.content := by
  refine ⟨⟨order.capacity, order.free, order.bound, order.curr, order.head, order.end_⟩, ?_⟩
  apply List.map_congr_left
  intro position member
  exact writeBuffer_slot order fits (List.mem_range.mp member)

/-- Whatever `read` does, the queue is kept, and what is delivered is appended. -/
theorem content_fill (order : reader.InOrder) {reads : List ReadResult}
    {after : InputEventCircularReader} {n : ℤ} {rest : List ReadResult}
    (filled : reader.fill reads = some (after, n, rest)) :
    after.InOrder ∧ ∃ delivered, after.content = reader.content ++ delivered ∧
      reads.flatMap ReadResult.delivered = delivered ++ rest.flatMap ReadResult.delivered ∧
      (n = delivered.length ∨ n < 0 ∧ delivered = []) := by
  unfold fill at filled
  split at filled
  · cases filled
    exact ⟨order, [], (List.append_nil _).symm, rfl, Or.inl rfl⟩
  · cases reads with
    | nil => cases filled
    | cons read reads =>
        cases read with
        | failed errno =>
            cases filled
            have positive := errno.2
            exact ⟨order, [], (List.append_nil _).symm, rfl, Or.inr ⟨by omega, rfl⟩⟩
        | partialEvent written =>
            simp only [] at filled
            split at filled
            · next fits =>
                cases filled
                obtain ⟨order', kept⟩ := content_overwrite order fits
                refine ⟨order', [], ?_, rfl, Or.inr ⟨by decide, rfl⟩⟩
                rw [List.append_nil]
                exact kept
            · cases filled
        | events delivered =>
            simp only [] at filled
            split at filled
            · next fits =>
                cases filled
                exact ⟨inOrder_advance order fits, delivered, content_advance order fits, rfl,
                  Or.inl rfl⟩
            · cases filled

/-- Where `read` succeeds, `fill` does. -/
theorem fill_succeeds {reads : List ReadResult} (succeed : ∀ read ∈ reads, read.succeeds = true)
    {after : InputEventCircularReader} {n : ℤ} {rest : List ReadResult}
    (filled : reader.fill reads = some (after, n, rest)) :
    0 ≤ n ∧ ∀ read ∈ rest, read.succeeds = true := by
  unfold fill at filled
  split at filled
  · cases filled
    exact ⟨Int.le_refl 0, succeed⟩
  · cases reads with
    | nil => cases filled
    | cons read reads =>
        obtain ⟨here, later⟩ := List.forall_mem_cons.mp succeed
        cases read with
        | failed errno => cases here
        | partialEvent written => cases here
        | events delivered =>
            simp only [] at filled
            split at filled
            · cases filled
              exact ⟨Int.natCast_nonneg _, later⟩
            · cases filled

/-- An error of `fill` is one of `read`. -/
theorem fill_fails {reads : List ReadResult} {after : InputEventCircularReader} {n : ℤ}
    {rest : List ReadResult} (filled : reader.fill reads = some (after, n, rest))
    (negative : n < 0) : ∃ read ∈ reads, read.succeeds = false := by
  by_contra spared
  have succeed : ∀ read ∈ reads, read.succeeds = true := by
    intro read member
    by_contra fails
    exact spared ⟨read, member, Bool.eq_false_iff.mpr fails⟩
  have nonneg := (fill_succeeds succeed filled).1
  omega

end Queue

end InputEventCircularReader

end Msm8660.Sensors
