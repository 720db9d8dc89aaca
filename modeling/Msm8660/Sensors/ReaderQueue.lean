import Msm8660.Lib.Machine
import Msm8660.Sensors.InputEventReader

/-!
# The reader is a bounded queue

The calls `fill`, `readEvent` and `next` of one `InputEventCircularReader` in any
order, where `next` waits for a `readEvent` that has returned 1. Beside the reader
stands what it is for: a queue of at most `N` events (`queueMachine`). The reader
simulates it (`reader_simulates`), and what a queue hands out is what it has taken
in (`queue_account`). The slots that a call touches are those that the kernel may
write, those that `memcpy` reads and writes, and the one that `readEvent` shows.
-/

set_option autoImplicit false

namespace Msm8660.Sensors

open InputEventCircularReader

/-- A call of the reader. What `read` does is part of the call of `fill`. -/
inductive ReaderCall where
  | fill (read : ReadResult)
  | readEvent
  | next

/-- What a call returns: `fill` the events it has taken in and a number, `readEvent`
the event it shows, if there is one. -/
inductive ReaderReturn where
  | filled (delivered : List InputEvent) (n : ℤ)
  | shown (event : Option InputEvent)
  | moved
deriving DecidableEq

/-- A reader, and whether `readEvent` has returned 1 since the last `next`. -/
structure ReaderState where
  reader : InputEventCircularReader
  seen : Bool

namespace ReaderState

/-- One call. A `read` that delivers more than was asked for does not happen, and
`next` is not called before `readEvent` has returned 1. -/
def call (state : ReaderState) : ReaderCall → ReaderState × List ReaderReturn
  | .fill read =>
      match state.reader.fill [read] with
      | none => (state, [])
      | some (reader, n, rest) =>
          ({ state with reader := reader },
            [.filled (if rest = [] then read.delivered else []) n])
  | .readEvent =>
      match state.reader.readEvent with
      | none => (state, [.shown none])
      | some event => ({ state with seen := true }, [.shown (some event)])
  | .next => if state.seen then (⟨state.reader.next, false⟩, [.moved]) else (state, [])

/-- The slots of `mBuffer` that a call touches: all that `read` has been offered, both
sides of the copy, and the event that is shown. -/
def touched (state : ReaderState) : ReaderCall → List ℕ
  | .fill read =>
      if state.reader.mFreeSpace = 0 ∨ state.reader.mFreeSpace < read.delivered.length then []
      else
        let s := state.reader.mHead + read.delivered.length - state.reader.numEvents
        (List.range state.reader.mFreeSpace.toNat).map (state.reader.mHead + ·) ++
          (List.range s).map (state.reader.numEvents + ·) ++ List.range s
  | .readEvent => if state.reader.readEvent.isSome then [state.reader.mCurr] else []
  | .next => []

end ReaderState

/-- The reader as a machine. -/
def readerMachine : Machine ReaderState ReaderCall ReaderReturn where
  step := ReaderState.call

/-- A queue of events, and whether its first event has been shown. -/
structure EventQueue where
  content : List InputEvent
  seen : Bool
deriving DecidableEq

/-- One call of a queue of at most `capacity` events. -/
def EventQueue.call (capacity : ℕ) (queue : EventQueue) :
    ReaderCall → EventQueue × List ReaderReturn
  | .fill read =>
      if queue.content.length = capacity then (queue, [.filled [] 0])
      else match read with
        | .failed errno => (queue, [.filled [] (-errno)])
        | .partialEvent written =>
            if queue.content.length + written.length ≤ capacity then
              (queue, [.filled [] (-einval)])
            else (queue, [])
        | .events delivered =>
            if queue.content.length + delivered.length ≤ capacity then
              ({ queue with content := queue.content ++ delivered },
                [.filled delivered delivered.length])
            else (queue, [])
  | .readEvent => ({ queue with seen := queue.seen || !queue.content.isEmpty },
      [.shown queue.content.head?])
  | .next => if queue.seen then (⟨queue.content.tail, false⟩, [.moved]) else (queue, [])

/-- The queue as a machine. -/
def queueMachine (capacity : ℕ) : Machine EventQueue ReaderCall ReaderReturn where
  step := EventQueue.call capacity

/-- What a reader in order has to do with a queue. An event that has been shown is still
there. -/
structure Represents (capacity : ℕ) (state : ReaderState) (queue : EventQueue) : Prop where
  order : state.reader.InOrder
  capacity_eq : state.reader.numEvents = capacity
  content : queue.content = state.reader.content
  seen : queue.seen = state.seen
  unread : state.seen = true → queue.content ≠ []

namespace Represents

variable {capacity : ℕ} {state : ReaderState} {queue : EventQueue}

theorem start (positive : 0 < capacity) (mBuffer : ℕ → InputEvent) :
    Represents capacity ⟨.new capacity mBuffer, false⟩ ⟨[], false⟩ where
  order := inOrder_new positive mBuffer
  capacity_eq := rfl
  content := (content_new capacity mBuffer).symm
  seen := rfl
  unread := nofun

theorem free_eq (related : Represents capacity state queue) :
    state.reader.mFreeSpace = capacity - queue.content.length := by
  have available := related.order.available_eq
  rw [related.content, length_content, available, related.capacity_eq]
  omega

/-- The reader is full when the queue is. -/
theorem full_iff (related : Represents capacity state queue) :
    state.reader.mFreeSpace = 0 ↔ queue.content.length = capacity := by
  rw [related.free_eq]
  omega

/-- What fits into the free space fits into the queue. -/
theorem fits_iff (related : Represents capacity state queue) (n : ℕ) :
    n ≤ state.reader.mFreeSpace ↔ queue.content.length + n ≤ capacity := by
  rw [related.free_eq]
  omega

/-- `readEvent` shows the first event of the queue. -/
theorem readEvent_eq (related : Represents capacity state queue) :
    state.reader.readEvent = queue.content.head? := by
  rw [related.content]
  cases shown : state.reader.readEvent with
  | none =>
      have empty := (readEvent_eq_none_iff related.order).mp shown
      rw [empty]
      rfl
  | some event =>
      have first := (content_eq_cons related.order shown).1
      rw [first]
      rfl

/-- A partial event is written where nothing is unread. -/
theorem overwritten (related : Represents capacity state queue) {written : List InputEvent}
    (room : written.length ≤ state.reader.mFreeSpace) :
    Represents capacity { state with reader := { state.reader with
      mBuffer := writeBuffer state.reader.mBuffer state.reader.mHead written } } queue := by
  obtain ⟨order', content⟩ := content_overwrite related.order room
  exact ⟨order', related.capacity_eq, by rw [related.content, content], related.seen,
    related.unread⟩

/-- Taking events in keeps what has been shown. -/
theorem filled (related : Represents capacity state queue) {reader : InputEventCircularReader}
    {delivered : List InputEvent} (order : reader.InOrder) (same : reader.numEvents = capacity)
    (content : reader.content = state.reader.content ++ delivered) :
    Represents capacity { state with reader := reader }
      { queue with content := queue.content ++ delivered } where
  order := order
  capacity_eq := same
  content := by rw [content, related.content]
  seen := related.seen
  unread seen := List.append_ne_nil_of_left_ne_nil (related.unread seen) _

end Represents

/-! ## The simulation -/

section Simulation

variable {capacity : ℕ} {state : ReaderState} {queue : EventQueue}

theorem fill_simulates (related : Represents capacity state queue) (read : ReadResult) :
    Represents capacity (state.call (.fill read)).1 (queue.call capacity (.fill read)).1 ∧
      (state.call (.fill read)).2 = (queue.call capacity (.fill read)).2 := by
  have full := related.full_iff
  by_cases isFull : state.reader.mFreeSpace = 0
  · simp only [ReaderState.call, EventQueue.call, fill, if_pos isFull,
      if_pos (full.mp isFull)]
    exact ⟨related, rfl⟩
  · have notFull : ¬ queue.content.length = capacity := fun same => isFull (full.mpr same)
    simp only [ReaderState.call, EventQueue.call, fill, if_neg isFull,
      if_neg notFull]
    cases read with
    | failed errno => exact ⟨related, rfl⟩
    | partialEvent written =>
        have fits := related.fits_iff written.length
        by_cases room : written.length ≤ state.reader.mFreeSpace
        · simp only [if_pos room, if_pos (fits.mp room)]
          exact ⟨related.overwritten room, rfl⟩
        · simp only [if_neg room, if_neg (fun same => room (fits.mpr same))]
          exact ⟨related, trivial⟩
    | events delivered =>
        have fits := related.fits_iff delivered.length
        by_cases room : delivered.length ≤ state.reader.mFreeSpace
        · simp only [if_pos room, if_pos (fits.mp room)]
          have same : (state.reader.advance delivered).numEvents = capacity := by
            rw [advance_numEvents, related.capacity_eq]
          have content := content_advance related.order room
          exact ⟨related.filled (inOrder_advance related.order room) same
            content, rfl⟩
        · simp only [if_neg room, if_neg (fun same => room (fits.mpr same))]
          exact ⟨related, trivial⟩

theorem readEvent_simulates (related : Represents capacity state queue) :
    Represents capacity (state.call .readEvent).1 (queue.call capacity .readEvent).1 ∧
      (state.call .readEvent).2 = (queue.call capacity .readEvent).2 := by
  have same := related.readEvent_eq
  have content := related.content
  cases held : queue.content with
  | nil =>
      rw [held, List.head?_nil] at same
      simp only [ReaderState.call, EventQueue.call, same, held, List.isEmpty_nil, Bool.not_true,
        Bool.or_false, List.head?_nil]
      exact ⟨⟨related.order, related.capacity_eq, held ▸ content, related.seen,
        fun seen => absurd held (related.unread seen)⟩, trivial⟩
  | cons event rest =>
      rw [held, List.head?_cons] at same
      simp only [ReaderState.call, EventQueue.call, same, held, List.isEmpty_cons, Bool.not_false,
        Bool.or_true, List.head?_cons]
      exact ⟨⟨related.order, related.capacity_eq, held ▸ content, rfl,
        fun _ => List.cons_ne_nil event rest⟩, trivial⟩

theorem next_simulates (related : Represents capacity state queue) :
    Represents capacity (state.call .next).1 (queue.call capacity .next).1 ∧
      (state.call .next).2 = (queue.call capacity .next).2 := by
  have seen := related.seen
  cases showing : state.seen with
  | false =>
      rw [showing] at seen
      simp only [ReaderState.call, EventQueue.call, seen, showing, Bool.false_eq_true, if_false]
      exact ⟨related, trivial⟩
  | true =>
      rw [showing] at seen
      simp only [ReaderState.call, EventQueue.call, seen, showing, if_true]
      refine ⟨?_, trivial⟩
      obtain ⟨event, rest, held⟩ := List.exists_cons_of_ne_nil (related.unread showing)
      have shown : state.reader.readEvent = some event := by
        rw [related.readEvent_eq, held, List.head?_cons]
      obtain ⟨content, order⟩ := content_eq_cons related.order shown
      have removed : rest = state.reader.next.content := by
        have both : event :: rest = event :: state.reader.next.content := by
          rw [← held, related.content, content]
        exact List.tail_eq_of_cons_eq both
      exact ⟨order, related.capacity_eq, by rw [held]; exact removed, rfl, nofun⟩

/-- **The reader simulates the queue**, call by call. -/
theorem reader_simulates (related : Represents capacity state queue) (call : ReaderCall) :
    Represents capacity (state.call call).1 (queue.call capacity call).1 ∧
      (state.call call).2 = (queue.call capacity call).2 := by
  cases call with
  | fill read => exact fill_simulates related read
  | readEvent => exact readEvent_simulates related
  | next => exact next_simulates related

end Simulation

/-! ## The buffer -/

/-- What a call does to the buffer and to the pointers. -/
structure StaysInside (capacity : ℕ)
    (taken : Machine.Step ReaderState ReaderCall ReaderReturn) : Prop where
  free : 0 ≤ taken.after.reader.mFreeSpace ∧ taken.after.reader.mFreeSpace ≤ capacity
  inside : ∀ slot ∈ taken.before.touched taken.input, slot < 2 * capacity
  untouched : ∀ slot, slot ∉ taken.before.touched taken.input →
    taken.after.reader.mBuffer slot = taken.before.reader.mBuffer slot
  failing : ∀ (delivered : List InputEvent) (n : ℤ),
    .filled delivered n ∈ taken.outputs → n < 0 →
      delivered = [] ∧ taken.after.reader.content = taken.before.reader.content ∧
        taken.after.reader.mHead = taken.before.reader.mHead ∧
        taken.after.reader.mCurr = taken.before.reader.mCurr ∧
        taken.after.reader.mFreeSpace = taken.before.reader.mFreeSpace

section Buffer

variable {capacity : ℕ} {state : ReaderState} {queue : EventQueue}

theorem touched_inside (related : Represents capacity state queue) (call : ReaderCall) :
    ∀ slot ∈ state.touched call, slot < 2 * capacity := by
  have order := related.order
  have end_ := order.end_
  have bound := order.bound
  have free := order.free
  have curr := order.curr
  have same := related.capacity_eq
  intro slot member
  cases call with
  | fill read =>
      simp only [ReaderState.touched] at member
      split at member
      · exact absurd member List.not_mem_nil
      · next called =>
          simp only [List.mem_append, List.mem_map, List.mem_range] at member
          rcases member with (⟨i, here, rfl⟩ | ⟨i, here, rfl⟩) | here <;> omega
  | readEvent =>
      simp only [ReaderState.touched] at member
      split at member
      · rw [List.mem_singleton] at member
        omega
      · exact absurd member List.not_mem_nil
  | next => exact absurd member List.not_mem_nil

/-- What a call of `fill` does. -/
theorem fill_cases (state : ReaderState) (read : ReadResult) :
    (∃ n, state.call (.fill read) = (state, [.filled [] n])) ∨
    (∃ written, read = .partialEvent written ∧ state.reader.mFreeSpace ≠ 0 ∧
      written.length ≤ state.reader.mFreeSpace ∧
      state.call (.fill read) = ({ state with reader := { state.reader with
        mBuffer := writeBuffer state.reader.mBuffer state.reader.mHead written } },
        [.filled [] (-einval)])) ∨
    (∃ delivered, read = .events delivered ∧ state.reader.mFreeSpace ≠ 0 ∧
      delivered.length ≤ state.reader.mFreeSpace ∧
      state.call (.fill read) = ({ state with reader := state.reader.advance delivered },
        [.filled delivered delivered.length])) ∨
    state.call (.fill read) = (state, []) := by
  by_cases isFull : state.reader.mFreeSpace = 0
  · refine Or.inl ⟨0, ?_⟩
    simp only [ReaderState.call, fill, if_pos isFull]
    rfl
  · cases read with
    | failed errno =>
        refine Or.inl ⟨-errno, ?_⟩
        simp only [ReaderState.call, fill, if_neg isFull]
        rfl
    | partialEvent written =>
        by_cases room : written.length ≤ state.reader.mFreeSpace
        · refine Or.inr (Or.inl ⟨written, rfl, isFull, room, ?_⟩)
          simp only [ReaderState.call, fill, if_neg isFull, if_pos room]
          rfl
        · refine Or.inr (Or.inr (Or.inr ?_))
          simp only [ReaderState.call, fill, if_neg isFull, if_neg room]
    | events delivered =>
        by_cases room : delivered.length ≤ state.reader.mFreeSpace
        · refine Or.inr (Or.inr (Or.inl ⟨delivered, rfl, isFull, room, ?_⟩))
          simp only [ReaderState.call, fill, if_neg isFull, if_pos room]
          rfl
        · refine Or.inr (Or.inr (Or.inr ?_))
          simp only [ReaderState.call, fill, if_neg isFull, if_neg room]

theorem mBuffer_untouched (related : Represents capacity state queue) (call : ReaderCall)
    {slot : ℕ} (untouched : slot ∉ state.touched call) :
    (state.call call).1.reader.mBuffer slot = state.reader.mBuffer slot := by
  have free := related.order.free
  cases call with
  | fill read =>
      simp only [ReaderState.touched] at untouched
      rcases fill_cases state read with ⟨n, same⟩ | ⟨written, rfl, notFull, room, same⟩ |
          ⟨delivered, rfl, notFull, room, same⟩ | same
      · rw [same]
      · rw [same]
        rw [if_neg (by simp only [ReadResult.delivered, List.length_nil]; omega)] at untouched
        simp only [List.mem_append, List.mem_map, List.mem_range, not_or, not_exists,
          not_and] at untouched
        obtain ⟨⟨offered, -⟩, -⟩ := untouched
        apply writeBuffer_outside
        by_contra inside
        exact offered (slot - state.reader.mHead) (by omega) (by omega)
      · rw [same, advance_mBuffer]
        rw [if_neg (by simp only [ReadResult.delivered]; omega)] at untouched
        simp only [ReadResult.delivered, List.mem_append, List.mem_map, List.mem_range, not_or,
          not_exists, not_and] at untouched
        obtain ⟨⟨offered, -⟩, front⟩ := untouched
        rw [if_neg front]
        apply writeBuffer_outside
        by_contra inside
        exact offered (slot - state.reader.mHead) (by omega) (by omega)
      · rw [same]
  | readEvent =>
      simp only [ReaderState.call]
      split <;> rfl
  | next =>
      simp only [ReaderState.call]
      split <;> rfl

/-- A `fill` that fails leaves the queue and the pointers as they are. -/
theorem fill_failing (related : Represents capacity state queue) (call : ReaderCall)
    {delivered : List InputEvent} {n : ℤ}
    (filled : ReaderReturn.filled delivered n ∈ (state.call call).2) (negative : n < 0) :
    delivered = [] ∧ (state.call call).1.reader.content = state.reader.content ∧
      (state.call call).1.reader.mHead = state.reader.mHead ∧
      (state.call call).1.reader.mCurr = state.reader.mCurr ∧
      (state.call call).1.reader.mFreeSpace = state.reader.mFreeSpace := by
  cases call with
  | fill read =>
      rcases fill_cases state read with ⟨m, same⟩ | ⟨written, rfl, notFull, room, same⟩ |
          ⟨read, rfl, notFull, room, same⟩ | same
      · rw [same] at filled ⊢
        cases List.mem_singleton.mp filled
        exact ⟨rfl, rfl, rfl, rfl, rfl⟩
      · rw [same] at filled ⊢
        cases List.mem_singleton.mp filled
        exact ⟨rfl, (content_overwrite related.order room).2, rfl, rfl, rfl⟩
      · rw [same] at filled
        cases List.mem_singleton.mp filled
        omega
      · rw [same] at filled
        exact absurd filled List.not_mem_nil
  | readEvent =>
      simp only [ReaderState.call] at filled
      split at filled <;> cases List.mem_singleton.mp filled
  | next =>
      simp only [ReaderState.call] at filled
      split at filled
      · cases List.mem_singleton.mp filled
      · exact absurd filled List.not_mem_nil

/-- What is known of a single call. -/
theorem staysInside (related : Represents capacity state queue) (call : ReaderCall) :
    StaysInside capacity (readerMachine.stepOn state call) := by
  have after := (reader_simulates related call).1
  have bound := after.order.bound
  rw [after.capacity_eq] at bound
  exact ⟨⟨after.order.free, bound⟩, touched_inside related call,
    fun _ => mBuffer_untouched related call, fun _ _ => fill_failing related call⟩

end Buffer

/-! ## The account of the queue -/

/-- What an observer of the calls has seen: the events taken in, the events handed out,
and whether the last of them is still to be removed. -/
structure EventAccount where
  taken : List InputEvent
  handed : List InputEvent
  showing : Bool
deriving DecidableEq

/-- An event that is shown again before it has been removed is not handed out again. -/
def EventAccount.observe (account : EventAccount) : ReaderReturn → EventAccount
  | .filled delivered _ => { account with taken := account.taken ++ delivered }
  | .shown none => account
  | .shown (some event) =>
      if account.showing then account
      else { account with handed := account.handed ++ [event], showing := true }
  | .moved => { account with showing := false }

/-- The account of a queue. The event that is shown has been handed out. -/
structure Accounted (queue : EventQueue) (account : EventAccount) : Prop where
  showing : account.showing = queue.seen
  unread : queue.seen = true → queue.content ≠ []
  taken : account.taken =
    account.handed ++ if queue.seen then queue.content.tail else queue.content

/-- Events are appended, or the kernel has refused. -/
theorem Accounted.kept_fill {queue : EventQueue} {account : EventAccount} (capacity : ℕ)
    (accounted : Accounted queue account) (read : ReadResult) :
    Accounted (queue.call capacity (.fill read)).1
      ((queue.call capacity (.fill read)).2.foldl EventAccount.observe account) := by
  have filled : ∀ (delivered : List InputEvent) (n : ℤ),
      Accounted { queue with content := queue.content ++ delivered }
        (account.observe (.filled delivered n)) := by
    intro delivered n
    refine ⟨accounted.showing,
      fun seen => List.append_ne_nil_of_left_ne_nil (accounted.unread seen) _, ?_⟩
    simp only [EventAccount.observe, accounted.taken, List.append_assoc]
    split
    · next seen => rw [List.tail_append_of_ne_nil (accounted.unread seen)]
    · rfl
  have unchanged : ∀ n : ℤ, Accounted queue (account.observe (.filled [] n)) := by
    intro n
    have same := filled [] n
    rwa [List.append_nil] at same
  simp only [EventQueue.call]
  split
  · exact unchanged 0
  · cases read with
    | failed errno => exact unchanged (-errno)
    | partialEvent written =>
        simp only []
        split
        · exact unchanged (-einval)
        · exact accounted
    | events delivered =>
        simp only []
        split
        · exact filled delivered delivered.length
        · exact accounted

/-- The oldest event is shown. It has been handed out before if it was shown already. -/
theorem Accounted.kept_readEvent {queue : EventQueue} {account : EventAccount} (capacity : ℕ)
    (accounted : Accounted queue account) :
    Accounted (queue.call capacity .readEvent).1
      ((queue.call capacity .readEvent).2.foldl EventAccount.observe account) := by
  have taken := accounted.taken
  have showing := accounted.showing
  cases held : queue.content with
  | nil =>
      have unseen : queue.seen = false :=
        Bool.eq_false_iff.mpr fun seen => accounted.unread seen held
      simp only [EventQueue.call, held, List.isEmpty_nil, Bool.not_true, Bool.or_false,
        List.head?_nil]
      exact ⟨showing, fun seen => absurd held (accounted.unread seen), held ▸ taken⟩
  | cons event rest =>
      simp only [EventQueue.call, held, List.isEmpty_cons, Bool.not_false, Bool.or_true,
        List.head?_cons, List.foldl_cons, List.foldl_nil, EventAccount.observe, showing]
      rw [held] at taken
      cases seen : queue.seen with
      | true =>
          rw [seen] at taken showing
          exact ⟨showing, fun _ => List.cons_ne_nil event rest, taken⟩
      | false =>
          rw [seen] at taken
          refine ⟨rfl, fun _ => List.cons_ne_nil event rest, ?_⟩
          rw [taken]
          exact List.append_cons account.handed event rest

/-- The event that is shown is removed. -/
theorem Accounted.kept_next {queue : EventQueue} {account : EventAccount} (capacity : ℕ)
    (accounted : Accounted queue account) :
    Accounted (queue.call capacity .next).1
      ((queue.call capacity .next).2.foldl EventAccount.observe account) := by
  have taken := accounted.taken
  cases seen : queue.seen with
  | false =>
      simp only [EventQueue.call, seen, Bool.false_eq_true, if_false]
      exact accounted
  | true =>
      simp only [EventQueue.call, seen, if_true]
      rw [seen] at taken
      exact ⟨rfl, nofun, taken⟩

theorem Accounted.kept {queue : EventQueue} {account : EventAccount} (capacity : ℕ)
    (accounted : Accounted queue account) (call : ReaderCall) :
    Accounted (queue.call capacity call).1
      ((queue.call capacity call).2.foldl EventAccount.observe account) := by
  cases call with
  | fill read => exact accounted.kept_fill capacity read
  | readEvent => exact accounted.kept_readEvent capacity
  | next => exact accounted.kept_next capacity

/-- What a queue has handed out at the end of a run is what it has taken in, except for
the events that are still to be shown. -/
theorem queue_account (capacity : ℕ) (calls : List ReaderCall) :
    Accounted ((queueMachine capacity).run ⟨[], false⟩ calls)
      (((queueMachine capacity).outputs ⟨[], false⟩ calls).foldl EventAccount.observe
        ⟨[], [], false⟩) :=
  @Machine.run_observed _ _ _ _ (queueMachine capacity) EventAccount.observe Accounted
    (fun _ => True) (fun _ _ call accounted _ => accounted.kept capacity call) ⟨[], false⟩
    ⟨[], [], false⟩ ⟨rfl, nofun, rfl⟩ calls fun _ _ => trivial

/-- The events that are still to be handed out. -/
def ReaderState.unseen (state : ReaderState) : List InputEvent :=
  if state.seen then state.reader.content.tail else state.reader.content

/-- **The reader refines a queue of at most `N` events.** Whatever is called and whatever
`read` does, the calls return what those of the queue do, they touch no slot beyond the
`2 * N` of the buffer, and the events that `readEvent` hands out are those that have
been read, in their order and each once, up to those that are still unseen. -/
theorem reader_refines_queue {capacity : ℕ} (positive : 0 < capacity)
    (mBuffer : ℕ → InputEvent) (calls : List ReaderCall) :
    let start : ReaderState := ⟨.new capacity mBuffer, false⟩
    let returned := readerMachine.outputs start calls
    let account := returned.foldl EventAccount.observe ⟨[], [], false⟩
    returned = (queueMachine capacity).outputs ⟨[], false⟩ calls ∧
      account.taken = account.handed ++ (readerMachine.run start calls).unseen ∧
      ∀ taken ∈ readerMachine.steps start calls, StaysInside capacity taken := by
  intro start returned account
  have simulated := @Machine.run_simulation _ _ _ _ readerMachine (queueMachine capacity)
    (Represents capacity) (fun _ _ call related => reader_simulates related call) start
    ⟨[], false⟩ (Represents.start positive mBuffer)
  obtain ⟨reached, same⟩ := simulated calls
  refine ⟨same, ?_, ?_⟩
  · have accounted := (queue_account capacity calls).taken
    rw [← same, reached.content, reached.seen] at accounted
    exact accounted
  · intro taken member
    obtain ⟨earlier, call, later, -, rfl⟩ := Machine.mem_steps.mp member
    exact staysInside (simulated earlier).1 call

/-- A buffer for two events in which a read runs over the end of the first half. -/
theorem reader_refines_queue_wrapped :
    let event (value : ℤ) : InputEvent := ⟨⟨0, 0⟩, 3, 0, value⟩
    let start : ReaderState := ⟨.new 2 fun _ => event 0, false⟩
    let calls := [.fill (.events [event 1]), .readEvent, .next,
      .fill (.events [event 2, event 3]), .readEvent, .next, .readEvent]
    readerMachine.outputs start calls =
        [.filled [event 1] 1, .shown (event 1), .moved, .filled [event 2, event 3] 2,
          .shown (event 2), .moved, .shown (event 3)] ∧
      ∀ taken ∈ readerMachine.steps start calls, StaysInside 2 taken := by
  intro event start calls
  obtain ⟨same, -, inside⟩ := reader_refines_queue Nat.two_pos (fun _ => event 0) calls
  exact ⟨same, inside⟩

end Msm8660.Sensors
