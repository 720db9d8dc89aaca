import Mathlib.Algebra.Order.Group.Multiset
import Mathlib.Data.List.Basic
import Msm8660.Lib.Machine
import Msm8660.Gps.Ni
import Msm8660.Gps.NiThreads

/-!
# The buffers of network initiated requests

Every request brings a buffer of the modem. The handler frees it when the slot is
taken, a reset frees the one in the slot, and a thread moves the one in the slot
into a message, which frees it when it is deleted. No interleaving consumes a
buffer more often than it was given (`consumed_le_given`).

A request stays in the slot until a thread runs its section under `tLock`. When
`pthread_create` fails the handler goes on as if there were a thread, so the slot
can be taken for good; `niRequests_served_iff` says exactly when that happens.
-/

set_option autoImplicit false

namespace Msm8660.Gps

/-! ## Accounts -/

/-- The buffer that comes with an input. -/
def NiInput.given : NiInput → Multiset PassThrough
  | .request _ passThrough _ => passThrough.toList
  | _ => 0

/-- The buffer that an effect consumes. -/
def NiEffect.consumed : NiEffect → Multiset PassThrough
  | .free data => {data}
  | .informNiResponse _ data => {data}
  | _ => 0

/-- The buffer in the message that a thread is about to send. -/
def NiThread.carried : NiThread → Multiset PassThrough
  | .leaving (some (_, data)) => {data}
  | _ => 0

/-- The buffers that are neither consumed nor lost. -/
def NiSystem.kept (x : NiSystem) : Multiset PassThrough :=
  (x.data.rawRequest.toList : Multiset PassThrough) + (x.threads.map NiThread.carried).sum

section Steps

variable {x : NiSystem}

/-- A thread that changes its place changes what the threads carry by what it
carries. -/
theorem carried_set {threads : List NiThread} {thread : ℕ} {place : NiThread}
    (here : threads[thread]? = some place) (next : NiThread) :
    ((threads.set thread next).map NiThread.carried).sum + place.carried =
      next.carried + (threads.map NiThread.carried).sum := by
  induction threads generalizing thread with
  | nil => simp at here
  | cons head rest ih =>
      cases thread with
      | zero =>
          obtain rfl : head = place := by simpa using here
          simp only [List.set_cons_zero, List.map_cons, List.sum_cons]
          rw [add_assoc, add_comm _ head.carried]
      | succ thread =>
          have there : rest[thread]? = some place := by simpa using here
          have tail := ih there
          simp only [List.set_cons_succ, List.map_cons, List.sum_cons]
          rw [add_assoc, tail, add_left_comm]

/-- The section of a thread moves the buffer in the slot into its message. -/
theorem kept_takeAnswer {thread : ℕ} {place : NiThread}
    (here : x.threads[thread]? = some place) (empty : place.carried = 0) :
    (x.takeAnswer thread).kept = x.kept := by
  have moved := carried_set here (.leaving (niThreadTakeAnswer x.data).2)
  rw [empty, add_zero] at moved
  simp only [NiSystem.kept, NiSystem.takeAnswer, moved]
  cases slot : x.data.rawRequest with
  | none => simp [niThreadTakeAnswer, slot, NiThread.carried]
  | some data => simp [niThreadTakeAnswer, slot, NiThread.carried]

theorem kept_start (thread : ℕ) : (x.start thread).kept = x.kept := by
  unfold NiSystem.start
  split
  next here =>
    split
    · exact kept_takeAnswer here rfl
    · have moved := carried_set here (.waiting x.data.respTimeLeft)
      simp only [NiThread.carried, add_zero, zero_add] at moved
      simp only [NiSystem.kept, moved]
  next => rfl

theorem kept_wake (thread : ℕ) (timedOut : Bool) : (x.wake thread timedOut).kept = x.kept := by
  unfold NiSystem.wake
  split
  next here =>
    split
    · exact kept_takeAnswer
        (x := { x with data := { x.data with resp := gpsNiResponseNoresp } }) here rfl
    · split
      · exact kept_takeAnswer here rfl
      · rfl
  next => rfl

/-- The tail of a thread sends the message that carries the buffer. -/
theorem kept_tail (thread : ℕ) :
    x.kept = ((x.tail thread).2.map NiEffect.consumed).sum + (x.tail thread).1.kept := by
  unfold NiSystem.tail
  split
  next msg here =>
    have moved := carried_set here .finished
    cases msg with
    | none =>
        simp only [NiThread.carried, add_zero, zero_add] at moved
        simp only [NiSystem.kept, niThreadTail, moved, Option.toList_none, List.map_nil,
          List.sum_nil, zero_add]
    | some answer =>
        simp only [NiThread.carried, zero_add] at moved
        simp only [NiSystem.kept, ← moved, niThreadTail, Option.toList_some, List.map_cons,
          List.map_nil, List.sum_cons, List.sum_nil, NiEffect.consumed, add_zero]
        rw [add_comm {answer.2}, add_assoc]
  next => simp

theorem kept_reset :
    x.kept = ((locEngNiResetOnEngineRestart true x.data).2.map NiEffect.consumed).sum +
      NiSystem.kept { x with data := (locEngNiResetOnEngineRestart true x.data).1 } := by
  cases slot : x.data.rawRequest with
  | none => simp [locEngNiResetOnEngineRestart, slot, NiSystem.kept]
  | some data => simp [locEngNiResetOnEngineRestart, slot, NiSystem.kept, NiEffect.consumed]

theorem kept_respond (notifId : ℤ) (userResponse : GpsUserResponseType) :
    NiSystem.kept { x with data := locEngNiRespond true x.data notifId userResponse } =
      x.kept := by
  by_cases accepted : notifId = x.data.reqID ∧ x.data.rawRequest.isSome = true
  · simp [locEngNiRespond, accepted, NiSystem.kept]
  · simp [locEngNiRespond, accepted]

/-- The handler puts the buffer into the free slot, or frees it. -/
theorem kept_request (notif : GpsNiNotification) (passThrough : Option PassThrough)
    (created : Bool) :
    x.kept + passThrough.toList =
      ((x.request notif passThrough created).2.map NiEffect.consumed).sum +
        (x.request notif passThrough created).1.kept := by
  by_cases busy : x.data.rawRequest.isSome = true
  · rw [request_busy busy]
    cases passThrough with
    | none => simp [NiSystem.request, locEngNiRequestHandler, busy]
    | some data =>
        simp [NiSystem.request, locEngNiRequestHandler, busy, NiEffect.consumed, add_comm]
  · have free : x.data.rawRequest = none := by simpa using busy
    have quiet : ((x.request notif passThrough created).2.map NiEffect.consumed).sum = 0 := by
      by_cases override : notif.notifyFlags = gpsNiPrivacyOverride <;> cases created <;>
        simp [NiSystem.request, locEngNiRequestHandler, free, override, NiEffect.consumed]
    rw [quiet, request_free free]
    cases created <;> simp [NiSystem.kept, free, NiThread.carried, add_comm]

theorem niSystem_balanced (x : NiSystem) (input : NiInput) :
    x.kept + input.given =
      ((niSystem.step x input).2.map NiEffect.consumed).sum + (niSystem.step x input).1.kept := by
  cases input with
  | request notif passThrough created => exact kept_request notif passThrough created
  | reset =>
      change x.kept + 0 = _
      rw [add_zero]
      exact kept_reset
  | respond notifId userResponse =>
      simpa [niSystem, NiInput.given] using (kept_respond notifId userResponse).symm
  | start thread => simpa [niSystem, NiInput.given] using (kept_start thread).symm
  | wake thread timedOut => simpa [niSystem, NiInput.given] using (kept_wake thread timedOut).symm
  | tail thread =>
      change x.kept + 0 = _
      rw [add_zero]
      exact kept_tail thread

/-- Every buffer given so far was consumed, waits in the slot or is carried by a
thread, each as often as it was given. -/
theorem given_eq_consumed_add_kept (inputs : List NiInput) :
    (inputs.map NiInput.given).sum =
      ((niSystem.outputs .init inputs).map NiEffect.consumed).sum +
        (niSystem.run .init inputs).kept := by
  have balance := niSystem.run_balance niSystem_balanced .init inputs
  have empty : NiSystem.init.kept = 0 := rfl
  rwa [empty, zero_add] at balance

theorem consumed_le_given (inputs : List NiInput) :
    ((niSystem.outputs .init inputs).map NiEffect.consumed).sum ≤
      (inputs.map NiInput.given).sum := by
  rw [given_eq_consumed_add_kept]
  exact Multiset.le_add_right _ _

/-! ## Threads for the request in the slot -/

/-- A thread has not run its section under `tLock` yet. -/
def NiSystem.Pending (x : NiSystem) (thread : ℕ) : Prop :=
  x.threads[thread]? = some .created ∨ ∃ delay, x.threads[thread]? = some (.waiting delay)

/-- A request in the slot has a thread that will take it. -/
def NiSystem.Served (x : NiSystem) : Prop :=
  x.data.rawRequest.isSome = true → ∃ thread, x.Pending thread

/-- Before a request: it takes the free slot, `pthread_create` fails, and no older
thread is pending. -/
def NiSystem.Strands (x : NiSystem) : NiInput → Prop
  | .request _ passThrough created =>
      passThrough.isSome = true ∧ x.data.rawRequest = none ∧ created = false ∧
        ¬ ∃ thread, x.Pending thread
  | _ => False

theorem not_pending_of_empty (empty : x.threads = []) (thread : ℕ) : ¬ x.Pending thread := by
  simp [NiSystem.Pending, empty]

theorem start_created {thread : ℕ} (here : x.threads[thread]? = some .created) :
    x.start thread = if x.data.respRecvd then x.takeAnswer thread
      else { x with threads := x.threads.set thread (.waiting x.data.respTimeLeft) } := by
  simp only [NiSystem.start, here]

theorem start_waiting {thread : ℕ} {delay : ℤ}
    (here : x.threads[thread]? = some (.waiting delay)) : x.start thread = x := by
  simp only [NiSystem.start, here]

/-- A thread that waits frees the slot when its time is over. -/
theorem freed_by_timeout {thread : ℕ} {delay : ℤ}
    (here : x.threads[thread]? = some (.waiting delay)) :
    (x.wake thread true).data.rawRequest = none := by
  simp only [NiSystem.wake, here, if_true, NiSystem.takeAnswer, niThreadTakeAnswer]

/-- A thread that is no longer waiting leaves the slot alone. -/
theorem free_wake (free : x.data.rawRequest = none) (thread : ℕ) (timedOut : Bool) :
    (x.wake thread timedOut).data.rawRequest = none := by
  unfold NiSystem.wake
  split
  next =>
    split
    · rfl
    · split
      · rfl
      · exact free
  next => exact free

/-- A pending thread frees the slot once it runs and its time is over. -/
theorem freed_by_pending {thread : ℕ} (pending : x.Pending thread) :
    (niSystem.run x [.start thread, .wake thread true]).data.rawRequest = none := by
  change ((x.start thread).wake thread true).data.rawRequest = none
  rcases pending with here | ⟨delay, here⟩
  · have inside := (List.getElem?_eq_some_iff.mp here).1
    rw [start_created here]
    split
    · exact free_wake rfl thread true
    · have waiting : (x.threads.set thread (.waiting x.data.respTimeLeft))[thread]? =
          some (.waiting x.data.respTimeLeft) := by
        simp [inside]
      exact freed_by_timeout waiting
  · rw [start_waiting here]
    exact freed_by_timeout here

/-- A pending thread stays pending when another thread changes its place. -/
theorem NiSystem.Pending.set {thread other : ℕ} (pending : x.Pending thread)
    (apart : other ≠ thread) {data : LocEngNiData} {place : NiThread} :
    NiSystem.Pending ⟨data, x.threads.set other place⟩ thread := by
  simpa only [NiSystem.Pending, List.getElem?_set_ne apart] using pending

theorem served_takeAnswer (x : NiSystem) (thread : ℕ) : (x.takeAnswer thread).Served := nofun

theorem NiSystem.Served.start (served : x.Served) (thread : ℕ) : (x.start thread).Served := by
  unfold NiSystem.start
  split
  next here =>
    split
    · exact served_takeAnswer x thread
    · intro _
      have inside := (List.getElem?_eq_some_iff.mp here).1
      exact ⟨thread, Or.inr ⟨x.data.respTimeLeft, by simp [inside]⟩⟩
  next => exact served

theorem NiSystem.Served.wake (served : x.Served) (thread : ℕ) (timedOut : Bool) :
    (x.wake thread timedOut).Served := by
  unfold NiSystem.wake
  split
  next =>
    split
    · exact served_takeAnswer _ thread
    · split
      · exact served_takeAnswer x thread
      · exact served
  next => exact served

theorem NiSystem.Served.tail (served : x.Served) (thread : ℕ) : (x.tail thread).1.Served := by
  unfold NiSystem.tail
  split
  next msg here =>
    intro busy
    obtain ⟨other, pending⟩ := served busy
    refine ⟨other, pending.set fun same => ?_⟩
    subst same
    rcases pending with created | ⟨delay, waiting⟩
    · rw [here] at created
      cases created
    · rw [here] at waiting
      cases waiting
  next => exact served

theorem NiSystem.Served.request (served : x.Served) {notif : GpsNiNotification}
    {passThrough : Option PassThrough} {created : Bool}
    (spared : ¬ x.Strands (.request notif passThrough created)) :
    (x.request notif passThrough created).1.Served := by
  by_cases busy : x.data.rawRequest.isSome = true
  · rw [request_busy busy]
    exact served
  · have free : x.data.rawRequest = none := by simpa using busy
    rw [request_free free]
    intro given
    cases created with
    | true => exact ⟨x.threads.length, Or.inl (by simp)⟩
    | false =>
        by_contra none
        exact spared ⟨given, free, rfl, fun ⟨thread, pending⟩ => none ⟨thread, by
          simpa [NiSystem.Pending] using pending⟩⟩

theorem NiSystem.Served.step (served : x.Served) {input : NiInput} (spared : ¬ x.Strands input) :
    (niSystem.step x input).1.Served := by
  cases input with
  | request notif passThrough created => exact served.request spared
  | reset =>
      intro busy
      cases slot : x.data.rawRequest with
      | none => simp [niSystem, locEngNiResetOnEngineRestart, slot] at busy
      | some data => simp [niSystem, locEngNiResetOnEngineRestart, slot] at busy
  | respond notifId userResponse =>
      intro busy
      refine served ?_
      by_cases accepted : notifId = x.data.reqID ∧ x.data.rawRequest.isSome = true
      · exact accepted.2
      · simpa [niSystem, locEngNiRespond, accepted] using busy
  | start thread => exact served.start thread
  | wake thread timedOut => exact served.wake thread timedOut
  | tail thread => exact served.tail thread

/-- After such a request no thread will ever take it. -/
theorem not_served_strands {input : NiInput} (strands : x.Strands input) :
    ¬ (niSystem.step x input).1.Served := by
  cases input with
  | request notif passThrough created =>
      obtain ⟨given, free, rfl, none⟩ := strands
      intro served
      change (x.request notif passThrough false).1.Served at served
      rw [request_free free] at served
      obtain ⟨thread, pending⟩ := served given
      exact none ⟨thread, by simpa [NiSystem.Pending] using pending⟩
  | reset => exact strands.elim
  | respond notifId userResponse => exact strands.elim
  | start thread => exact strands.elim
  | wake thread timedOut => exact strands.elim
  | tail thread => exact strands.elim

end Steps

/-- **No request is consumed twice, and none wedges the interface**, exactly when no
request takes the free slot while `pthread_create` fails and no older thread is
pending. That no buffer is consumed more often than it was given holds in any case,
and a pending thread frees the slot by its own steps. -/
theorem niRequests_served_iff (inputs : List NiInput) :
    ((∀ earlier later, inputs = earlier ++ later →
        ((niSystem.outputs .init earlier).map NiEffect.consumed).sum ≤
          (earlier.map NiInput.given).sum) ∧
      ∀ taken ∈ niSystem.steps .init inputs, taken.after.data.rawRequest.isSome = true →
        ∃ thread, taken.after.Pending thread ∧
          (niSystem.run taken.after [.start thread, .wake thread true]).data.rawRequest = none) ↔
    ∀ taken ∈ niSystem.steps .init inputs, ¬ taken.before.Strands taken.input := by
  constructor
  · rintro ⟨-, served⟩ taken member strands
    have after : taken.after.Served := fun busy =>
      (served taken member busy).imp fun thread both => both.1
    obtain ⟨earlier, input, later, -, rfl⟩ := Machine.mem_steps.mp member
    exact not_served_strands strands after
  · intro spared
    refine ⟨fun earlier _ _ => consumed_le_given earlier, fun taken member busy => ?_⟩
    have start : NiSystem.init.Served := nofun
    have served : taken.after.Served :=
      @Machine.steps_spared _ _ _ niSystem NiSystem.Served (fun _ => True)
        (fun taken => ¬ taken.before.Strands taken.input) (fun taken => taken.after.Served)
        (fun _ _ served _ spared => served.step spared)
        (fun _ _ served _ spared => served.step spared) .init start inputs (fun _ _ => trivial)
        spared taken member
    obtain ⟨thread, pending⟩ := served busy
    exact ⟨thread, pending, freed_by_pending pending⟩

/-- The first request of all takes the slot, and `pthread_create` fails. No thread
is left, and the next request is refused, also after the user has answered. -/
theorem not_niRequests_served :
    ∃ stuck, stuck = niSystem.run .init [.request ⟨0, 1, 30⟩ (some 7) false,
        .respond 0 gpsNiResponseAccept] ∧
      stuck.data.rawRequest = some 7 ∧ stuck.threads = [] ∧ ¬ stuck.Served ∧
      niSystem.step stuck (.request ⟨0, 1, 30⟩ (some 8) true) = (stuck, [.free 8]) := by
  have empty : (niSystem.run .init [.request ⟨0, 1, 30⟩ (some 7) false,
      .respond 0 gpsNiResponseAccept]).threads = [] := by decide
  refine ⟨_, rfl, by decide, empty, fun served => ?_, by decide⟩
  obtain ⟨thread, pending⟩ := served (by decide)
  exact not_pending_of_empty empty thread pending

end Msm8660.Gps
