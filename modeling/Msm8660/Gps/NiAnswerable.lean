import Mathlib.Data.List.Basic
import Msm8660.Lib.Machine
import Msm8660.Gps.Ni
import Msm8660.Gps.NiThreads

/-!
# Whether the user can answer

`ni_notify_cb` tells the framework the id of a request, and `loc_eng_ni_respond`
compares the id it gets with `reqID`. The thread of an older request counts `reqID`
up and clears `respTimeLeft` after it has given the slot away, without the lock.

`NiHeld` follows the request that took the slot last. While it is in the slot it is
answerable, in every interleaving, exactly when no such tail runs while a request
is in the slot (`niAnswerable_iff`).
-/

set_option autoImplicit false

namespace Msm8660.Gps

/-- The request that took the slot last: its notification as `ni_notify_cb` got it,
and the thread that was started for it. -/
structure NiHeld where
  notif : GpsNiNotification
  thread : Option ℕ
deriving DecidableEq, Repr

/-- The notification that an effect delivers. -/
def NiEffect.notified : NiEffect → Option GpsNiNotification
  | .niNotifyCb notif => some notif
  | _ => none

namespace NiHeld

def init : NiHeld := ⟨⟨0, 0, 0⟩, none⟩

/-- The seconds after which the thread of the request gives up. -/
def respTime (held : NiHeld) : ℤ :=
  5 + if held.notif.timeout ≠ 0 then held.notif.timeout else locNiNoResponseTime

/-- The observer after a step: a new notification is a new request in the slot. -/
def watch (held : NiHeld) (step : Machine.Step NiSystem NiInput NiEffect) : NiHeld :=
  match step.outputs.findSome? NiEffect.notified with
  | some notif =>
      ⟨notif, if .threadCreated ∈ step.outputs then some step.before.threads.length else none⟩
  | none => held

end NiHeld

/-- The observer together with the system. -/
abbrev niHolding : Machine (NiSystem × NiHeld) NiInput NiEffect := niSystem.monitored NiHeld.watch

/-- The request in the slot can be answered: its id is the one expected, the time
for the answer stands until its own thread has read it, and a response with its id
is accepted. -/
structure Answerable (x : NiSystem) (held : NiHeld) : Prop where
  id : x.data.rawRequest.isSome = true → held.notif.notificationId = x.data.reqID
  time : x.data.rawRequest.isSome = true →
    (∀ thread, held.thread = some thread → x.threads[thread]? = some .created) →
      x.data.respTimeLeft = held.respTime
  accepted : x.data.rawRequest.isSome = true → ∀ userResponse,
    locEngNiRespond true x.data held.notif.notificationId userResponse =
      { x.data with resp := userResponse, respRecvd := true }

/-- Before a step: the unlocked tail of a thread is about to run while a request is
in the slot. -/
def NiSystem.TailOvertaken (x : NiSystem) : NiInput → Prop
  | .tail thread => x.hasLeft thread = true ∧ x.data.rawRequest.isSome = true
  | _ => False

instance (x : NiSystem) : (input : NiInput) → Decidable (x.TailOvertaken input)
  | .tail _ => inferInstanceAs (Decidable (_ ∧ _))
  | .request .. | .reset | .respond .. | .start _ | .wake .. =>
      inferInstanceAs (Decidable False)

/-! ## What a step does to the slot -/

/-- The slot is not filled, and what belongs to the request in it is left alone. -/
structure NiSystem.KeepsHeld (before after : NiSystem) : Prop where
  slot : after.data.rawRequest.isSome = true → before.data.rawRequest.isSome = true
  reqID : after.data.reqID = before.data.reqID
  respTimeLeft : after.data.respTimeLeft = before.data.respTimeLeft

section Steps

variable {x : NiSystem} {held : NiHeld}

theorem NiSystem.KeepsHeld.refl (x : NiSystem) : x.KeepsHeld x := ⟨fun busy => busy, rfl, rfl⟩

theorem keepsHeld_reset :
    x.KeepsHeld { x with data := (locEngNiResetOnEngineRestart true x.data).1 } := by
  cases slot : x.data.rawRequest with
  | none => simpa [locEngNiResetOnEngineRestart, slot] using NiSystem.KeepsHeld.refl x
  | some data => exact ⟨by simp [slot], by simp [locEngNiResetOnEngineRestart, slot],
      by simp [locEngNiResetOnEngineRestart, slot]⟩

theorem keepsHeld_respond (notifId : ℤ) (userResponse : GpsUserResponseType) :
    x.KeepsHeld { x with data := locEngNiRespond true x.data notifId userResponse } := by
  by_cases accepted : notifId = x.data.reqID ∧ x.data.rawRequest.isSome = true
  · exact ⟨fun _ => accepted.2, by simp [locEngNiRespond, accepted],
      by simp [locEngNiRespond, accepted]⟩
  · simpa only [locEngNiRespond, Bool.not_true, Bool.false_eq_true, if_false, accepted] using
      NiSystem.KeepsHeld.refl x

theorem keepsHeld_takeAnswer (thread : ℕ) : x.KeepsHeld (x.takeAnswer thread) :=
  ⟨nofun, rfl, rfl⟩

theorem keepsHeld_start (thread : ℕ) : x.KeepsHeld (x.start thread) := by
  unfold NiSystem.start
  split
  next =>
    split
    · exact keepsHeld_takeAnswer thread
    · exact ⟨fun busy => busy, rfl, rfl⟩
  next => exact .refl x

theorem keepsHeld_wake (thread : ℕ) (timedOut : Bool) : x.KeepsHeld (x.wake thread timedOut) := by
  unfold NiSystem.wake
  split
  next =>
    split
    · exact ⟨nofun, rfl, rfl⟩
    · split
      · exact keepsHeld_takeAnswer thread
      · exact .refl x
  next => exact .refl x

/-- A request that finds the slot free is the one that the observer follows next. -/
theorem watch_request_free (free : x.data.rawRequest = none) (notif : GpsNiNotification)
    (passThrough : Option PassThrough) (created : Bool) :
    held.watch (niSystem.stepOn x (.request notif passThrough created)) =
      ⟨{ notif with notificationId := x.data.reqID },
        if created then some x.threads.length else none⟩ := by
  by_cases override : notif.notifyFlags = gpsNiPrivacyOverride <;> cases created <;>
    simp [NiHeld.watch, Machine.stepOn, niSystem, NiSystem.request, locEngNiRequestHandler, free,
      override, NiEffect.notified, List.findSome?]

/-- A request that finds the slot taken is not notified. -/
theorem watch_request_busy (busy : x.data.rawRequest.isSome = true) (notif : GpsNiNotification)
    (passThrough : Option PassThrough) (created : Bool) :
    held.watch (niSystem.stepOn x (.request notif passThrough created)) = held := by
  cases passThrough <;>
    simp [NiHeld.watch, Machine.stepOn, niSystem, NiSystem.request, locEngNiRequestHandler, busy,
      NiEffect.notified]

theorem watch_reset : held.watch (niSystem.stepOn x .reset) = held := by
  cases slot : x.data.rawRequest <;>
    simp [NiHeld.watch, Machine.stepOn, niSystem, locEngNiResetOnEngineRestart, slot,
      NiEffect.notified]

theorem watch_tail (thread : ℕ) : held.watch (niSystem.stepOn x (.tail thread)) = held := by
  have silent : (x.tail thread).2.findSome? NiEffect.notified = none := by
    unfold NiSystem.tail
    split
    next msg _ => cases msg <;> rfl
    next => rfl
  simp only [NiHeld.watch, Machine.stepOn, niSystem, silent]

theorem tail_of_hasLeft {thread : ℕ} (left : x.hasLeft thread = true) :
    (x.tail thread).1.data = { x.data with respTimeLeft := 0, reqID := x.data.reqID + 1 } := by
  unfold NiSystem.hasLeft at left
  split at left
  next msg here => simp [NiSystem.tail, here, niThreadTail]
  next => cases left

theorem tail_of_not_hasLeft {thread : ℕ} (left : ¬ x.hasLeft thread = true) :
    (x.tail thread).1 = x := by
  unfold NiSystem.hasLeft at left
  split at left
  next => exact absurd rfl left
  next other =>
    unfold NiSystem.tail
    split
    next msg here => exact absurd here (other msg)
    next => rfl

/-! ## The invariants -/

/-- While no tail is overtaken, the request in the slot owns `reqID` and
`respTimeLeft`. -/
structure HeldInTime (x : NiSystem) (held : NiHeld) : Prop where
  id : x.data.rawRequest.isSome = true → held.notif.notificationId = x.data.reqID
  time : x.data.rawRequest.isSome = true → x.data.respTimeLeft = held.respTime

theorem HeldInTime.init : HeldInTime .init .init := ⟨nofun, nofun⟩

theorem HeldInTime.keeps (inTime : HeldInTime x held) {after : NiSystem}
    (keeps : x.KeepsHeld after) : HeldInTime after held where
  id busy := by rw [keeps.reqID]; exact inTime.id (keeps.slot busy)
  time busy := by rw [keeps.respTimeLeft]; exact inTime.time (keeps.slot busy)

theorem HeldInTime.answerable (inTime : HeldInTime x held) : Answerable x held where
  id := inTime.id
  time busy _ := inTime.time busy
  accepted busy userResponse := by simp [locEngNiRespond, inTime.id busy, busy]

theorem HeldInTime.step {watched : NiSystem × NiHeld} (inTime : HeldInTime watched.1 watched.2)
    {input : NiInput} (spared : ¬ watched.1.TailOvertaken input) :
    HeldInTime (niHolding.step watched input).1.1 (niHolding.step watched input).1.2 := by
  obtain ⟨x, held⟩ := watched
  change HeldInTime (niSystem.step x input).1 (held.watch (niSystem.stepOn x input))
  cases input with
  | request notif passThrough created =>
      by_cases busy : x.data.rawRequest.isSome = true
      · rw [watch_request_busy busy]
        change HeldInTime (x.request notif passThrough created).1 held
        rw [request_busy busy]
        exact inTime
      · have free : x.data.rawRequest = none := by simpa using busy
        rw [watch_request_free free]
        change HeldInTime (x.request notif passThrough created).1 _
        rw [request_free free]
        exact ⟨fun _ => rfl, fun _ => rfl⟩
  | reset => rw [watch_reset]; exact inTime.keeps keepsHeld_reset
  | respond notifId userResponse => exact inTime.keeps (keepsHeld_respond notifId userResponse)
  | start thread => exact inTime.keeps (keepsHeld_start thread)
  | wake thread timedOut => exact inTime.keeps (keepsHeld_wake thread timedOut)
  | tail thread =>
      rw [watch_tail]
      change HeldInTime (x.tail thread).1 held
      by_cases left : x.hasLeft thread = true
      · have free : ¬ x.data.rawRequest.isSome = true := fun busy => spared ⟨left, busy⟩
        refine ⟨fun busy => ?_, fun busy => ?_⟩
        · rw [tail_of_hasLeft left] at busy
          exact absurd busy free
        · rw [tail_of_hasLeft left] at busy
          exact absurd busy free
      · rw [tail_of_not_hasLeft left]
        exact inTime

/-- After the tail of an overtaken thread the request in the slot waits under an id
that is not expected any more. -/
theorem not_answerable_tail (answerable : Answerable x held) {thread : ℕ}
    (overtaken : x.TailOvertaken (.tail thread)) : ¬ Answerable (x.tail thread).1 held := by
  intro after
  have busy : x.data.rawRequest.isSome = true := overtaken.2
  have expected : held.notif.notificationId = x.data.reqID := answerable.id busy
  have counted := after.id
  rw [tail_of_hasLeft overtaken.1] at counted
  have next : held.notif.notificationId = x.data.reqID + 1 := counted busy
  omega

theorem HeldInTime.run {watched : NiSystem × NiHeld} (inTime : HeldInTime watched.1 watched.2)
    {inputs : List NiInput}
    (spared : ∀ taken ∈ niHolding.steps watched inputs,
      ¬ taken.before.1.TailOvertaken taken.input) :
    ∀ taken ∈ niHolding.steps watched inputs, HeldInTime taken.after.1 taken.after.2 :=
  @Machine.steps_spared _ _ _ niHolding (fun watched => HeldInTime watched.1 watched.2)
    (fun _ => True) (fun taken => ¬ taken.before.1.TailOvertaken taken.input)
    (fun taken => HeldInTime taken.after.1 taken.after.2)
    (fun _ _ inTime _ spared => inTime.step spared)
    (fun _ _ inTime _ spared => inTime.step spared) watched inTime inputs (fun _ _ => trivial)
    spared

end Steps

/-- **The request in the slot can be answered under the id that was notified for
it**, in every state of a run, exactly when no unlocked tail of a thread runs while
a request is in the slot. -/
theorem niAnswerable_iff (inputs : List NiInput) :
    (∀ taken ∈ niHolding.steps (.init, .init) inputs,
      Answerable taken.after.1 taken.after.2) ↔
    ∀ taken ∈ niHolding.steps (.init, .init) inputs,
      ¬ taken.before.1.TailOvertaken taken.input := by
  constructor
  · intro answerable taken member overtaken
    have start : Answerable NiSystem.init NiHeld.init := HeldInTime.init.answerable
    have before : Answerable taken.before.1 taken.before.2 :=
      @Machine.before_of_after _ _ _ niHolding (fun watched => Answerable watched.1 watched.2)
        (.init, .init) start inputs answerable taken member
    have after : Answerable taken.after.1 taken.after.2 := answerable taken member
    obtain ⟨earlier, input, later, -, rfl⟩ := Machine.mem_steps.mp member
    cases input with
    | tail thread =>
        have same : (niHolding.step (niHolding.run (.init, .init) earlier) (.tail thread)).1.2 =
            (niHolding.run (.init, .init) earlier).2 := watch_tail thread
        refine not_answerable_tail before overtaken ?_
        have next : Answerable _
          (niHolding.step (niHolding.run (.init, .init) earlier) (.tail thread)).1.2 := after
        rwa [same] at next
    | request notif passThrough created => exact overtaken
    | reset => exact overtaken
    | respond notifId userResponse => exact overtaken
    | start thread => exact overtaken
    | wake thread timedOut => exact overtaken
  · intro spared taken member
    exact (HeldInTime.init.run spared taken member).answerable

/-- The user denies request 7 and the thread leaves. Before its tail has run,
request 8 is notified, under the same id 0; the tail counts `reqID` up and clears
the time of request 8, whose thread has not read it, and the answer to
notification 0 is refused. -/
theorem not_niAnswerable :
    ∃ late, late = niHolding.run (.init, .init) [.request ⟨0, 1, 30⟩ (some 7) true, .start 0,
        .respond 0 gpsNiResponseDeny, .wake 0 false, .request ⟨0, 1, 30⟩ (some 8) true, .tail 0] ∧
      late.1.data.rawRequest = some 8 ∧ late.2.notif.notificationId = 0 ∧
      late.1.data.reqID = 1 ∧ late.1.threads[1]? = some .created ∧ late.2.respTime = 35 ∧
      late.1.data.respTimeLeft = 0 ∧
      locEngNiRespond true late.1.data 0 gpsNiResponseAccept = late.1.data ∧
      ¬ Answerable late.1 late.2 := by
  refine ⟨_, rfl, by decide, by decide, by decide, by decide, by decide, by decide, by decide, ?_⟩
  intro answerable
  exact absurd (answerable.id (by decide)) (by decide)

end Msm8660.Gps
