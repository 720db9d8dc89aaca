import Mathlib.Data.List.Basic
import Msm8660.Lib.Machine
import Msm8660.Gps.Ni

/-!
# The threads of network initiated requests

Every request starts a thread that waits for the answer of the user. The
handlers, `loc_eng_ni_respond`, a section of a thread under `tLock` and its
unlocked tail are steps, in any order and with any number of threads alive.

A reset for an engine restart wakes the thread by `respRecvd` and leaves the slot
free, with the old answer still in `resp`. A request that comes before the thread
has run inherits both. And the tail of an old thread counts `reqID` up while a new
request waits, so that `loc_eng_ni_respond` accepts an id under which nothing was
notified. `NiWatch` follows each request with the responses accepted for it, and
`niResponses_own` says that these are the only ways in which a request is answered
with an answer that is not its own.
-/

set_option autoImplicit false

namespace Msm8660.Gps

/-! ## The system -/

/-- Where a thread is in `ni_thread_proc`. -/
inductive NiThread where
  | created
  /-- in `pthread_cond_timedwait`, with the delay read at the start -/
  | waiting (delay : ℤ)
  /-- behind the critical section, with `msg` -/
  | leaving (msg : Option (GpsUserResponseType × PassThrough))
  | finished
deriving DecidableEq, Repr

/-- The record and the threads started so far, in the order of their start. -/
structure NiSystem where
  data : LocEngNiData
  threads : List NiThread
deriving DecidableEq, Repr

/-- One atomic step. -/
inductive NiInput where
  | request (notif : GpsNiNotification) (passThrough : Option PassThrough) (created : Bool)
  | reset
  | respond (notifId : ℤ) (userResponse : GpsUserResponseType)
  /-- A thread takes `tLock`, reads `respTimeLeft` and waits unless `respRecvd`. -/
  | start (thread : ℕ)
  /-- A thread comes back from `pthread_cond_timedwait`. -/
  | wake (thread : ℕ) (timedOut : Bool)
  | tail (thread : ℕ)
deriving DecidableEq, Repr

namespace NiSystem

/-- A thread ends its critical section. -/
def takeAnswer (x : NiSystem) (thread : ℕ) : NiSystem :=
  let (data, msg) := niThreadTakeAnswer x.data
  ⟨data, x.threads.set thread (.leaving msg)⟩

def start (x : NiSystem) (thread : ℕ) : NiSystem :=
  match x.threads[thread]? with
  | some .created =>
      if x.data.respRecvd then x.takeAnswer thread
      else { x with threads := x.threads.set thread (.waiting x.data.respTimeLeft) }
  | _ => x

/-- Without a timeout the loop tests `respRecvd` again. -/
def wake (x : NiSystem) (thread : ℕ) (timedOut : Bool) : NiSystem :=
  match x.threads[thread]? with
  | some (.waiting _) =>
      if timedOut then
        { x with data := { x.data with resp := gpsNiResponseNoresp } }.takeAnswer thread
      else if x.data.respRecvd then x.takeAnswer thread
      else x
  | _ => x

/-- Whether a thread is behind its critical section. -/
def hasLeft (x : NiSystem) (thread : ℕ) : Bool :=
  match x.threads[thread]? with
  | some (.leaving _) => true
  | _ => false

def tail (x : NiSystem) (thread : ℕ) : NiSystem × List NiEffect :=
  match x.threads[thread]? with
  | some (.leaving msg) =>
      let (data, effects) := niThreadTail x.data msg
      (⟨data, x.threads.set thread .finished⟩, effects)
  | _ => (x, [])

def request (x : NiSystem) (notif : GpsNiNotification) (passThrough : Option PassThrough)
    (created : Bool) : NiSystem × List NiEffect :=
  let (data, effects) := locEngNiRequestHandler true x.data notif passThrough created
  (⟨data, x.threads ++ if .threadCreated ∈ effects then [.created] else []⟩, effects)

end NiSystem

/-- The interface after `loc_eng_ni_init`. -/
def niSystem : Machine NiSystem NiInput NiEffect where
  step x input := match input with
    | .request notif passThrough created => x.request notif passThrough created
    | .reset =>
        let (data, effects) := locEngNiResetOnEngineRestart true x.data
        ({ x with data := data }, effects)
    | .respond notifId userResponse =>
        ({ x with data := locEngNiRespond true x.data notifId userResponse }, [])
    | .start thread => (x.start thread, [])
    | .wake thread timedOut => (x.wake thread timedOut, [])
    | .tail thread => x.tail thread

def NiSystem.init : NiSystem := ⟨.zero, []⟩

/-! ## Whose answer it is -/

/-- A request that was notified: its buffer, the id of its notification and the
responses accepted for it. -/
structure NiIssue where
  passThrough : Option PassThrough
  notificationId : ℤ
  accepted : List (ℤ × GpsUserResponseType)

/-- What an observer of the interface knows: the ids notified so far, the request
in the slot, and the request that each thread took from the slot. -/
structure NiWatch where
  issued : List ℤ
  current : NiIssue
  taken : ℕ → NiIssue

def NiWatch.init : NiWatch := ⟨[], ⟨none, 0, []⟩, fun _ => ⟨none, 0, []⟩⟩

namespace NiWatch

def notify (w : NiWatch) (x : NiSystem) (passThrough : Option PassThrough) : NiWatch :=
  if x.data.rawRequest.isSome then w
  else { w with issued := x.data.reqID :: w.issued, current := ⟨passThrough, x.data.reqID, []⟩ }

/-- `loc_eng_ni_respond` accepts a response while the request is in the slot. -/
def respond (w : NiWatch) (x : NiSystem) (notifId : ℤ) (userResponse : GpsUserResponseType) :
    NiWatch :=
  if notifId = x.data.reqID ∧ x.data.rawRequest.isSome = true then
    { w with current :=
        { w.current with accepted := (notifId, userResponse) :: w.current.accepted } }
  else w

def take (w : NiWatch) (thread : ℕ) : NiWatch :=
  { w with taken := fun other => if other = thread then w.current else w.taken other }

/-- The section of a thread that leaves it takes the request from the slot. -/
def afterSection (w : NiWatch) (before after : NiSystem) (thread : ℕ) : NiWatch :=
  if after.hasLeft thread && !before.hasLeft thread then w.take thread else w

/-- The observer after a step. -/
def watch (w : NiWatch) (step : Machine.Step NiSystem NiInput NiEffect) : NiWatch :=
  match step.input with
  | .request _ passThrough _ => w.notify step.before passThrough
  | .respond notifId userResponse => w.respond step.before notifId userResponse
  | .start thread | .wake thread _ => w.afterSection step.before step.after thread
  | _ => w

end NiWatch

/-- A response for a request: the answer "no response", or one that was accepted
for the notification of this request. -/
def NiIssue.Answered (issue : NiIssue) (response : GpsUserResponseType)
    (passThroughData : PassThrough) : Prop :=
  response = gpsNiResponseNoresp ∨
    issue.passThrough = some passThroughData ∧
      (issue.notificationId, response) ∈ issue.accepted

/-- Before a request: the slot is free for it, and an old answer is still
announced. -/
def NiSystem.Inherits (x : NiSystem) : NiInput → Prop
  | .request _ passThrough _ =>
      passThrough.isSome = true ∧ x.data.rawRequest = none ∧ x.data.respRecvd = true ∧
        x.data.resp ≠ gpsNiResponseNoresp
  | _ => False

instance (x : NiSystem) : (input : NiInput) → Decidable (x.Inherits input)
  | .request .. => inferInstanceAs (Decidable (_ ∧ _))
  | .reset | .respond .. | .start _ | .wake .. | .tail _ => inferInstanceAs (Decidable False)

/-- Before a response: nothing was notified under its id, but it is accepted. -/
def NiWatch.Unissued (w : NiWatch) (x : NiSystem) : NiInput → Prop
  | .respond notifId _ =>
      notifId = x.data.reqID ∧ x.data.rawRequest.isSome = true ∧ notifId ∉ w.issued
  | _ => False

instance (w : NiWatch) (x : NiSystem) : (input : NiInput) → Decidable (w.Unissued x input)
  | .respond .. => inferInstanceAs (Decidable (_ ∧ _))
  | .request .. | .reset | .start _ | .wake .. | .tail _ => inferInstanceAs (Decidable False)

/-- A step in which a request inherits the answer to an older one, or gets an
answer to no notification. -/
def TakesForeign (step : Machine.Step (NiSystem × NiWatch) NiInput NiEffect) : Prop :=
  step.before.1.Inherits step.input ∨ step.before.2.Unissued step.before.1 step.input

instance (step : Machine.Step (NiSystem × NiWatch) NiInput NiEffect) :
    Decidable (TakesForeign step) := inferInstanceAs (Decidable (_ ∨ _))

/-! ## The invariant -/

/-- While no request inherits an answer, what is announced for the slot and what
the threads took from it is an answer to the right request. -/
structure OwnAnswers (x : NiSystem) (w : NiWatch) : Prop where
  issuedBelow : ∀ id ∈ w.issued, id ≤ x.data.reqID
  currentBelow : w.current.notificationId ≤ x.data.reqID
  newest : x.data.rawRequest.isSome = true → ∀ id ∈ w.issued, id ≤ w.current.notificationId
  slot : ∀ data, x.data.rawRequest = some data → w.current.passThrough = some data
  announced : ∀ data, x.data.rawRequest = some data → x.data.respRecvd = true →
    w.current.Answered x.data.resp data
  taken : ∀ thread response data, x.threads[thread]? = some (.leaving (some (response, data))) →
    (w.taken thread).Answered response data

theorem OwnAnswers.init : OwnAnswers .init .init where
  issuedBelow := nofun
  currentBelow := Int.le_refl _
  newest := nofun
  slot := nofun
  announced := nofun
  taken := by simp [NiSystem.init]

section Steps

variable {x : NiSystem} {w : NiWatch}

/-- The observer together with the system. -/
abbrev niWatched : Machine (NiSystem × NiWatch) NiInput NiEffect := niSystem.monitored NiWatch.watch

/-- A request that finds the slot taken leaves the system alone. -/
theorem request_busy (busy : x.data.rawRequest.isSome = true) (notif : GpsNiNotification)
    (passThrough : Option PassThrough) (created : Bool) :
    (x.request notif passThrough created).1 = x := by
  have none_created : .threadCreated ∉ passThrough.toList.map NiEffect.free := by simp
  simp [NiSystem.request, locEngNiRequestHandler, busy, none_created]

/-- A request that finds the slot free takes it and starts a thread. -/
theorem request_free (free : x.data.rawRequest = none) (notif : GpsNiNotification)
    (passThrough : Option PassThrough) (created : Bool) :
    (x.request notif passThrough created).1 =
      ⟨{ x.data with
          rawRequest := passThrough
          respTimeLeft :=
            5 + if notif.timeout ≠ 0 then notif.timeout else locNiNoResponseTime },
        x.threads ++ if created then [.created] else []⟩ := by
  have started : (.threadCreated ∈ (locEngNiRequestHandler true x.data notif passThrough
      created).2) ↔ created = true := by
    cases created <;> simp [locEngNiRequestHandler, free]
  simp only [NiSystem.request, started]
  simp [locEngNiRequestHandler, free]

theorem OwnAnswers.request (own : OwnAnswers x w) {notif : GpsNiNotification}
    {passThrough : Option PassThrough} {created : Bool}
    (fresh : ¬ x.Inherits (.request notif passThrough created)) :
    OwnAnswers (x.request notif passThrough created).1 (w.notify x passThrough) := by
  by_cases busy : x.data.rawRequest.isSome = true
  · rw [request_busy busy, NiWatch.notify, if_pos busy]
    exact own
  · have free : x.data.rawRequest = none := by simpa using busy
    rw [request_free free, NiWatch.notify, if_neg busy]
    refine ⟨?_, Int.le_refl _, ?_, fun data same => same, fun data same announced => ?_, ?_⟩
    · exact List.forall_mem_cons.mpr ⟨Int.le_refl _, own.issuedBelow⟩
    · intro _
      exact List.forall_mem_cons.mpr ⟨Int.le_refl _, own.issuedBelow⟩
    · left
      by_contra old
      exact fresh ⟨by simp [show passThrough = some data from same], free, announced, old⟩
    · intro thread response data here
      refine own.taken thread response data ?_
      have inside : thread < x.threads.length := by
        by_contra beyond
        rw [List.getElem?_append_right (by omega)] at here
        cases created <;> simp [List.getElem?_cons] at here
      rwa [List.getElem?_append_left inside] at here

theorem OwnAnswers.reset (own : OwnAnswers x w) :
    OwnAnswers { x with data := (locEngNiResetOnEngineRestart true x.data).1 } w := by
  cases held : x.data.rawRequest with
  | none => simpa [locEngNiResetOnEngineRestart, held] using own
  | some data =>
      simp only [locEngNiResetOnEngineRestart, held, Bool.not_true, Bool.false_eq_true, if_false]
      exact ⟨own.issuedBelow, own.currentBelow, nofun, nofun, nofun, own.taken⟩

/-- An accepted response is for the request in the slot. -/
theorem OwnAnswers.respond (own : OwnAnswers x w) {notifId : ℤ}
    {userResponse : GpsUserResponseType}
    (issued : ¬ w.Unissued x (.respond notifId userResponse)) :
    OwnAnswers { x with data := locEngNiRespond true x.data notifId userResponse }
      (w.respond x notifId userResponse) := by
  by_cases accepted : notifId = x.data.reqID ∧ x.data.rawRequest.isSome = true
  · obtain ⟨rfl, busy⟩ := accepted
    have member : x.data.reqID ∈ w.issued := by
      by_contra absent
      exact issued ⟨rfl, busy, absent⟩
    have id : x.data.reqID = w.current.notificationId :=
      Int.le_antisymm (own.newest busy _ member) own.currentBelow
    simp only [locEngNiRespond, busy, NiWatch.respond, Bool.not_true, Bool.false_eq_true, if_false,
      and_self, if_true]
    refine ⟨own.issuedBelow, own.currentBelow, own.newest, own.slot, ?_, own.taken⟩
    intro data held _
    refine Or.inr ⟨own.slot data held, ?_⟩
    rw [id]
    exact List.mem_cons_self ..
  · simp only [locEngNiRespond, Bool.not_true, Bool.false_eq_true, if_false, accepted,
      NiWatch.respond]
    exact own

/-- The thread takes an answer to the request that it takes. -/
theorem OwnAnswers.takeAnswer (own : OwnAnswers x w) (thread : ℕ)
    (answer : ∀ data, x.data.rawRequest = some data → w.current.Answered x.data.resp data) :
    OwnAnswers (x.takeAnswer thread) (w.take thread) := by
  refine ⟨own.issuedBelow, own.currentBelow, nofun, nofun, nofun,
    fun other response data here => ?_⟩
  have here : (x.threads.set thread (.leaving (x.data.rawRequest.map fun data =>
      (x.data.resp, data))))[other]? = some (.leaving (some (response, data))) := here
  by_cases same : other = thread
  · subst same
    have moved : x.data.rawRequest.map (fun data => (x.data.resp, data)) =
        some (response, data) := by
      have inside := (List.getElem?_eq_some_iff.mp here).1
      rw [List.getElem?_set_self (by simpa using inside)] at here
      simpa using here
    obtain ⟨_, held, pair⟩ := Option.map_eq_some_iff.mp moved
    cases pair
    simpa [NiWatch.take] using answer data held
  · rw [List.getElem?_set_ne (Ne.symm same)] at here
    simpa [NiWatch.take, same] using own.taken other response data here

/-- A thread that does not take anything may change its place. -/
theorem OwnAnswers.setThread (own : OwnAnswers x w) (thread : ℕ) {place : NiThread}
    (empty : ∀ msg, place ≠ .leaving msg) :
    OwnAnswers { x with threads := x.threads.set thread place } w := by
  refine ⟨own.issuedBelow, own.currentBelow, own.newest, own.slot, own.announced,
    fun other response data here => own.taken other response data ?_⟩
  by_cases same : other = thread
  · subst same
    have inside := (List.getElem?_eq_some_iff.mp here).1
    rw [List.getElem?_set_self (by simpa using inside)] at here
    exact absurd (Option.some.inj here) (empty _)
  · rwa [List.getElem?_set_ne (Ne.symm same)] at here

/-- A timeout announces "no response". -/
theorem OwnAnswers.timeOut (own : OwnAnswers x w) :
    OwnAnswers { x with data := { x.data with resp := gpsNiResponseNoresp } } w :=
  ⟨own.issuedBelow, own.currentBelow, own.newest, own.slot, fun _ _ _ => Or.inl rfl, own.taken⟩

theorem hasLeft_takeAnswer {thread : ℕ} (inside : thread < x.threads.length) :
    (x.takeAnswer thread).hasLeft thread = true := by
  simp [NiSystem.hasLeft, NiSystem.takeAnswer, inside]

theorem hasLeft_of_get {thread : ℕ} {place : NiThread} (here : x.threads[thread]? = some place)
    (empty : ∀ msg, place ≠ .leaving msg) : x.hasLeft thread = false := by
  cases place with
  | leaving msg => exact absurd rfl (empty msg)
  | created => simp [NiSystem.hasLeft, here]
  | waiting delay => simp [NiSystem.hasLeft, here]
  | finished => simp [NiSystem.hasLeft, here]

theorem NiWatch.afterSection_same (w : NiWatch) (x : NiSystem) (thread : ℕ) :
    w.afterSection x x thread = w := by
  simp [NiWatch.afterSection]

theorem OwnAnswers.start (own : OwnAnswers x w) (thread : ℕ) :
    OwnAnswers (x.start thread) (w.afterSection x (x.start thread) thread) := by
  unfold NiSystem.start
  split
  next here =>
    have inside := (List.getElem?_eq_some_iff.mp here).1
    have before : x.hasLeft thread = false := hasLeft_of_get here (by simp)
    by_cases announced : x.data.respRecvd = true
    · rw [if_pos announced, NiWatch.afterSection, hasLeft_takeAnswer inside, before]
      exact own.takeAnswer thread fun data held => own.announced data held announced
    · rw [if_neg announced, NiWatch.afterSection]
      have after : NiSystem.hasLeft
          { x with threads := x.threads.set thread (.waiting x.data.respTimeLeft) }
          thread = false := by
        simp [NiSystem.hasLeft, inside]
      rw [after]
      exact own.setThread thread (by simp)
  next => simpa only [NiWatch.afterSection_same] using own

theorem OwnAnswers.wake (own : OwnAnswers x w) (thread : ℕ) (timedOut : Bool) :
    OwnAnswers (x.wake thread timedOut) (w.afterSection x (x.wake thread timedOut) thread) := by
  unfold NiSystem.wake
  split
  next here =>
    have inside := (List.getElem?_eq_some_iff.mp here).1
    have before : x.hasLeft thread = false := hasLeft_of_get here (by simp)
    cases timedOut with
    | true =>
        have after : NiSystem.hasLeft (NiSystem.takeAnswer
            { x with data := { x.data with resp := gpsNiResponseNoresp } } thread) thread = true :=
          hasLeft_takeAnswer inside
        rw [if_pos rfl, NiWatch.afterSection, after, before]
        exact own.timeOut.takeAnswer thread fun _ _ => Or.inl rfl
    | false =>
        by_cases announced : x.data.respRecvd = true
        · rw [if_neg Bool.false_ne_true, if_pos announced, NiWatch.afterSection,
            hasLeft_takeAnswer inside, before]
          exact own.takeAnswer thread fun data held => own.announced data held announced
        · rw [if_neg Bool.false_ne_true, if_neg announced, NiWatch.afterSection_same]
          exact own
  next => simpa only [NiWatch.afterSection_same] using own

theorem OwnAnswers.tail (own : OwnAnswers x w) (thread : ℕ) : OwnAnswers (x.tail thread).1 w := by
  unfold NiSystem.tail
  split
  next msg here =>
    have kept : OwnAnswers { x with threads := x.threads.set thread .finished } w :=
      own.setThread thread (by simp)
    exact ⟨fun id member => Int.le_add_one (own.issuedBelow id member),
      Int.le_add_one own.currentBelow, kept.newest, kept.slot, kept.announced, kept.taken⟩
  next => exact own

theorem OwnAnswers.step {watched : NiSystem × NiWatch} (own : OwnAnswers watched.1 watched.2)
    {input : NiInput} (spared : ¬ TakesForeign (niWatched.stepOn watched input)) :
    OwnAnswers (niWatched.step watched input).1.1 (niWatched.step watched input).1.2 := by
  obtain ⟨fresh, issued⟩ := not_or.mp spared
  cases input with
  | request notif passThrough created => exact own.request fresh
  | reset => exact own.reset
  | respond notifId userResponse => exact own.respond issued
  | start thread => exact own.start thread
  | wake thread timedOut => exact own.wake thread timedOut
  | tail thread => exact own.tail thread

theorem OwnAnswers.run {watched : NiSystem × NiWatch} (own : OwnAnswers watched.1 watched.2)
    {inputs : List NiInput}
    (spared : ∀ taken ∈ niWatched.steps watched inputs, ¬ TakesForeign taken) :
    OwnAnswers (niWatched.run watched inputs).1 (niWatched.run watched inputs).2 := by
  have kept : ∀ (watched : NiSystem × NiWatch) input, OwnAnswers watched.1 watched.2 → True →
      ¬ TakesForeign (niWatched.stepOn watched input) →
        OwnAnswers (niWatched.step watched input).1.1 (niWatched.step watched input).1.2 :=
    fun _ _ own _ spared => own.step spared
  exact @Machine.run_spared _ _ _ niWatched (fun watched => OwnAnswers watched.1 watched.2)
    (fun _ => True) (¬ TakesForeign ·) kept watched own inputs (fun _ _ => trivial) spared

/-- Only the tail of a thread sends a response, and it sends what it took. -/
theorem sent_by_tail {input : NiInput} {response : GpsUserResponseType} {data : PassThrough}
    (sent : .informNiResponse response data ∈ (niSystem.step x input).2) :
    ∃ thread, input = .tail thread ∧
      x.threads[thread]? = some (.leaving (some (response, data))) := by
  cases input with
  | request notif passThrough created =>
      simp only [niSystem, NiSystem.request, locEngNiRequestHandler] at sent
      cases held : x.data.rawRequest with
      | none => cases created <;> simp [held] at sent
      | some old => simp [held] at sent
  | reset =>
      simp only [niSystem, locEngNiResetOnEngineRestart] at sent
      cases held : x.data.rawRequest with
      | none => simp [held] at sent
      | some old => simp [held] at sent
  | respond notifId userResponse => cases sent
  | start thread => cases sent
  | wake thread timedOut => cases sent
  | tail thread =>
      refine ⟨thread, rfl, ?_⟩
      simp only [niSystem, NiSystem.tail] at sent
      split at sent
      next msg here =>
        cases msg with
        | none => simp [niThreadTail] at sent
        | some answer =>
            obtain ⟨rfl, rfl⟩ : response = answer.1 ∧ data = answer.2 := by
              simpa [niThreadTail] using sent
            exact here
      next => cases sent

/-- **A request is only ever answered with its own answer.** After every
interleaving in which no request inherits the answer to an older one or gets an
answer to no notification, a response that is sent next is sent by the tail of a
thread, and it is "no response" or was accepted for the notification of the request
that this thread took. -/
theorem niResponses_own (inputs : List NiInput)
    (spared : ∀ taken ∈ niWatched.steps (.init, .init) inputs, ¬ TakesForeign taken)
    (input : NiInput) (response : GpsUserResponseType) (data : PassThrough)
    (sent : .informNiResponse response data ∈
      (niSystem.step (niSystem.run .init inputs) input).2) :
    ∃ thread, input = .tail thread ∧
      ((niWatched.run (.init, .init) inputs).2.taken thread).Answered response data := by
  obtain ⟨thread, isTail, here⟩ := sent_by_tail sent
  have own : OwnAnswers (niWatched.run (.init, .init) inputs).1 _ := OwnAnswers.init.run spared
  rw [Machine.monitored_run_fst] at own
  exact ⟨thread, isTail, own.taken thread response data here⟩

/-- The user accepts a request and the thread sends the answer. -/
theorem niResponses_own_accept :
    ∃ thread, NiInput.tail 0 = .tail thread ∧
      ((niWatched.run (.init, .init) [.request ⟨0, 1, 30⟩ (some 7) true, .start 0,
        .respond 0 gpsNiResponseAccept, .wake 0 false]).2.taken thread).Answered
          gpsNiResponseAccept 7 :=
  niResponses_own _ (by decide) (.tail 0) gpsNiResponseAccept 7 (by decide)

/-- An engine restart lets the next request inherit the answer: after a request
that the user accepted, that "accept" is sent for the next one, which nobody has
answered; and with no response at all, the zero of the `memset` is sent. Without a
restart, a "deny" for notification 1 is sent for a request notified under 0. -/
theorem not_niResponses_own_restart :
    (.informNiResponse gpsNiResponseAccept 8 ∈ (niSystem.step (niSystem.run .init
        [.request ⟨0, 1, 30⟩ (some 7) true, .start 0, .respond 0 gpsNiResponseAccept, .reset,
          .request ⟨0, 1, 30⟩ (some 8) true, .wake 0 false]) (.tail 0)).2 ∧
      ¬ ((niWatched.run (.init, .init)
        [.request ⟨0, 1, 30⟩ (some 7) true, .start 0, .respond 0 gpsNiResponseAccept, .reset,
          .request ⟨0, 1, 30⟩ (some 8) true, .wake 0 false]).2.taken 0).Answered
            gpsNiResponseAccept 8) ∧
    (.informNiResponse 0 8 ∈ (niSystem.step (niSystem.run .init
        [.request ⟨0, 1, 30⟩ (some 7) true, .reset, .request ⟨0, 1, 30⟩ (some 8) true,
          .start 0]) (.tail 0)).2 ∧
      ¬ ((niWatched.run (.init, .init)
        [.request ⟨0, 1, 30⟩ (some 7) true, .reset, .request ⟨0, 1, 30⟩ (some 8) true,
          .start 0]).2.taken 0).Answered 0 8) ∧
    (.informNiResponse gpsNiResponseDeny 8 ∈ (niSystem.step (niSystem.run .init
        [.request ⟨0, 1, 30⟩ (some 7) true, .start 0, .respond 0 gpsNiResponseAccept,
          .wake 0 false, .request ⟨0, 1, 30⟩ (some 8) true, .tail 0,
          .respond 1 gpsNiResponseDeny, .start 1]) (.tail 1)).2 ∧
      ¬ ((niWatched.run (.init, .init)
        [.request ⟨0, 1, 30⟩ (some 7) true, .start 0, .respond 0 gpsNiResponseAccept,
          .wake 0 false, .request ⟨0, 1, 30⟩ (some 8) true, .tail 0,
          .respond 1 gpsNiResponseDeny, .start 1]).2.taken 1).Answered gpsNiResponseDeny 8) := by
  refine ⟨⟨by decide, ?_⟩, ⟨by decide, ?_⟩, ⟨by decide, ?_⟩⟩
  · rintro (noresp | ⟨-, member⟩)
    · exact absurd noresp (by decide)
    · exact absurd member List.not_mem_nil
  · rintro (noresp | ⟨-, member⟩)
    · exact absurd noresp (by decide)
    · exact absurd member List.not_mem_nil
  · rintro (noresp | ⟨-, member⟩)
    · exact absurd noresp (by decide)
    · exact absurd (List.mem_singleton.mp member) (by decide)

end Steps

end Msm8660.Gps
